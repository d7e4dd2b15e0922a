import GuestAdditions.Submit.Execbuffer
import Mathlib.Algebra.Order.Group.Multiset
import Mathlib.Tactic.Abel

/-! What the ioctl for a job takes it drops or gives away: at each point the log has left what the
`struct virtio_gpu_submit` says, and the cleanup ends that. The exceptions are the event of a polled ring,
the reference of a walk whose wait fails, and what the queueing of the command does not take. -/
namespace GuestAdditions
open Holding

/-- What is held after the events of a log. -/
abbrev execAfter (log : List ExecEvent) (h : Multiset ExecRes) : Option (Multiset ExecRes) :=
  after ExecEvent.effect log h

/-- A resource that is there or not. -/
def held (b : Bool) (r : ExecRes) : Multiset ExecRes := if b then {r} else 0

lemma held_false (r : ExecRes) : held false r = 0 := rfl

/-- A file descriptor that is valid. -/
def fdHeld (fd : ℤ) : Multiset ExecRes := if 0 ≤ fd then {.fd fd} else 0

lemma fdHeld_none : fdHeld (-1) = 0 := rfl

lemma fdHeld_of_le {fd : ℤ} (h : 0 ≤ fd) : fdHeld fd = {.fd fd} := if_pos h

/-- The references in `in_syncobjs`. -/
def inObjs (syncobjs : List (Option ℕ)) : List ExecRes := (syncobjs.filterMap id).map .inObj

/-- The references in an entry of `post_deps`. -/
def PostDep.res (d : PostDep) : List ExecRes := (if d.chain then [.chain d.obj] else []) ++ [.outObj d.obj]

lemma PostDep.res_eq (d : PostDep) :
    (d.res : Multiset ExecRes) = held d.chain (.chain d.obj)+{.outObj d.obj} := by
  cases hc : d.chain <;> simp only [PostDep.res,hc] <;> rfl

/-- The array and the references in it. -/
def inOwned (syncobjs : Option (List (Option ℕ))) : Multiset ExecRes :=
  (syncobjs.map fun objs => (inObjs objs : Multiset ExecRes)+{.inArray}).getD 0

def outOwned (postDeps : Option (List PostDep)) : Multiset ExecRes :=
  (postDeps.map fun deps => (deps.flatMap PostDep.res : Multiset ExecRes)+{.outArray}).getD 0

/-- What the state says is held. -/
def SubmitState.owned (s : SubmitState) : Multiset ExecRes :=
  inOwned s.inSyncobjs+outOwned s.postDeps+held s.buf .buf+held s.buflist .buflist+
    fdHeld s.outFenceFd+held s.outFence .outFence+held s.syncFile .syncFile+held s.event .event+
    held s.locked .resv

/-- A wait that fails. -/
def ExecEvent.failedWait : ExecEvent → Bool
  | wait _ ret => ret != 0
  | _ => false

/-- A wait of the log has failed. -/
def waitFailed (log : List ExecEvent) : Bool := log.any ExecEvent.failedWait

/-- What a failed wait leaves behind. -/
def cursorLeft (log : List ExecEvent) : Multiset ExecRes := held (waitFailed log) .cursor

section Lists
variable {context i : ℕ} {h : Multiset ExecRes} {r : ExecRes} {log : List ExecEvent}

lemma execAfter_take : execAfter (.take r::log) h = execAfter log (r ::ₘ h) :=
  after_takes (show ExecEvent.effect (.take r) = .takes r from rfl)

lemma execAfter_drop : execAfter (.drop r::log) (r ::ₘ h) = execAfter log h :=
  after_ends (show ExecEvent.effect (.drop r) = .ends r from rfl)

lemma execAfter_give : execAfter (.give r::log) (r ::ₘ h) = execAfter log h :=
  after_ends (show ExecEvent.effect (.give r) = .ends r from rfl)

lemma execAfter_wait {ret : ℤ} (hr : .cursor ∈ h) : execAfter (.wait i ret::log) h = execAfter log h :=
  after_uses (show ExecEvent.effect (.wait i ret) = .uses .cursor from rfl) hr

lemma execAfter_attach {fence : Bool} (hr : .outObj i ∈ h) :
    execAfter (.attach i fence::log) h = execAfter log h :=
  after_uses (show ExecEvent.effect (.attach i fence) = .uses (.outObj i) from rfl) hr

lemma drop_one (r : ExecRes) : execAfter [.drop r] {r} = some 0 := by
  rw [← Multiset.cons_zero]
  exact execAfter_drop

lemma give_one (r : ExecRes) : execAfter [.give r] {r} = some 0 := by
  rw [← Multiset.cons_zero]
  exact execAfter_give

lemma whenHeld_drop (b : Bool) (r : ExecRes) : execAfter (whenHeld b (.drop r)) (held b r) = some 0 := by
  cases b with
  | false => rfl
  | true => exact drop_one r

lemma whenHeld_give (b : Bool) (r : ExecRes) : execAfter (whenHeld b (.give r)) (held b r) = some 0 := by
  cases b with
  | false => rfl
  | true => exact give_one r

lemma whenHeld_take (b : Bool) (r : ExecRes) : execAfter (whenHeld b (.take r)) 0 = some (held b r) := by
  cases b <;> rfl

@[simp] lemma waitFailed_append (log log' : List ExecEvent) :
    waitFailed (log ++ log') = (waitFailed log || waitFailed log') := List.any_append

lemma waitFailed_of_forall {log : List ExecEvent} (h : ∀ e ∈ log, e.failedWait = false) :
    waitFailed log = false := by
  apply List.any_eq_false.mpr
  intro e he
  rw [h e he]
  decide

@[simp] lemma waitFailed_whenHeld_take (b : Bool) : waitFailed (whenHeld b (.take r)) = false := by
  cases b <;> rfl

@[simp] lemma waitFailed_whenHeld_drop (b : Bool) : waitFailed (whenHeld b (.drop r)) = false := by
  cases b <;> rfl

/-- The log of a walk has a failed wait exactly if the walk fails. -/
theorem walkFences_failed (context : ℕ) (fs : List InFence) :
    waitFailed (walkFences context fs).2 = decide ((walkFences context fs).1 ≠ 0) := by
  induction fs with
  | nil => rfl
  | cons f fs ih =>
    unfold walkFences
    split
    · exact ih
    split
    · rename_i hw
      simp [waitFailed,ExecEvent.failedWait,hw]
    · rename_i hw
      simp only [waitFailed,List.any_cons,ExecEvent.failedWait,not_not.mp hw,bne_self_eq_false,
        Bool.false_or]
      exact ih

lemma walkFences_after (fs : List InFence) :
    execAfter (walkFences context fs).2 (.cursor ::ₘ h) =
      some (h+cursorLeft (walkFences context fs).2) := by
  have hmem : .cursor ∈ .cursor ::ₘ h := Multiset.mem_cons_self _ h
  induction fs with
  | nil => exact execAfter_drop.trans (congrArg some (Multiset.add_zero h).symm)
  | cons f fs ih =>
    unfold walkFences
    split
    · exact ih
    split
    · rename_i hw
      have hleft : cursorLeft [.wait f.context f.wait] = {.cursor} := by
        simp [cursorLeft,waitFailed,ExecEvent.failedWait,hw,held]
      refine (execAfter_wait hmem).trans (congrArg some ?_)
      rw [hleft,Multiset.add_comm,Multiset.singleton_add]
    · rename_i hw
      refine ((execAfter_wait hmem).trans ih).trans (congrArg some ?_)
      simp [cursorLeft,waitFailed,ExecEvent.failedWait,not_not.mp hw]

/-- The reference to the fence is dropped, however the wait ends; that of the walk is left by a failure. -/
theorem wait_after (context : ℕ) (fs : List InFence) :
    execAfter (.take .inFence::((dmaFenceWait context fs).2 ++ [.drop .inFence])) h =
      some (h+cursorLeft (dmaFenceWait context fs).2) := by
  have hwalk : execAfter (dmaFenceWait context fs).2 (.inFence ::ₘ h) =
      some (.inFence ::ₘ (h+cursorLeft (dmaFenceWait context fs).2)) := by
    refine execAfter_take.trans ((walkFences_after fs).trans ?_)
    rw [Multiset.cons_add]
    rfl
  rw [execAfter_take,execAfter,after_trans hwalk]
  exact execAfter_drop

lemma wait_failed (context : ℕ) (fs : List InFence) :
    waitFailed (.take .inFence::((dmaFenceWait context fs).2 ++ [.drop .inFence])) =
      decide ((dmaFenceWait context fs).1 ≠ 0) := by
  have hlog : waitFailed (.take .inFence::((dmaFenceWait context fs).2 ++ [.drop .inFence])) =
      waitFailed (walkFences context fs).2 := by
    simp [waitFailed,dmaFenceWait,ExecEvent.failedWait]
  rw [hlog,walkFences_failed]
  rfl

lemma cursorLeft_wait (fs : List InFence) :
    cursorLeft (.take .inFence::((dmaFenceWait context fs).2 ++ [.drop .inFence])) =
      cursorLeft (dmaFenceWait context fs).2 := by
  simp [cursorLeft,waitFailed,ExecEvent.failedWait]

/-- The loop leaves the references of the entries that it filled, and has waited for all if it succeeds. -/
theorem parseDepsFrom_after (context : ℕ) (ds : List InDesc) (i : ℕ) :
    execAfter (parseDepsFrom context i ds).2.2 0 =
      some ((inObjs (parseDepsFrom context i ds).2.1 : Multiset ExecRes)+
        cursorLeft (parseDepsFrom context i ds).2.2) ∧
      ((parseDepsFrom context i ds).1 = 0 → waitFailed (parseDepsFrom context i ds).2.2 = false) := by
  induction ds generalizing i with
  | nil => exact ⟨rfl,fun _ => rfl⟩
  | cons d ds ih =>
    have hwait := wait_after (h := 0) context d.fences
    rw [← cursorLeft_wait] at hwait
    unfold parseDepsFrom
    split
    · exact ⟨rfl,fun _ => rfl⟩
    split
    · exact ⟨rfl,fun _ => rfl⟩
    split
    · exact ⟨rfl,fun _ => rfl⟩
    simp only
    split
    · rename_i hw
      exact ⟨hwait,fun h0 => absurd h0 hw⟩
    rename_i hw
    have hnone := wait_failed context d.fences
    rw [decide_eq_false hw] at hnone
    rw [cursorLeft,hnone,held_false,Multiset.add_zero] at hwait
    split
    · split
      · exact ⟨hwait.trans (by rw [cursorLeft,hnone]; rfl),fun h0 => by cases h0⟩
      · obtain ⟨hrest,hall⟩ := ih (i+1)
        have hrest := after_add hrest {.inObj i}
        rw [Multiset.zero_add,Multiset.add_comm] at hrest
        refine ⟨?_,fun h0 => ?_⟩
        · rw [execAfter,after_trans hwait]
          refine execAfter_take.trans (hrest.trans (congrArg some ?_))
          simp only [cursorLeft,waitFailed_append,hnone,Bool.false_or]
          rw [← Multiset.add_assoc]
          rfl
        · rw [waitFailed_append,hnone]
          exact hall h0
    · obtain ⟨hrest,hall⟩ := ih (i+1)
      refine ⟨?_,fun h0 => ?_⟩
      · rw [execAfter,after_trans hwait]
        refine hrest.trans (congrArg some ?_)
        simp only [cursorLeft,waitFailed_append,hnone,Bool.false_or]
        rfl
      · rw [waitFailed_append,hnone]
        exact hall h0

lemma freeSyncobjs_failed (objs : List (Option ℕ)) : waitFailed (freeSyncobjs objs) = false := by
  refine waitFailed_of_forall fun e he => ?_
  rcases List.mem_append.mp he with he | he
  · obtain ⟨i,-,rfl⟩ := List.mem_map.mp he
    rfl
  · rw [List.mem_singleton.mp he]
    rfl

lemma freeSyncobjs_after (objs : List (Option ℕ)) :
    execAfter (freeSyncobjs objs) ((inObjs objs : Multiset ExecRes)+{.inArray}) = some 0 := by
  have hobjs : execAfter ((objs.filterMap id).reverse.map fun i => .drop (.inObj i))
      (inObjs objs : Multiset ExecRes) = some 0 :=
    after_ends_reverse (fun i => (rfl : ExecEvent.effect (.drop (.inObj i)) = .ends (.inObj i))) _
  rw [freeSyncobjs,List.filterMap_reverse]
  exact after_par hobjs (drop_one _)

lemma resetSyncobjs_after (objs : List (Option ℕ)) :
    execAfter (resetSyncobjs objs) ((inObjs objs : Multiset ExecRes)+{.inArray}) =
      some ((inObjs objs : Multiset ExecRes)+{.inArray}) := by
  have heffect : ∀ i, ExecEvent.effect (.reset i) = .uses (ExecRes.inObj i) := fun _ => rfl
  apply after_uses_map heffect
  intro i hi
  exact Multiset.mem_add.mpr (.inl (Multiset.mem_coe.mpr (List.mem_map_of_mem hi)))

lemma parsePostDepsFrom_after (ds : List OutDesc) (i : ℕ) :
    execAfter (parsePostDepsFrom i ds).2.2 0 =
      some ((parsePostDepsFrom i ds).2.1.flatMap PostDep.res : Multiset ExecRes) := by
  induction ds generalizing i with
  | nil => rfl
  | cons d ds ih =>
    unfold parsePostDepsFrom
    split
    · rfl
    split
    · rfl
    split
    · rfl
    simp only
    split
    · rw [execAfter,after_trans (whenHeld_take _ _)]
      exact whenHeld_drop _ _
    · have hrest := after_add (ih (i+1)) (.outObj i ::ₘ held (decide (d.point ≠ 0)) (.chain i))
      rw [Multiset.zero_add] at hrest
      dsimp only
      rw [execAfter,after_trans (whenHeld_take _ _)]
      refine execAfter_take.trans (hrest.trans (congrArg some ?_))
      rw [List.flatMap_cons,← Multiset.coe_add,PostDep.res_eq,← Multiset.singleton_add]
      abel

lemma parsePostDepsFrom_failed (ds : List OutDesc) (i : ℕ) :
    waitFailed (parsePostDepsFrom i ds).2.2 = false := by
  induction ds generalizing i with
  | nil => rfl
  | cons d ds ih =>
    unfold parsePostDepsFrom
    split
    · rfl
    split
    · rfl
    split
    · rfl
    simp only
    split
    · rw [waitFailed_append,waitFailed_whenHeld_take,waitFailed_whenHeld_drop]
      rfl
    · rw [waitFailed_append,waitFailed_whenHeld_take]
      exact ih (i+1)

lemma freePostDeps_failed (deps : List PostDep) : waitFailed (freePostDeps deps) = false := by
  refine waitFailed_of_forall fun e he => ?_
  rcases List.mem_append.mp he with he | he
  · obtain ⟨d,-,he⟩ := List.mem_flatMap.mp he
    rcases List.mem_append.mp he with he | he
    · cases hc : d.chain with
      | false => simp [whenHeld,hc] at he
      | true =>
        simp only [whenHeld,hc,if_true] at he
        rw [List.mem_singleton.mp he]
        rfl
    · rw [List.mem_singleton.mp he]
      rfl
  · rw [List.mem_singleton.mp he]
    rfl

lemma depRes_after (d : PostDep) :
    execAfter (whenHeld d.chain (.drop (.chain d.obj)) ++ [.drop (.outObj d.obj)])
      (d.res : Multiset ExecRes) = some 0 := by
  rw [d.res_eq]
  exact after_par (whenHeld_drop _ _) (drop_one _)

lemma freePostDeps_after (deps : List PostDep) :
    execAfter (freePostDeps deps) ((deps.flatMap PostDep.res : Multiset ExecRes)+{.outArray}) = some 0 := by
  have hdeps : execAfter (deps.reverse.flatMap fun d =>
      whenHeld d.chain (.drop (.chain d.obj)) ++ [.drop (.outObj d.obj)])
      (deps.flatMap PostDep.res : Multiset ExecRes) = some 0 := by
    induction deps with
    | nil => rfl
    | cons d deps ih =>
      rw [List.reverse_cons,List.flatMap_append,List.flatMap_singleton,List.flatMap_cons,
        ← Multiset.coe_add,Multiset.add_comm]
      exact after_par ih (depRes_after d)
  exact after_par hdeps (drop_one _)

lemma processPostDeps_after (outFence : Bool) (deps : List PostDep) :
    execAfter (processPostDeps outFence deps) (deps.flatMap PostDep.res : Multiset ExecRes) =
      some ((deps.map fun d => { d with chain := false }).flatMap PostDep.res : Multiset ExecRes) := by
  induction deps with
  | nil => rfl
  | cons d deps ih =>
    have hd : execAfter (.attach d.obj outFence::whenHeld d.chain (.give (.chain d.obj)))
        (d.res : Multiset ExecRes) = some {.outObj d.obj} := by
      rw [d.res_eq,execAfter_attach (by simp)]
      exact (after_add (whenHeld_give _ _) _).trans (congrArg some (Multiset.zero_add _))
    rw [processPostDeps,List.flatMap_cons,List.flatMap_cons,← Multiset.coe_add]
    exact after_par hd ih

end Lists

/-- A part has left held what the state behind it says, and the reference of a walk that failed. The state has
`Q` if the part succeeds, and `E` if it fails. -/
structure Kept (E Q : SubmitState → Prop) (before : Multiset ExecRes)
    (r : ℤ × SubmitState × List ExecEvent) : Prop where
  log : execAfter r.2.2 before = some (r.2.1.owned+cursorLeft r.2.2)
  done : r.1 = 0 → waitFailed r.2.2 = false ∧ Q r.2.1
  failed : r.1 ≠ 0 → E r.2.1

/-- The part does so from every state with `P`. -/
def ExecPart.Keeps (E P : SubmitState → Prop) (f : ExecPart) (Q : SubmitState → Prop) : Prop :=
  ∀ s, P s → Kept E Q s.owned (f s)

section Parts
variable {E P Q R : SubmitState → Prop} {f g : ExecPart} {a : ExecArgs} {env : ExecEnv} {context : ℕ}
  {outFence event : Bool} {before : Multiset ExecRes} {ret : ℤ} {s : SubmitState} {log : List ExecEvent}

lemma cursorLeft_none (h : waitFailed log = false) : cursorLeft log = 0 := by rw [cursorLeft,h,held_false]

/-- A part that waits for nothing and succeeds. -/
theorem Kept.of_done (hlog : execAfter log before = some s.owned) (hnone : waitFailed log = false)
    (hq : Q s) : Kept E Q before (0,s,log) :=
  ⟨by rw [cursorLeft_none hnone,Multiset.add_zero]; exact hlog,fun _ => ⟨hnone,hq⟩,fun h => absurd rfl h⟩

/-- One that waits for nothing and fails. -/
theorem Kept.of_failed (hret : ret ≠ 0) (hlog : execAfter log before = some s.owned)
    (hnone : waitFailed log = false) (he : E s) : Kept E Q before (ret,s,log) :=
  ⟨by rw [cursorLeft_none hnone,Multiset.add_zero]; exact hlog,fun h => absurd h hret,fun _ => he⟩

lemma ExecPart.Keeps.andThen (hf : f.Keeps E P Q) (hg : g.Keeps E Q R) :
    (f.andThen g).Keeps E P R := by
  intro s hs
  have h := hf s hs
  simp only [ExecPart.andThen]
  split
  · rename_i hr
    exact ⟨h.log,fun h0 => absurd h0 hr,h.failed⟩
  · rename_i hr
    obtain ⟨hnone,hq⟩ := h.done (not_not.mp hr)
    have h' := hg _ hq
    have hlog := h.log
    rw [cursorLeft_none hnone,Multiset.add_zero] at hlog
    refine ⟨?_,fun h0 => ?_,h'.failed⟩
    · rw [cursorLeft,waitFailed_append,hnone,Bool.false_or]
      exact (after_trans hlog).trans h'.log
    · rw [waitFailed_append,hnone]
      exact h'.done h0

/-- What the parts behind the fence have still to set. -/
structure BuflistUnset (s : SubmitState) : Prop where
  buflist : s.buflist = false
  buf : s.buf = false
  outFenceFd : s.outFenceFd = -1
  syncFile : s.syncFile = false

structure BufUnset (s : SubmitState) : Prop where
  buf : s.buf = false
  outFenceFd : s.outFenceFd = -1
  syncFile : s.syncFile = false

structure FdUnset (s : SubmitState) : Prop where
  outFenceFd : s.outFenceFd = -1
  syncFile : s.syncFile = false

structure DepsUnset (s : SubmitState) : Prop where
  inSyncobjs : s.inSyncobjs = none
  postDeps : s.postDeps = none

/-- The fence and its event are as at the start, and nothing is locked. -/
structure Fenced (outFence event : Bool) (s : SubmitState) : Prop where
  outFence : s.outFence = outFence
  event : s.event = event
  locked : s.locked = false

/-- The buffer objects and the command of the arguments are there. -/
structure Loaded (a : ExecArgs) (s : SubmitState) : Prop where
  buflist : s.buflist = a.hasBos
  buf : s.buf = true

/-- There is a file for the descriptor. -/
def FdPaired (s : SubmitState) : Prop := s.syncFile = decide (0 ≤ s.outFenceFd)

/-- All that a job gives to the queue is there, with its objects locked. -/
structure Ready (a : ExecArgs) (outFence event : Bool) (s : SubmitState) : Prop where
  outFence : s.outFence = outFence
  event : s.event = event
  loaded : Loaded a s
  locked : s.locked = a.hasBos
  paired : FdPaired s

/-- A resource that is taken and noted in the state. -/
theorem keeps_take {s s' : SubmitState} {r : ExecRes} (h : s'.owned = s.owned+{r}) :
    execAfter [.take r] s.owned = some s'.owned := by
  rw [h,Multiset.add_comm]
  rfl

lemma initSubmitBuflist_keeps : (initSubmitBuflist a env).Keeps (Fenced outFence event)
    (fun s => Fenced outFence event s ∧ BuflistUnset s ∧ DepsUnset s)
    (fun s => Fenced outFence event s ∧ s.buflist = a.hasBos ∧ BufUnset s ∧ DepsUnset s) := by
  rintro s ⟨hf,hb,hd⟩
  unfold initSubmitBuflist
  split
  · rename_i hbos
    exact .of_done rfl rfl ⟨hf,hb.buflist.trans hbos.symm,⟨hb.buf,hb.outFenceFd,hb.syncFile⟩,hd⟩
  rename_i hbos
  rw [Bool.not_eq_false] at hbos
  split
  · exact .of_failed (fun h0 => by cases h0) rfl rfl hf
  split
  · exact .of_failed (fun h0 => by cases h0) (execAfter_take.trans execAfter_drop) rfl hf
  split
  · exact .of_failed (fun h0 => by cases h0) (execAfter_take.trans execAfter_drop) rfl hf
  · refine .of_done ?_ rfl ⟨⟨hf.outFence,hf.event,hf.locked⟩,hbos.symm,
      ⟨hb.buf,hb.outFenceFd,hb.syncFile⟩,hd.inSyncobjs,hd.postDeps⟩
    have howned : ({ s with buflist := true } : SubmitState).owned = .buflist ::ₘ s.owned := by
      simp only [SubmitState.owned,hb.buflist,held,if_true,Bool.false_eq_true,if_false,
        ← Multiset.singleton_add]
      abel
    rw [howned,execAfter_take,execAfter_take,Multiset.cons_swap]
    exact execAfter_drop

lemma initSubmitBuf_keeps : (initSubmitBuf env).Keeps (Fenced outFence event)
    (fun s => Fenced outFence event s ∧ s.buflist = a.hasBos ∧ BufUnset s ∧ DepsUnset s)
    (fun s => Fenced outFence event s ∧ Loaded a s ∧ FdUnset s ∧ DepsUnset s) := by
  rintro s ⟨hf,hbos,hb,hd⟩
  unfold initSubmitBuf
  split
  · rename_i hr
    exact .of_failed hr rfl rfl hf
  · refine .of_done (keeps_take ?_) rfl ⟨⟨hf.outFence,hf.event,hf.locked⟩,⟨hbos,rfl⟩,
      ⟨hb.outFenceFd,hb.syncFile⟩,hd.inSyncobjs,hd.postDeps⟩
    simp only [SubmitState.owned,hb.buf,held,if_true,Bool.false_eq_true,if_false]
    abel

lemma initSubmitFd_keeps : (initSubmitFd a env).Keeps (Fenced outFence event)
    (fun s => Fenced outFence event s ∧ Loaded a s ∧ FdUnset s ∧ DepsUnset s)
    (fun s => Fenced outFence event s ∧ Loaded a s ∧ DepsUnset s ∧ FdPaired s) := by
  rintro s ⟨hf,hl,hfd,hd⟩
  have hf' : ∀ fd sync, Fenced outFence event { s with outFenceFd := fd, syncFile := sync } :=
    fun _ _ => ⟨hf.outFence,hf.event,hf.locked⟩
  unfold initSubmitFd
  split
  · refine .of_done rfl rfl ⟨hf,hl,hd,?_⟩
    rw [FdPaired,hfd.syncFile,hfd.outFenceFd]
    rfl
  split
  · rename_i hneg
    exact .of_failed hneg.ne rfl rfl hf
  rename_i hpos
  rw [not_lt] at hpos
  split
  · refine .of_failed (fun h0 => by cases h0) (keeps_take ?_) rfl (hf' _ s.syncFile)
    simp only [SubmitState.owned,hfd.outFenceFd,fdHeld_none,fdHeld_of_le hpos]
    abel
  · refine .of_done ?_ rfl ⟨hf' _ _,⟨hl.buflist,hl.buf⟩,⟨hd.inSyncobjs,hd.postDeps⟩,
      (decide_eq_true hpos).symm⟩
    have howned : ({ s with outFenceFd := env.unusedFd, syncFile := true } : SubmitState).owned =
        .syncFile ::ₘ .fd env.unusedFd ::ₘ s.owned := by
      simp only [SubmitState.owned,hfd.outFenceFd,hfd.syncFile,fdHeld_none,fdHeld_of_le hpos,held,if_true,
        Bool.false_eq_true,if_false,← Multiset.singleton_add]
      abel
    rw [howned,execAfter_take,execAfter_take]
    rfl

lemma parsePostDeps_keeps : (parsePostDeps a env).Keeps (Fenced outFence event)
    (fun s => Fenced outFence event s ∧ Loaded a s ∧ DepsUnset s ∧ FdPaired s)
    (fun s => Fenced outFence event s ∧ Loaded a s ∧ s.inSyncobjs = none ∧ FdPaired s) := by
  rintro s ⟨hf,hl,hd,hp⟩
  unfold parsePostDeps
  split
  · exact .of_done rfl rfl ⟨hf,hl,hd.inSyncobjs,hp⟩
  split
  · exact .of_failed (fun h0 => by cases h0) rfl rfl hf
  have hparse := after_add (parsePostDepsFrom_after a.outSyncobjs 0) ({.outArray}+s.owned)
  have hnone : waitFailed (.take .outArray::(parsePostDepsFrom 0 a.outSyncobjs).2.2) = false :=
    parsePostDepsFrom_failed a.outSyncobjs 0
  rw [Multiset.zero_add,← Multiset.add_assoc] at hparse
  simp only
  split
  · rename_i hr
    refine .of_failed hr ?_ ?_ hf
    · have hfree := after_add (freePostDeps_after (parsePostDepsFrom 0 a.outSyncobjs).2.1) s.owned
      rw [Multiset.zero_add] at hfree
      rw [execAfter_take,← Multiset.singleton_add,execAfter,after_trans hparse]
      exact hfree
    · rw [← List.cons_append,waitFailed_append,hnone,freePostDeps_failed]
      rfl
  · refine .of_done ?_ hnone ⟨⟨hf.outFence,hf.event,hf.locked⟩,⟨hl.buflist,hl.buf⟩,hd.inSyncobjs,hp⟩
    rw [execAfter_take,← Multiset.singleton_add]
    refine hparse.trans (congrArg some ?_)
    simp only [SubmitState.owned,outOwned,hd.postDeps,Option.map_some,Option.map_none,Option.getD_some,
      Option.getD_none]
    abel

lemma parseDeps_keeps : (parseDeps a env context).Keeps (Fenced outFence event)
    (fun s => Fenced outFence event s ∧ Loaded a s ∧ s.inSyncobjs = none ∧ FdPaired s)
    (fun s => Fenced outFence event s ∧ Loaded a s ∧ FdPaired s) := by
  rintro s ⟨hf,hl,hn,hp⟩
  unfold parseDeps
  split
  · exact .of_done rfl rfl ⟨hf,hl,hp⟩
  split
  · exact .of_failed (fun h0 => by cases h0) rfl rfl hf
  obtain ⟨hparse,hall⟩ := parseDepsFrom_after context a.inSyncobjs 0
  have hparse := after_add hparse ({.inArray}+s.owned)
  rw [Multiset.zero_add] at hparse
  simp only
  split
  · rename_i hr
    refine ⟨?_,fun h0 => absurd h0 hr,fun _ => hf⟩
    have hfree := after_add (freeSyncobjs_after (parseDepsFrom context 0 a.inSyncobjs).2.1)
      (s.owned+cursorLeft (parseDepsFrom context 0 a.inSyncobjs).2.2)
    rw [Multiset.zero_add] at hfree
    have hleft : cursorLeft (.take .inArray::((parseDepsFrom context 0 a.inSyncobjs).2.2 ++
        freeSyncobjs (parseDepsFrom context 0 a.inSyncobjs).2.1)) =
        cursorLeft (parseDepsFrom context 0 a.inSyncobjs).2.2 := by
      rw [cursorLeft,← List.cons_append,waitFailed_append,freeSyncobjs_failed,Bool.or_false]
      rfl
    dsimp only
    rw [hleft,execAfter_take,← Multiset.singleton_add,execAfter,after_trans hparse]
    refine Eq.trans (congrArg _ ?_) hfree
    abel
  · rename_i hr
    have hnone := hall (not_not.mp hr)
    refine .of_done ?_ hnone ⟨⟨hf.outFence,hf.event,hf.locked⟩,⟨hl.buflist,hl.buf⟩,hp⟩
    rw [cursorLeft_none hnone,Multiset.add_zero] at hparse
    rw [execAfter_take,← Multiset.singleton_add]
    refine hparse.trans (congrArg some ?_)
    simp only [SubmitState.owned,inOwned,hn,Option.map_some,Option.map_none,Option.getD_some,
      Option.getD_none]
    abel

lemma waitInFence_keeps : (waitInFence a env context).Keeps (Fenced outFence event)
    (fun s => Fenced outFence event s ∧ Loaded a s ∧ FdPaired s)
    (fun s => Fenced outFence event s ∧ Loaded a s ∧ FdPaired s) := by
  rintro s ⟨hf,hl,hp⟩
  unfold waitInFence
  split
  · split
    · exact .of_failed (fun h0 => by cases h0) rfl rfl hf
    · rename_i fences _
      have hfailed := wait_failed context fences
      refine ⟨?_,fun h0 => ⟨?_,hf,hl,hp⟩,fun _ => hf⟩
      · rw [cursorLeft_wait]
        exact wait_after context fences
      · rw [hfailed]
        exact decide_eq_false (not_not.mpr h0)
  · exact .of_done rfl rfl ⟨hf,hl,hp⟩

lemma lockBuflist_keeps : (lockBuflist env).Keeps (Fenced outFence event)
    (fun s => Fenced outFence event s ∧ Loaded a s ∧ FdPaired s) (Ready a outFence event) := by
  rintro s ⟨hf,hl,hp⟩
  unfold lockBuflist
  split
  · rename_i hb
    exact .of_done rfl rfl ⟨hf.outFence,hf.event,hl,hf.locked.trans (hb.symm.trans hl.buflist),hp⟩
  rename_i hb
  rw [Bool.not_eq_false] at hb
  have hlist : .buflist ∈ s.owned := by simp [SubmitState.owned,held,hb]
  have huse : ∀ log, execAfter (.lock::log) s.owned = execAfter log s.owned :=
    fun _ => after_uses (show ExecEvent.effect .lock = .uses .buflist from rfl) hlist
  split
  · rename_i hr
    exact .of_failed hr (huse []) rfl hf
  · refine .of_done ((huse _).trans (keeps_take ?_)) rfl ⟨hf.outFence,hf.event,
      ⟨hl.buflist,hl.buf⟩,hb.symm.trans hl.buflist,hp⟩
    simp only [SubmitState.owned,hf.locked,held,if_true,Bool.false_eq_true,if_false]
    abel

lemma prepareJob_keeps (a : ExecArgs) (env : ExecEnv) (context : ℕ) (outFence event : Bool) :
    (prepareJob a env context).Keeps (Fenced outFence event)
      (fun s => Fenced outFence event s ∧ BuflistUnset s ∧ DepsUnset s) (Ready a outFence event) := by
  apply initSubmitBuflist_keeps.andThen
  apply initSubmitBuf_keeps.andThen
  apply initSubmitFd_keeps.andThen
  apply parsePostDeps_keeps.andThen
  apply parseDeps_keeps.andThen
  exact waitInFence_keeps.andThen lockBuflist_keeps

/-- What the queueing forgets: a command that does not get to the ring leaves the array of its objects, and
its data unless the device is gone. -/
def QueueEnd.forgets (queue : QueueEnd) (s : SubmitState) : Multiset ExecRes :=
  match queue with
  | .noTable | .notAdded => held s.buf .buf+held s.buflist .buflist
  | .unplugged => held s.buflist .buflist
  | .added => 0

lemma held_split (b c : Bool) (r : ExecRes) : held (b && c) r+held (b && !c) r = held b r := by
  cases b <;> cases c <;> rfl

lemma cmdSubmit_after (queue : QueueEnd) (s : SubmitState) :
    execAfter (cmdSubmit queue s)
        (held s.locked .resv+(held s.event .event+(held s.buf .buf+held s.buflist .buflist))) =
      some (held (s.locked && !s.outFence) .resv+
        (held (s.event && !queue.emits) .event+queue.forgets s)) := by
  have hunlock : execAfter (whenHeld (s.outFence && s.locked) (.drop .resv)) (held s.locked .resv) =
      some (held (s.locked && !s.outFence) .resv) := by
    have h := after_add (whenHeld_drop (s.outFence && s.locked) .resv)
      (held (s.locked && !s.outFence) .resv)
    rwa [Bool.and_comm,held_split,Multiset.zero_add,Bool.and_comm] at h
  have hemit := whenHeld_give s.event .event
  cases queue with
  | noTable =>
    rw [show QueueEnd.noTable.emits = false from rfl,Bool.not_false,Bool.and_true]
    exact after_add hunlock _
  | unplugged =>
    rw [show QueueEnd.unplugged.emits = false from rfl,Bool.not_false,Bool.and_true]
    have hfree := after_par hunlock (after_add (whenHeld_drop s.buf .buf)
      (held s.event .event+held s.buflist .buflist))
    rw [Multiset.zero_add] at hfree
    refine Eq.trans (congrArg _ ?_) hfree
    abel
  | notAdded =>
    rw [show QueueEnd.notAdded.emits = true from rfl,Bool.not_true,Bool.and_false]
    exact after_par hunlock (after_add hemit _)
  | added =>
    rw [show QueueEnd.added.emits = true from rfl,Bool.not_true,Bool.and_false]
    have hgive := after_par (whenHeld_give s.buf .buf) (whenHeld_give s.buflist .buflist)
    have hsubmit : execAfter (.submit::(whenHeld s.buf (.give .buf) ++ whenHeld s.buflist (.give .buflist)))
        (held s.buf .buf+held s.buflist .buflist) = some 0 :=
      (after_quiet (show ExecEvent.effect .submit = .quiet from rfl)).trans hgive
    have hall := after_par (after_par hunlock hemit) hsubmit
    simp only [Multiset.add_assoc] at hall
    exact hall

/-- The submission leaves what the state behind it says, and what the queueing has forgotten. -/
theorem submitJob_after (queue : QueueEnd) (hp : FdPaired s) :
    execAfter (submitJob queue s).2.2 s.owned =
      some ((submitJob queue s).2.1.owned+queue.forgets s) := by
  have hdeps : execAfter (processPostDeps s.outFence (s.postDeps.getD [])) (outOwned s.postDeps) =
      some (outOwned (s.postDeps.map (·.map fun d => { d with chain := false }))) := by
    cases s.postDeps with
    | none => rfl
    | some deps => exact after_add (processPostDeps_after s.outFence deps) {.outArray}
  have hfd : execAfter (if s.syncFile then [.give (.fd s.outFenceFd),.give .syncFile] else [])
      (fdHeld s.outFenceFd+held s.syncFile .syncFile) = some 0 := by
    cases hsync : s.syncFile with
    | false =>
      rw [FdPaired,hsync] at hp
      rw [fdHeld,if_neg (of_decide_eq_false hp.symm)]
      rfl
    | true =>
      rw [FdPaired,hsync] at hp
      rw [fdHeld_of_le (of_decide_eq_true hp.symm)]
      exact execAfter_give.trans (give_one _)
  have hlog := after_par (cmdSubmit_after queue s) (after_par hfd hdeps)
  have hall := after_add hlog (inOwned s.inSyncobjs+held s.outFence .outFence)
  have hbefore : s.owned = held s.locked .resv+
      (held s.event .event+(held s.buf .buf+held s.buflist .buflist))+
      (fdHeld s.outFenceFd+held s.syncFile .syncFile+outOwned s.postDeps)+
      (inOwned s.inSyncobjs+held s.outFence .outFence) := by
    rw [SubmitState.owned]
    abel
  rw [hbefore]
  refine hall.trans (congrArg some ?_)
  simp only [submitJob,SubmitState.owned,fdHeld_none,held_false]
  abel

/-- The cleanup ends all but the event and the locks. -/
theorem cleanupSubmit_after (s : SubmitState) :
    execAfter (cleanupSubmit s) s.owned = some (held s.event .event+held s.locked .resv) := by
  have hin : execAfter ((s.inSyncobjs.map fun objs => resetSyncobjs objs ++ freeSyncobjs objs).getD [])
      (inOwned s.inSyncobjs) = some 0 := by
    cases s.inSyncobjs with
    | none => rfl
    | some objs => exact (after_trans (resetSyncobjs_after objs)).trans (freeSyncobjs_after objs)
  have hout : execAfter ((s.postDeps.map freePostDeps).getD []) (outOwned s.postDeps) = some 0 := by
    cases s.postDeps with
    | none => rfl
    | some deps => exact freePostDeps_after deps
  have hfd : execAfter (if 0 ≤ s.outFenceFd then [.drop (.fd s.outFenceFd)] else [])
      (fdHeld s.outFenceFd) = some 0 := by
    unfold fdHeld
    split
    · exact drop_one _
    · rfl
  have hlog := after_par (after_par (after_par (after_par (after_par (after_par hin hout)
    (whenHeld_drop s.buf .buf)) (whenHeld_drop s.buflist .buflist)) hfd)
    (whenHeld_drop s.outFence .outFence)) (whenHeld_drop s.syncFile .syncFile)
  have hall := after_add hlog (held s.event .event+held s.locked .resv)
  rw [← Multiset.add_assoc] at hall
  exact hall.trans (congrArg some (by simp))

/-- The state that the parts begin with. -/
theorem fenced_unset (outFence event : Bool) : Fenced outFence event (.fenced outFence event) ∧
    BuflistUnset (.fenced outFence event) ∧ DepsUnset (.fenced outFence event) :=
  ⟨⟨rfl,rfl,rfl⟩,⟨rfl,rfl,rfl,rfl⟩,⟨rfl,rfl⟩⟩

end Parts

/-- The ioctl gets to the fence of the job, and the file polls the ring. -/
def ExecArgs.reachesPolled (a : ExecArgs) (f : ExecFile) : Bool :=
  f.hasVirgl3d && !a.unknownFlags &&
    match f.contexts.select (a.ring f) with
    | .error _ => false
    | .ok r => a.polled f r.2

/-- `virtio_gpu_fence_event_create` succeeds. -/
def ExecEnv.eventCreated (env : ExecEnv) : Bool := env.eventAlloc && decide (env.eventReserve = 0)

section Ioctl
variable {f : ExecFile} {a : ExecArgs} {env : ExecEnv} {r : ℤ × List ExecEvent} {context : ℕ}

/-- The cleanup of the state that is still zero gives back a descriptor that nobody took. -/
theorem cleanupZero_after : execAfter (cleanupSubmit .zero) 0 = none := rfl

lemma fenceTaken_after (outFence : Bool) :
    execAfter (.context::whenHeld outFence (.take .outFence)) 0 = some (held outFence .outFence) :=
  (after_quiet rfl).trans (whenHeld_take _ _)

/-- Before the event there is only the fence. -/
theorem eventFailed_after (outFence : Bool) {log : List ExecEvent} (hlog : execAfter log 0 = some 0) :
    execAfter (.context::whenHeld outFence (.take .outFence) ++ log ++
      whenHeld outFence (.drop .outFence) ++ cleanupSubmit .zero) 0 = none := by
  have hrest := after_add hlog (held outFence .outFence)
  rw [Multiset.zero_add] at hrest
  rw [List.append_assoc,List.append_assoc,execAfter,after_trans (fenceTaken_after outFence),
    after_trans hrest,after_trans (whenHeld_drop outFence .outFence)]
  exact cleanupZero_after

/-- What a job that is taken for submitted leaves behind: the locks of its objects if it has no fence, and
what the queueing of its command does not take. -/
def ExecArgs.jobLeft (a : ExecArgs) (outFence polled : Bool) (queue : QueueEnd) : Multiset ExecRes :=
  held (a.hasBos && !outFence) .resv+held (polled && !queue.emits) .event+
    match queue with
    | .noTable | .notAdded => {.buf}+held a.hasBos .buflist
    | .unplugged => held a.hasBos .buflist
    | .added => 0

/-- What an error leaves behind: the event, and the reference of the walk whose wait fails. -/
def errorLeft (polled : Bool) (log : List ExecEvent) : Multiset ExecRes :=
  held polled .event+cursorLeft log

lemma Ready.left {outFence event : Bool} {s : SubmitState} {queue : QueueEnd}
    (h : Ready a outFence event s) :
    held (s.event && !queue.emits) .event+held (s.locked && !s.outFence) .resv+queue.forgets s =
      a.jobLeft outFence event queue := by
  rw [h.outFence,h.event,h.locked,ExecArgs.jobLeft.eq_def,Multiset.add_comm (held (event && _) _)]
  cases queue <;> simp only [QueueEnd.forgets,h.loaded.buf,h.loaded.buflist] <;> rfl

lemma cleanupSubmit_failed (s : SubmitState) : waitFailed (cleanupSubmit s) = false := by
  have hin : waitFailed ((s.inSyncobjs.map fun objs => resetSyncobjs objs ++ freeSyncobjs objs).getD []) =
      false := by
    cases s.inSyncobjs with
    | none => rfl
    | some objs =>
      have hreset : waitFailed (resetSyncobjs objs) = false := by
        refine waitFailed_of_forall fun e he => ?_
        obtain ⟨i,-,rfl⟩ := List.mem_map.mp he
        rfl
      rw [Option.map_some,Option.getD_some,waitFailed_append,hreset,freeSyncobjs_failed]
      rfl
  have hout : waitFailed ((s.postDeps.map freePostDeps).getD []) = false := by
    cases s.postDeps with
    | none => rfl
    | some deps => exact freePostDeps_failed deps
  have hfd : waitFailed (if 0 ≤ s.outFenceFd then [.drop (.fd s.outFenceFd)] else []) = false := by
    split <;> rfl
  simp only [cleanupSubmit,waitFailed_append,hin,hout,hfd,waitFailed_whenHeld_drop,Bool.or_false]

/-- From the fence on: a job that is submitted leaves what its submission does not take, and an error the
event and the reference of the walk. -/
theorem execParts_after (a : ExecArgs) (env : ExecEnv) (context : ℕ) (outFence event : Bool) :
    let p := execParts a env context (.fenced outFence event)
    execAfter (p.2.2 ++ cleanupSubmit p.2.1) (SubmitState.fenced outFence event).owned =
      if p.1 = 0 then some (a.jobLeft outFence event env.queue) else some (errorLeft event p.2.2) := by
  have hprep := prepareJob_keeps a env context outFence event _ (fenced_unset outFence event)
  simp only [execParts,ExecPart.andThen]
  generalize prepareJob a env context (.fenced outFence event) = q at hprep ⊢
  have hlog := hprep.log
  split
  · rename_i hr
    have hstate := hprep.failed hr
    rw [execAfter,after_trans hlog]
    refine (after_add (cleanupSubmit_after _) _).trans (congrArg some ?_)
    rw [hstate.event,hstate.locked,held_false,Multiset.add_zero,errorLeft]
  · rename_i hr
    obtain ⟨hnone,hready⟩ := hprep.done (not_not.mp hr)
    rw [cursorLeft_none hnone,Multiset.add_zero] at hlog
    have hend := after_add (cleanupSubmit_after (submitJob env.queue q.2.1).2.1)
      (env.queue.forgets q.2.1)
    refine Eq.trans ?_ (if_pos rfl).symm
    rw [← hready.left,List.append_assoc,execAfter,after_trans hlog,
      after_trans (submitJob_after env.queue hready.paired)]
    exact hend

/-- The log in front of the parts takes the fence and the event. -/
theorem start_after (outFence event : Bool) :
    execAfter (.context::whenHeld outFence (.take .outFence) ++ whenHeld event (.take .event)) 0 =
      some (SubmitState.fenced outFence event).owned := by
  have hevent := after_add (whenHeld_take event .event) (held outFence .outFence)
  have howned : (SubmitState.fenced outFence event).owned =
      held outFence .outFence+held event .event := by
    simp [SubmitState.owned,SubmitState.fenced,inOwned,outOwned,fdHeld_none,held_false]
  rw [Multiset.zero_add,Multiset.add_comm (held event .event)] at hevent
  rw [execAfter,after_trans (fenceTaken_after outFence),howned]
  exact hevent

lemma parts_after (a : ExecArgs) (env : ExecEnv) (context : ℕ) (outFence event : Bool) :
    let p := execParts a env context (.fenced outFence event)
    let log := .context::whenHeld outFence (.take .outFence) ++ whenHeld event (.take .event) ++ p.2.2 ++
      cleanupSubmit p.2.1
    execAfter log 0 =
      if p.1 = 0 then some (a.jobLeft outFence event env.queue) else some (errorLeft event log) := by
  intro p log
  have hstart : waitFailed (.context::whenHeld outFence (.take .outFence) ++
      whenHeld event (.take .event)) = false := by
    cases outFence <;> cases event <;> rfl
  have hleft : errorLeft event log = errorLeft event p.2.2 := by
    simp only [errorLeft,cursorLeft,log,waitFailed_append,hstart,cleanupSubmit_failed,Bool.false_or,
      Bool.or_false]
  rw [hleft,← execParts_after a env context outFence event]
  simp only [log,List.append_assoc]
  rw [← List.append_assoc,execAfter,after_trans (start_after outFence event)]

/-- What an ioctl for a job took is dropped or given away when it returns, in order, but for this. On a ring
that the file polls, without the event the cleanup puts descriptor 0, which is not the ioctl's own, and with
it an error leaves the event to nobody. A wait that fails leaves the reference of its walk. A job that is
taken for submitted leaves the locks of its objects if it has no fence, and what the queueing does not
take. -/
theorem execbuffer_remainder (h : execbufferIoctl f a env = some r) :
    execAfter r.2 0 =
      if a.reachesPolled f = true ∧ env.eventCreated = false then none
      else if r.1 = 0 then some (a.jobLeft (a.hasFence f env) (a.reachesPolled f) env.queue)
      else some (errorLeft (a.reachesPolled f) r.2) := by
  unfold execbufferIoctl at h
  unfold ExecArgs.reachesPolled ExecEnv.eventCreated ExecArgs.hasFence
  split at h
  · rename_i hv
    obtain rfl := Option.some.inj h
    rw [hv]
    rfl
  split at h
  · rename_i hu
    obtain rfl := Option.some.inj h
    rw [hu,Bool.not_true,Bool.and_false]
    rfl
  rename_i hv hu
  rw [Bool.not_eq_false] at hv
  rw [Bool.not_eq_true] at hu
  split at h
  · rename_i he
    obtain rfl := Option.some.inj h
    rw [hv,hu,he,FenceContexts.select_error he]
    rfl
  rename_i fenceCtx ringIdx hs
  simp only [hv,hu,hs,Bool.not_false,Bool.true_and,Bool.and_true]
  generalize (a.wantsFence f ringIdx && env.fenceAlloc) = outFence at h ⊢
  generalize a.polled f ringIdx = polled at h ⊢
  dsimp only at h
  split at h
  · rename_i hp
    obtain rfl := Option.some.inj h
    rw [Bool.and_eq_true,Bool.not_eq_true'] at hp
    have hnil : execAfter [] 0 = some 0 := rfl
    have hlog := eventFailed_after outFence hnil
    rw [List.append_nil] at hlog
    rw [hlog,hp.1,hp.2]
    rfl
  rename_i ha
  split at h
  · rename_i hp
    obtain rfl := Option.some.inj h
    rw [Bool.and_eq_true,decide_eq_true_iff] at hp
    rw [eventFailed_after outFence rfl,hp.1,decide_eq_false hp.2,Bool.and_false]
    rfl
  rename_i hr
  split at h
  · cases h
  split at h
  · cases h
  obtain rfl := Option.some.inj h
  rw [parts_after]
  have hcreated : ¬ (polled = true ∧ (env.eventAlloc && decide (env.eventReserve = 0)) = false) := by
    rintro ⟨rfl,hnot⟩
    simp only [Bool.true_and,Bool.not_eq_true',Bool.not_eq_false,decide_eq_true_eq,not_not] at ha hr
    simp [ha,hr] at hnot
  rw [if_neg hcreated]

/-- A file with one ring, which it polls. -/
def pollingFile : ExecFile := ⟨true,⟨3,1,fun _ => 2,fun _ => 1⟩,0,1⟩

/-- A job for the ring that takes a syncobj, resets it and signals another. -/
def pollingArgs : ExecArgs :=
  ⟨false,false,true,true,0,true,[⟨true,false,true,0,[⟨2,0⟩,⟨9,-ERESTARTSYS⟩],true⟩],[⟨true,false,5,true,true⟩]⟩

/-- All calls but the wait succeed. -/
def interrupted : ExecEnv := ⟨true,true,0,true,true,true,0,7,true,true,true,none,0,.added⟩

/-- The wait is interrupted: the event and the reference of the walk are left over. -/
theorem polled_fault_remainder : ∃ r, execbufferIoctl pollingFile pollingArgs interrupted = some r ∧
    r.1 = -ERESTARTSYS ∧ execAfter r.2 0 = some {.event,.cursor} := by
  have h : execbufferIoctl pollingFile pollingArgs interrupted = some _ := rfl
  exact ⟨_,h,rfl,execbuffer_remainder h⟩

end Ioctl
end GuestAdditions

import GuestAdditions.Submit.Execbuffer
import Mathlib.Data.List.Infix

/-! What others see of the ioctl for a job: the waits, the job itself, the descriptor, the syncobjs. A job is
submitted at most once, behind all its waits, and its outputs follow whether or not the queue has taken it.
An error leaves a part of the waits and nothing else but resets. -/
namespace GuestAdditions

/-- What others see. -/
def ExecEvent.visible : ExecEvent → Bool
  | wait _ _ | submit | attach _ _ | reset _ | give (.fd _) => true
  | _ => false

/-- The part of a log that others see. -/
def seen (log : List ExecEvent) : List ExecEvent := log.filter ExecEvent.visible

/-- A wait for each fence that is not on the ring itself. -/
def foreignWaits (context : ℕ) (fences : List InFence) : List ExecEvent :=
  (fences.filter fun f => f.context ≠ context).map fun f => .wait f.context f.wait

/-- The waits for the syncobjs, in their order. -/
def ExecArgs.syncobjWaits (a : ExecArgs) (context : ℕ) : List ExecEvent :=
  a.inSyncobjs.flatMap fun d => foreignWaits context d.fences

/-- The waits for the fence of the file descriptor. -/
def ExecArgs.fdWaits (a : ExecArgs) (env : ExecEnv) (context : ℕ) : List ExecEvent :=
  if a.fenceFdIn then foreignWaits context (env.fdFence.getD []) else []

/-- The resets that the syncobjs ask for. -/
def ExecArgs.resets (a : ExecArgs) : List ExecEvent :=
  ((a.inSyncobjs.mapIdx fun i d => if d.reset then some i else none).filterMap id).map .reset

/-- The job, if the queue takes it. -/
def ExecEnv.submission (env : ExecEnv) : List ExecEvent :=
  if env.queue = .added then [.submit] else []

/-- The descriptor and the syncobjs to be signalled, which get the fence of the job if there is one. -/
def ExecArgs.outputs (a : ExecArgs) (env : ExecEnv) (outFence : Bool) : List ExecEvent :=
  (if a.fenceFdOut then [.give (.fd env.unusedFd)] else []) ++
    (List.range a.outSyncobjs.length).map (.attach · outFence)

/-- The context of the ring. -/
def ExecArgs.fenceContext (a : ExecArgs) (f : ExecFile) : ℕ :=
  match f.contexts.select (a.ring f) with
  | .error _ => 0
  | .ok r => wrap64 (r.1+r.2)

section Waits
variable {context i : ℕ} {log log' : List ExecEvent} {r : ExecRes}

@[simp] lemma seen_append : seen (log ++ log') = seen log ++ seen log' := List.filter_append ..

@[simp] lemma seen_nil : seen [] = [] := rfl

@[simp] lemma seen_take : seen (.take r::log) = seen log := rfl

@[simp] lemma seen_drop : seen (.drop r::log) = seen log := rfl

@[simp] lemma seen_whenHeld_take (b : Bool) : seen (whenHeld b (.take r)) = [] := by
  cases b <;> rfl

@[simp] lemma seen_whenHeld_drop (b : Bool) : seen (whenHeld b (.drop r)) = [] := by
  cases b <;> rfl

lemma seen_of_map {α : Type*} {e : α → ExecEvent} (he : ∀ x, (e x).visible = true) (l : List α) :
    seen (l.map e) = l.map e := by
  apply List.filter_eq_self.mpr
  simp [he]

lemma seen_of_map_hidden {α : Type*} {e : α → ExecEvent} (he : ∀ x, (e x).visible = false) (l : List α) :
    seen (l.map e) = [] := by
  apply List.filter_eq_nil_iff.mpr
  simp [he]

lemma foreignWaits_cons_eq {f : InFence} {fs : List InFence} (h : f.context = context) :
    foreignWaits context (f::fs) = foreignWaits context fs := by
  simp [foreignWaits,h]

lemma foreignWaits_cons_ne {f : InFence} {fs : List InFence} (h : ¬f.context = context) :
    foreignWaits context (f::fs) = .wait f.context f.wait::foreignWaits context fs := by
  simp [foreignWaits,h]

/-- A wait that fails is the last. -/
theorem walkFences_seen (context : ℕ) (fs : List InFence) :
    seen (walkFences context fs).2 <+: foreignWaits context fs ∧
      ((walkFences context fs).1 = 0 → seen (walkFences context fs).2 = foreignWaits context fs) := by
  induction fs with
  | nil => exact ⟨List.prefix_rfl,fun _ => rfl⟩
  | cons f fs ih =>
    unfold walkFences
    split
    · rename_i hc
      rw [foreignWaits_cons_eq hc]
      exact ih
    · rename_i hc
      rw [foreignWaits_cons_ne hc]
      split
      · rename_i hw
        exact ⟨List.prefix_append [_] _,fun h0 => absurd h0 hw⟩
      · exact ⟨List.cons_prefix_cons.mpr ⟨rfl,ih.1⟩,fun h0 => congrArg _ (ih.2 h0)⟩

lemma dmaFenceWait_seen (context : ℕ) (fs : List InFence) :
    seen (dmaFenceWait context fs).2 <+: foreignWaits context fs ∧
      ((dmaFenceWait context fs).1 = 0 → seen (dmaFenceWait context fs).2 = foreignWaits context fs) :=
  walkFences_seen context fs

lemma parseDepsFrom_seen (context : ℕ) (ds : List InDesc) (i : ℕ) :
    seen (parseDepsFrom context i ds).2.2 <+: (ds.flatMap fun d => foreignWaits context d.fences) ∧
      ((parseDepsFrom context i ds).1 = 0 →
        seen (parseDepsFrom context i ds).2.2 = (ds.flatMap fun d => foreignWaits context d.fences) ∧
        (parseDepsFrom context i ds).2.1 = ds.mapIdx fun k d => if d.reset then some (i+k) else none) := by
  induction ds generalizing i with
  | nil => exact ⟨List.prefix_rfl,fun _ => ⟨rfl,rfl⟩⟩
  | cons d ds ih =>
    have hwait := dmaFenceWait_seen context d.fences
    have hidx : ∀ k, i+1+k = i+(k+1) := fun k => by omega
    rw [List.flatMap_cons,List.mapIdx_cons]
    unfold parseDepsFrom
    split
    · exact ⟨List.nil_prefix,fun h0 => by cases h0⟩
    split
    · exact ⟨List.nil_prefix,fun h0 => by cases h0⟩
    split
    · rename_i hr
      exact ⟨List.nil_prefix,fun h0 => absurd h0 hr⟩
    simp only
    split
    · rename_i hw
      simp only [seen_append,seen_take,seen_drop,seen_nil,List.append_nil]
      exact ⟨hwait.1.trans (List.prefix_append _ _),fun h0 => absurd h0 hw⟩
    rename_i hw
    have hall := hwait.2 (not_not.mp hw)
    have hrest := ih (i+1)
    simp only [hidx] at hrest
    split
    · split
      · simp only [seen_append,seen_take,seen_drop,seen_nil,List.append_nil,hall]
        exact ⟨List.prefix_append _ _,fun h0 => by cases h0⟩
      · simp only [seen_append,seen_take,seen_drop,seen_nil,List.append_nil,hall]
        refine ⟨(List.prefix_append_right_inj _).mpr hrest.1,fun h0 => ?_⟩
        rw [(hrest.2 h0).1,(hrest.2 h0).2]
        exact ⟨rfl,rfl⟩
    · simp only [seen_append,seen_take,seen_drop,seen_nil,List.append_nil,hall]
      refine ⟨(List.prefix_append_right_inj _).mpr hrest.1,fun h0 => ?_⟩
      rw [(hrest.2 h0).1,(hrest.2 h0).2]
      exact ⟨rfl,rfl⟩

end Waits

/-- The resets that the cleanup does. -/
def SubmitState.resets (s : SubmitState) : List ExecEvent :=
  ((s.inSyncobjs.getD []).filterMap id).map .reset

/-- What others have seen so far, and the state. -/
abbrev ExecStage := List ExecEvent → SubmitState → Prop

/-- A part leads from one stage to the next, or to a stage of errors. -/
def ExecPart.Leads (P : ExecStage) (f : ExecPart) (Q F : ExecStage) : Prop :=
  ∀ p s, P p s → ((f s).1 = 0 → Q (p ++ seen (f s).2.2) (f s).2.1) ∧
    ((f s).1 ≠ 0 → F (p ++ seen (f s).2.2) (f s).2.1)

lemma ExecPart.Leads.andThen {P Q R F : ExecStage} {f g : ExecPart} (hf : f.Leads P Q F)
    (hg : g.Leads Q R F) : (f.andThen g).Leads P R F := by
  intro p s hs
  have h := hf p s hs
  simp only [ExecPart.andThen]
  split
  · rename_i hr
    exact ⟨fun h0 => absurd h0 hr,h.2⟩
  · rename_i hr
    have h' := hg _ _ (h.1 (not_not.mp hr))
    rw [List.append_assoc,← seen_append] at h'
    exact h'

section Parts
variable {a : ExecArgs} {env : ExecEnv} {context : ℕ} {outFence : Bool}

/-- Nothing is to be seen yet, and nothing to be reset. -/
def Hidden (p : List ExecEvent) (s : SubmitState) : Prop := p = [] ∧ s.inSyncobjs = none

/-- There is a descriptor if one is wanted. -/
def FdSet (a : ExecArgs) (env : ExecEnv) (outFence : Bool) (s : SubmitState) : Prop :=
  s.syncFile = a.fenceFdOut ∧ (a.fenceFdOut = true → s.outFenceFd = env.unusedFd) ∧
    s.outFence = outFence

/-- What the job gives when it is submitted is there. -/
def OutputsSet (a : ExecArgs) (env : ExecEnv) (outFence : Bool) (s : SubmitState) : Prop :=
  FdSet a env outFence s ∧ (s.postDeps.getD []).map PostDep.obj = List.range a.outSyncobjs.length

def Started (outFence : Bool) : ExecStage := fun p s =>
  Hidden p s ∧ s.syncFile = false ∧ s.postDeps = none ∧ s.outFence = outFence

def FdDone (a : ExecArgs) (env : ExecEnv) (outFence : Bool) : ExecStage := fun p s =>
  Hidden p s ∧ FdSet a env outFence s ∧ s.postDeps = none

def OutputsDone (a : ExecArgs) (env : ExecEnv) (outFence : Bool) : ExecStage := fun p s =>
  Hidden p s ∧ OutputsSet a env outFence s

def SyncobjsDone (a : ExecArgs) (env : ExecEnv) (context : ℕ) (outFence : Bool) : ExecStage := fun p s =>
  p = a.syncobjWaits context ∧ s.resets = a.resets ∧ OutputsSet a env outFence s

def WaitsDone (a : ExecArgs) (env : ExecEnv) (context : ℕ) (outFence : Bool) : ExecStage := fun p s =>
  p = a.syncobjWaits context ++ a.fdWaits env context ∧ s.resets = a.resets ∧
    OutputsSet a env outFence s

def Submitted (a : ExecArgs) (env : ExecEnv) (context : ℕ) (outFence : Bool) : ExecStage := fun p s =>
  p = a.syncobjWaits context ++ a.fdWaits env context ++ (env.submission ++ a.outputs env outFence) ∧
    s.resets = a.resets

/-- An error in the waits for the syncobjs resets nothing, a later one all. -/
def Failed (a : ExecArgs) (env : ExecEnv) (context : ℕ) : ExecStage := fun p s =>
  (p <+: a.syncobjWaits context ∧ s.resets = []) ∨
    ∃ q, q <+: a.fdWaits env context ∧ p = a.syncobjWaits context ++ q ∧ s.resets = a.resets

lemma Hidden.failed {p : List ExecEvent} {s : SubmitState} (h : Hidden p s) : Failed a env context p s :=
  .inl ⟨h.1 ▸ List.nil_prefix,by simp [SubmitState.resets,h.2]⟩

/-- A part that fails and shows nothing. -/
theorem failed_quiet {Q F : ExecStage} {p : List ExecEvent} {r : ℤ × SubmitState × List ExecEvent}
    (hr : r.1 ≠ 0) (hlog : seen r.2.2 = []) (h : F p r.2.1) :
    (r.1 = 0 → Q (p ++ seen r.2.2) r.2.1) ∧ (r.1 ≠ 0 → F (p ++ seen r.2.2) r.2.1) := by
  rw [hlog,List.append_nil]
  exact ⟨fun h0 => absurd h0 hr,fun _ => h⟩

/-- A part that succeeds and shows nothing. -/
theorem done_quiet {Q F : ExecStage} {p : List ExecEvent} {r : ℤ × SubmitState × List ExecEvent}
    (hr : r.1 = 0) (hlog : seen r.2.2 = []) (h : Q p r.2.1) :
    (r.1 = 0 → Q (p ++ seen r.2.2) r.2.1) ∧ (r.1 ≠ 0 → F (p ++ seen r.2.2) r.2.1) := by
  rw [hlog,List.append_nil]
  exact ⟨fun _ => h,fun hr' => absurd hr hr'⟩

lemma initSubmitBuflist_leads :
    (initSubmitBuflist a env).Leads (Started outFence) (Started outFence) (Failed a env context) := by
  intro p s hs
  unfold initSubmitBuflist
  split_ifs
  · exact done_quiet rfl rfl hs
  · exact failed_quiet (fun h0 => by cases h0) rfl hs.1.failed
  · exact failed_quiet (fun h0 => by cases h0) rfl hs.1.failed
  · exact failed_quiet (fun h0 => by cases h0) rfl hs.1.failed
  · exact done_quiet rfl rfl hs

lemma initSubmitBuf_leads :
    (initSubmitBuf env).Leads (Started outFence) (Started outFence) (Failed a env context) := by
  intro p s hs
  unfold initSubmitBuf
  split
  · rename_i hr
    exact failed_quiet hr rfl hs.1.failed
  · exact done_quiet rfl rfl hs

lemma initSubmitFd_leads :
    (initSubmitFd a env).Leads (Started outFence) (FdDone a env outFence) (Failed a env context) := by
  rintro p s ⟨hh,hsync,hdeps,hfence⟩
  unfold initSubmitFd
  split
  · rename_i hf
    exact done_quiet rfl rfl ⟨hh,
      ⟨hsync.trans hf.symm,fun h => absurd (hf.symm.trans h) Bool.false_ne_true,hfence⟩,hdeps⟩
  rename_i hf
  rw [Bool.not_eq_false] at hf
  split
  · rename_i hneg
    exact failed_quiet hneg.ne rfl hh.failed
  split
  · have hh' : Hidden p { s with outFenceFd := env.unusedFd } := hh
    exact failed_quiet (fun h0 => by cases h0) rfl hh'.failed
  · exact done_quiet rfl rfl ⟨hh,⟨hf.symm,fun _ => rfl,hfence⟩,hdeps⟩

lemma parsePostDepsFrom_seen (ds : List OutDesc) (i : ℕ) :
    seen (parsePostDepsFrom i ds).2.2 = [] ∧ ((parsePostDepsFrom i ds).1 = 0 →
      (parsePostDepsFrom i ds).2.1.map PostDep.obj = List.range' i ds.length) := by
  induction ds generalizing i with
  | nil => exact ⟨rfl,fun _ => rfl⟩
  | cons d ds ih =>
    unfold parsePostDepsFrom
    split
    · exact ⟨rfl,fun h0 => by cases h0⟩
    split
    · exact ⟨rfl,fun h0 => by cases h0⟩
    split
    · exact ⟨rfl,fun h0 => by cases h0⟩
    simp only
    split
    · refine ⟨?_,fun h0 => by cases h0⟩
      rw [seen_append,seen_whenHeld_take,seen_whenHeld_drop]
      rfl
    · refine ⟨?_,fun h0 => ?_⟩
      · rw [seen_append,seen_whenHeld_take,seen_take,(ih (i+1)).1]
        rfl
      · rw [List.map_cons,(ih (i+1)).2 h0]
        rfl

lemma freePostDeps_seen (deps : List PostDep) : seen (freePostDeps deps) = [] := by
  have hdeps : seen (deps.reverse.flatMap fun d =>
      whenHeld d.chain (.drop (.chain d.obj)) ++ [.drop (.outObj d.obj)]) = [] := by
    induction deps.reverse with
    | nil => rfl
    | cons d deps ih =>
      rw [List.flatMap_cons,seen_append,seen_append,ih,seen_whenHeld_drop]
      rfl
  rw [freePostDeps,seen_append,hdeps]
  rfl

lemma freeSyncobjs_seen (objs : List (Option ℕ)) : seen (freeSyncobjs objs) = [] := by
  rw [freeSyncobjs,seen_append,seen_of_map_hidden fun _ => rfl]
  rfl

lemma parsePostDeps_leads :
    (parsePostDeps a env).Leads (FdDone a env outFence) (OutputsDone a env outFence)
      (Failed a env context) := by
  rintro p s ⟨hh,hfd,hdeps⟩
  have hparse := parsePostDepsFrom_seen a.outSyncobjs 0
  unfold parsePostDeps
  split
  · rename_i ho
    refine done_quiet rfl rfl ⟨hh,hfd,?_⟩
    rw [hdeps,ho]
    rfl
  split
  · exact failed_quiet (fun h0 => by cases h0) rfl hh.failed
  simp only
  split
  · rename_i hr
    refine failed_quiet hr ?_ hh.failed
    rw [seen_take,seen_append,hparse.1,freePostDeps_seen]
    rfl
  · rename_i hr
    refine done_quiet rfl (by rw [seen_take,hparse.1]) ⟨hh,hfd,?_⟩
    rw [List.range_eq_range']
    exact hparse.2 (not_not.mp hr)

lemma parseDeps_leads : (parseDeps a env context).Leads (OutputsDone a env outFence)
    (SyncobjsDone a env context outFence) (Failed a env context) := by
  rintro p s ⟨hh,hout⟩
  have hparse := parseDepsFrom_seen context a.inSyncobjs 0
  simp only [Nat.zero_add] at hparse
  obtain ⟨rfl,hnone⟩ := hh
  unfold parseDeps
  split
  · rename_i hi
    refine done_quiet rfl rfl ⟨?_,?_,hout⟩
    · rw [ExecArgs.syncobjWaits,hi]
      rfl
    · rw [SubmitState.resets,ExecArgs.resets,hnone,hi]
      rfl
  split
  · exact failed_quiet (fun h0 => by cases h0) rfl (Hidden.failed ⟨rfl,hnone⟩)
  simp only [List.nil_append]
  split
  · rename_i hr
    refine ⟨fun h0 => absurd h0 hr,fun _ => .inl ⟨?_,?_⟩⟩
    · rw [seen_take,seen_append,freeSyncobjs_seen,List.append_nil]
      exact hparse.1
    · simp [SubmitState.resets,hnone]
  · rename_i hr
    have hall := hparse.2 (not_not.mp hr)
    refine ⟨fun _ => ⟨hall.1,?_,hout⟩,fun hr' => absurd rfl hr'⟩
    rw [SubmitState.resets,Option.getD_some,hall.2]
    rfl

lemma waitInFence_leads : (waitInFence a env context).Leads (SyncobjsDone a env context outFence)
    (WaitsDone a env context outFence) (Failed a env context) := by
  rintro p s ⟨rfl,hresets,hout⟩
  unfold waitInFence
  split
  · rename_i hf
    split
    · exact failed_quiet (fun h0 => by cases h0) rfl (.inr ⟨[],List.nil_prefix,(List.append_nil _).symm,hresets⟩)
    · rename_i fences hfences
      have hwait := dmaFenceWait_seen context fences
      have hfd : a.fdWaits env context = foreignWaits context fences := by
        rw [ExecArgs.fdWaits,if_pos hf,hfences]
        rfl
      rw [← hfd] at hwait
      simp only [seen_append,seen_take,seen_drop,seen_nil,List.append_nil]
      exact ⟨fun h0 => ⟨congrArg _ (hwait.2 h0),hresets,hout⟩,fun _ => .inr ⟨_,hwait.1,rfl,hresets⟩⟩
  · rename_i hf
    refine done_quiet rfl rfl ⟨?_,hresets,hout⟩
    rw [ExecArgs.fdWaits,if_neg hf,List.append_nil]

lemma lockBuflist_leads : (lockBuflist env).Leads (WaitsDone a env context outFence)
    (WaitsDone a env context outFence) (Failed a env context) := by
  intro p s hs
  unfold lockBuflist
  split
  · exact done_quiet rfl rfl hs
  split
  · rename_i hr
    exact failed_quiet hr rfl (.inr ⟨_,List.prefix_rfl,hs.1,hs.2.1⟩)
  · exact done_quiet rfl rfl ⟨hs.1,hs.2.1,hs.2.2⟩

lemma processPostDeps_seen (deps : List PostDep) :
    seen (processPostDeps outFence deps) = (deps.map PostDep.obj).map (.attach · outFence) := by
  induction deps with
  | nil => rfl
  | cons d deps ih =>
    have hd : seen (.attach d.obj outFence::whenHeld d.chain (.give (.chain d.obj))) =
        [.attach d.obj outFence] := by
      cases d.chain <;> rfl
    rw [processPostDeps,List.flatMap_cons,seen_append,hd,List.map_cons,List.map_cons,← ih]
    rfl

/-- Of the queueing others see the command, if it gets to the ring. -/
theorem cmdSubmit_seen (env : ExecEnv) (s : SubmitState) : seen (cmdSubmit env.queue s) = env.submission := by
  have hgive : ∀ b r, (ExecEvent.give r).visible = false → seen (whenHeld b (.give r)) = [] := by
    intro b r hr
    cases b with
    | false => rfl
    | true =>
      refine List.filter_eq_nil_iff.mpr fun e he => ?_
      rw [List.mem_singleton.mp he,hr]
      exact Bool.false_ne_true
  have hevent := hgive s.event .event rfl
  have hbuf := hgive s.buf .buf rfl
  have hlist := hgive s.buflist .buflist rfl
  unfold ExecEnv.submission cmdSubmit
  cases env.queue with
  | noTable => simp
  | unplugged => simp
  | notAdded => simp [hevent]
  | added =>
    rw [if_pos rfl,seen_append,seen_append,seen_whenHeld_drop,hevent]
    change .submit::seen _ = _
    rw [seen_append,hbuf,hlist]
    rfl

lemma submitJob_leads : (submitJob env.queue).Leads (WaitsDone a env context outFence)
    (Submitted a env context outFence) (Failed a env context) := by
  rintro p s ⟨rfl,hresets,⟨hsync,hfd,hfence⟩,hdeps⟩
  have hgiven : seen (if s.syncFile then [.give (.fd s.outFenceFd),.give .syncFile] else []) =
      if a.fenceFdOut then [.give (.fd env.unusedFd)] else [] := by
    rw [hsync]
    split
    · rename_i hf
      rw [hfd hf]
      rfl
    · rfl
  refine ⟨fun _ => ⟨congrArg _ ?_,hresets⟩,fun hr => absurd rfl hr⟩
  rw [submitJob,seen_append,cmdSubmit_seen,seen_append,hgiven,processPostDeps_seen,hdeps,hfence]
  rfl

lemma execParts_leads (a : ExecArgs) (env : ExecEnv) (context : ℕ) (outFence : Bool) :
    (execParts a env context).Leads (Started outFence) (Submitted a env context outFence)
      (Failed a env context) := by
  have hprep : (prepareJob a env context).Leads (Started outFence) (WaitsDone a env context outFence)
      (Failed a env context) := by
    apply initSubmitBuflist_leads.andThen
    apply initSubmitBuf_leads.andThen
    apply initSubmitFd_leads.andThen
    apply parsePostDeps_leads.andThen
    apply parseDeps_leads.andThen
    exact waitInFence_leads.andThen lockBuflist_leads
  exact hprep.andThen submitJob_leads

lemma cleanupSubmit_seen (s : SubmitState) : seen (cleanupSubmit s) = s.resets := by
  have hresets : seen ((s.inSyncobjs.map fun objs => resetSyncobjs objs ++ freeSyncobjs objs).getD []) =
      s.resets := by
    unfold SubmitState.resets
    cases s.inSyncobjs with
    | none => rfl
    | some objs =>
      rw [Option.map_some,Option.getD_some,Option.getD_some,seen_append,freeSyncobjs_seen,
        List.append_nil]
      exact seen_of_map (fun _ => rfl) _
  have hdeps : seen ((s.postDeps.map freePostDeps).getD []) = [] := by
    cases s.postDeps with
    | none => rfl
    | some deps => exact freePostDeps_seen deps
  have hfd : seen (if 0 ≤ s.outFenceFd then [.drop (.fd s.outFenceFd)] else []) = [] := by
    split <;> rfl
  simp only [cleanupSubmit,seen_append,hresets,hdeps,hfd,seen_whenHeld_drop,List.append_nil]

end Parts

section Ioctl
variable {f : ExecFile} {a : ExecArgs} {env : ExecEnv} {r : ℤ × List ExecEvent} {context : ℕ}
  {outFence : Bool}

/-- What others see of a job: it is submitted, if the queue takes it, behind the waits for all fences of other
rings, before the descriptor is given and, in their order, the syncobjs get the fence or none. An error leaves
a beginning of the waits: one among those for the syncobjs resets none of them, a later one all that the
arguments say. -/
structure ExecOutcome (a : ExecArgs) (env : ExecEnv) (context : ℕ) (outFence : Bool)
    (r : ℤ × List ExecEvent) : Prop where
  done : r.1 = 0 → seen r.2 = a.syncobjWaits context ++ a.fdWaits env context ++
    (env.submission ++ a.outputs env outFence) ++ a.resets
  failed : r.1 ≠ 0 → seen r.2 <+: a.syncobjWaits context ∨ ∃ q, q <+: a.fdWaits env context ∧
    seen r.2 = a.syncobjWaits context ++ q ++ a.resets

lemma ExecOutcome.of_quiet (hr : r.1 ≠ 0) (hlog : seen r.2 = []) :
    ExecOutcome a env context outFence r :=
  ⟨fun h0 => absurd h0 hr,fun _ => .inl (hlog ▸ List.nil_prefix)⟩

lemma parts_outcome (a : ExecArgs) (env : ExecEnv) (context : ℕ) (outFence event : Bool)
    {start : List ExecEvent} (hstart : seen start = []) :
    ExecOutcome a env context outFence ((execParts a env context (.fenced outFence event)).1,
      start ++ (execParts a env context (.fenced outFence event)).2.2 ++
        cleanupSubmit (execParts a env context (.fenced outFence event)).2.1) := by
  have hparts := execParts_leads a env context outFence [] (.fenced outFence event)
    ⟨⟨rfl,rfl⟩,rfl,rfl,rfl⟩
  generalize execParts a env context (.fenced outFence event) = p at hparts ⊢
  rw [List.nil_append] at hparts
  have hseen : seen (start ++ p.2.2 ++ cleanupSubmit p.2.1) = seen p.2.2 ++ p.2.1.resets := by
    rw [seen_append,seen_append,hstart,cleanupSubmit_seen,List.nil_append]
  refine ⟨fun h0 => ?_,fun hr => ?_⟩
  · have hdone := hparts.1 h0
    rw [hseen,hdone.1,hdone.2]
  · rcases hparts.2 hr with ⟨hp,hresets⟩ | ⟨q,hq,hp,hresets⟩
    · left
      rwa [hseen,hresets,List.append_nil]
    · right
      exact ⟨q,hq,by rw [hseen,hp,hresets]⟩

/-- However it ends. -/
theorem execbuffer_outcome (h : execbufferIoctl f a env = some r) :
    ExecOutcome a env (a.fenceContext f) (a.hasFence f env) r := by
  unfold execbufferIoctl at h
  split at h
  · obtain rfl := Option.some.inj h
    exact .of_quiet (fun h0 => by cases h0) rfl
  split at h
  · obtain rfl := Option.some.inj h
    exact .of_quiet (fun h0 => by cases h0) rfl
  split at h
  · rename_i e he
    obtain rfl := FenceContexts.select_error he
    obtain rfl := Option.some.inj h
    exact .of_quiet (fun h0 => by cases h0) rfl
  rename_i fenceCtx ringIdx hs
  have hctx : a.fenceContext f = wrap64 (fenceCtx+ringIdx) := by
    rw [ExecArgs.fenceContext,hs]
  have hfence : a.hasFence f env = (a.wantsFence f ringIdx && env.fenceAlloc) := by
    rw [ExecArgs.hasFence,hs]
  rw [hctx,hfence]
  generalize (a.wantsFence f ringIdx && env.fenceAlloc) = outFence at h ⊢
  generalize a.polled f ringIdx = polled at h
  have hstart : seen (.context::whenHeld outFence (.take .outFence)) = [] :=
    seen_whenHeld_take outFence
  have hzero : seen (cleanupSubmit .zero) = [] := rfl
  dsimp only at h
  split at h
  · obtain rfl := Option.some.inj h
    refine .of_quiet (fun h0 => by cases h0) ?_
    rw [seen_append,seen_append,hstart,seen_whenHeld_drop,hzero]
    rfl
  split at h
  · rename_i hp
    rw [Bool.and_eq_true,decide_eq_true_iff] at hp
    obtain rfl := Option.some.inj h
    refine .of_quiet hp.2 ?_
    rw [seen_append,seen_append,seen_append,hstart,seen_whenHeld_drop,hzero]
    rfl
  split at h
  · cases h
  split at h
  · cases h
  · obtain rfl := Option.some.inj h
    apply parts_outcome
    rw [seen_append,hstart,seen_whenHeld_take]
    rfl

/-- A file with one ring, and one that has none. -/
def ringFile : ExecFile := ⟨true,⟨3,1,fun i => if i = 0 then 2 else 0,fun i => if i = 0 then 1 else 0⟩,0,0⟩

/-- A job for the ring that waits for two syncobjs, resets the second, and signals one and a descriptor. -/
def ringArgs : ExecArgs :=
  ⟨false,false,true,true,0,false,[⟨true,false,false,0,[⟨2,0⟩,⟨9,0⟩],true⟩,⟨true,false,true,0,[⟨8,0⟩],true⟩],
    [⟨true,false,5,true,true⟩]⟩

/-- All calls succeed. -/
def allWell : ExecEnv := ⟨true,true,0,true,true,true,0,7,true,true,true,none,0,.added⟩

/-- The fence on the ring itself is not waited for. -/
theorem ring_job_outcome : ∃ r, execbufferIoctl ringFile ringArgs allWell = some r ∧
    seen r.2 = [.wait 9 0,.wait 8 0,.submit,.give (.fd 7),.attach 0 true,.reset 1] := by
  have h : execbufferIoctl ringFile ringArgs allWell = some _ := rfl
  exact ⟨_,h,(execbuffer_outcome h).done rfl⟩

end Ioctl
end GuestAdditions

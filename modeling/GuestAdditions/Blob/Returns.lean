import GuestAdditions.Blob.Ownership

/-! When the list of a guest-pool blob goes back, told by the events of a run alone: an abort of the
create, a drop behind the unplug, or a response that confirms the UNREF. Every other object with a
list is being created, is in use, has its UNREF on the way, or had it refused. -/
namespace GuestAdditions

/-- The event moves object `i` on: its create ends, its last reference goes, or the driver sees the
response to its UNREF. -/
def BlobEvent.On (i : ℕ) : BlobEvent → Prop
  | .createAbort j | .createCommit j _ _ _ | .lastPut j _ | .response (.resourceUnref j _) _ => j = i
  | _ => False

def BlobEvent.unplugs : BlobEvent → Bool
  | .unplug => true
  | _ => false

/-- The reason, if any, for which the event gives back the list of object `i`. -/
def BlobEvent.reason (unplugged : Bool) (i : ℕ) : BlobEvent → Option ReturnReason
  | .createAbort j => if j = i then some .createFailed else none
  | .lastPut j _ => if j = i ∧ unplugged = true then some .notQueued else none
  | .response (.resourceUnref j _) type =>
    if j = i ∧ ConfirmsUnref type then some (.answered type) else none
  | _ => none

/-- The reasons for which a run gives back the list of object `i`, oldest first. -/
def reasons (i : ℕ) : Bool → List BlobEvent → List ReturnReason
  | _,[] => []
  | unplugged,e::es => (e.reason unplugged i).toList ++ reasons i (unplugged || e.unplugs) es

/-- What the record of a list's return says about its object. -/
def ReturnReason.Justified (unplugged : Bool) (o : VramObject) : ReturnReason → Prop
  | createFailed => o.createQueued = false
  | answered type => o.answer = some type ∧ ConfirmsUnref type
  | notQueued => o.unrefQueued = false ∧ unplugged = true

variable {σ β : Type} {H : PoolHost σ} {B : DrmBuddy β} {p₀ : GuestPool} {s s' : BlobDev σ β}
  {events : List BlobEvent} {e : BlobEvent} {i : ℕ} {o : VramObject}

/-- Why object `i` still has its list after a run. -/
inductive BlobDev.Keeps (events : List BlobEvent) (s : BlobDev σ β) (i : ℕ) : Prop
  | creating (begun : ∀ e ∈ events, ¬ e.On i)
  | live {resId tableOk addOk} (committed : .createCommit i resId tableOk addOk ∈ events)
      (referred : ∀ addOk, .lastPut i addOk ∉ events)
  | unrefQueued {resId} (queued : .resourceUnref i resId ∈ s.ctrlq)
  | unrefAnswered {resId type} (answered : (.resourceUnref i resId,type) ∈ s.replies)
  | unrefLost (lost : .lastPut i false ∈ events)
  | refused {resId type} (seen : .response (.resourceUnref i resId) type ∈ events)
      (refused : ¬ ConfirmsUnref type)

/-- The ownership of the pages of the pool after the events of a run. -/
structure BlobDev.Ownership (B : DrmBuddy β) (events : List BlobEvent) (s : BlobDev σ β) : Prop where
  /-- A page is handed out exactly when it is in an object's list. -/
  listed : ∀ x, (∃ b ∈ B.live s.guest.mm, b.Contains x) ↔
    ∃ o ∈ s.objects, ∃ b ∈ o.blocks, b.Contains x
  /-- No page is in two lists, or twice in one. -/
  unique : ∀ x (i j : ℕ) (o o' : VramObject), s.objects[i]? = some o → s.objects[j]? = some o' →
    ∀ b ∈ o.blocks, ∀ b' ∈ o'.blocks, b.Contains x → b'.Contains x → i = j ∧ b = b'
  nodup : ∀ o ∈ s.objects, o.blocks.Nodup
  keeps : ∀ (i : ℕ) (o : VramObject), s.objects[i]? = some o → o.blocks ≠ [] → s.Keeps events i
  /-- A list goes back when the events say so, at most once, and is then empty. -/
  returned : ∀ (i : ℕ) (o : VramObject), s.objects[i]? = some o →
    o.returns = reasons i false events ∧ o.returns.length ≤ 1 ∧
    ∀ reason ∈ o.returns, o.blocks = [] ∧ reason.Justified s.unplugged o
  /-- A connected host holds no page that is in another object's list. -/
  held : s.unplugged = false → ∀ h ∈ s.holds, ∀ b ∈ h.blocks, ∀ (j : ℕ) (o : VramObject), j ≠ h.obj →
    s.objects[j]? = some o → ∀ b' ∈ o.blocks, b.Disjoint b'

/-- The phase of object `i` agrees with the events, the queue and the responses. -/
def BlobDev.Stage (events : List BlobEvent) (s : BlobDev σ β) (i : ℕ) (o : VramObject) : Prop :=
  match o.phase with
  | .creating => ∀ e ∈ events, ¬ e.On i
  | .live => (∃ resId tableOk addOk, .createCommit i resId tableOk addOk ∈ events) ∧
      ∀ addOk, .lastPut i addOk ∉ events
  | .unrefQueued => .lastPut i false ∈ events ∨ ∃ resId, .resourceUnref i resId ∈ s.ctrlq ∨
      ∃ type, (.resourceUnref i resId,type) ∈ s.replies
  | .done => o.blocks ≠ [] →
      ∃ resId type, .response (.resourceUnref i resId) type ∈ events ∧ ¬ ConfirmsUnref type

/-- What a run has recorded: the phases, and why each list went back. -/
structure BlobDev.Recorded (events : List BlobEvent) (s : BlobDev σ β) : Prop where
  unplugged : s.unplugged = events.any BlobEvent.unplugs
  fresh : ∀ i, s.objects.length ≤ i → ∀ e ∈ events, ¬ e.On i
  stage : ∀ (i : ℕ) (o : VramObject), s.objects[i]? = some o → s.Stage events i o
  returns : ∀ (i : ℕ) (o : VramObject), s.objects[i]? = some o → o.returns = reasons i false events

lemma reason_of_not_on {unplugged : Bool} (h : ¬ e.On i) : e.reason unplugged i = none := by
  cases e with
  | createAbort j => exact if_neg h
  | lastPut j addOk => exact if_neg fun hj => h hj.1
  | response cmd type =>
    cases cmd with
    | createBlob => rfl
    | resourceUnref j resId => exact if_neg fun hj => h hj.1
  | _ => rfl

lemma reasons_snoc {unplugged : Bool} :
    reasons i unplugged (events ++ [e]) =
      reasons i unplugged events ++ (e.reason (unplugged || events.any BlobEvent.unplugs) i).toList := by
  induction events generalizing unplugged with
  | nil => simp [reasons]
  | cons e' es ih => simp [reasons,ih,Bool.or_assoc]

lemma reasons_fresh {unplugged : Bool} (h : ∀ e ∈ events, ¬ e.On i) :
    reasons i unplugged events = [] := by
  induction events generalizing unplugged with
  | nil => rfl
  | cons e es ih =>
    rw [reasons,reason_of_not_on (h e List.mem_cons_self),
      ih fun e' he' => h e' (List.mem_cons_of_mem _ he')]
    rfl

/-- An event that does not move the object on leaves its phase in agreement, as long as its UNREF
stays on its way. -/
theorem BlobDev.Stage.frame (h : s.Stage events i o) (hon : ¬ e.On i)
    (hqueue : ∀ r, .resourceUnref i r ∈ s.ctrlq →
      .resourceUnref i r ∈ s'.ctrlq ∨ ∃ t, (.resourceUnref i r,t) ∈ s'.replies)
    (hreply : ∀ r t, (.resourceUnref i r,t) ∈ s.replies → (.resourceUnref i r,t) ∈ s'.replies) :
    s'.Stage (events ++ [e]) i o := by
  cases hphase : o.phase with
  | creating =>
    simp only [BlobDev.Stage,hphase] at h ⊢
    rintro e' he'
    rcases List.mem_append.mp he' with he' | he'
    · exact h e' he'
    · exact List.mem_singleton.mp he' ▸ hon
  | live =>
    simp only [BlobDev.Stage,hphase] at h ⊢
    obtain ⟨⟨resId,tableOk,addOk,hmem⟩,hput⟩ := h
    refine ⟨⟨resId,tableOk,addOk,List.mem_append_left _ hmem⟩,fun addOk hmem => ?_⟩
    rcases List.mem_append.mp hmem with hmem | hmem
    · exact hput addOk hmem
    · exact hon (List.mem_singleton.mp hmem ▸ rfl)
  | unrefQueued =>
    simp only [BlobDev.Stage,hphase] at h ⊢
    obtain hlost | ⟨resId,hmem | ⟨type,hmem⟩⟩ := h
    · exact .inl (List.mem_append_left _ hlost)
    · exact .inr ⟨resId,hqueue resId hmem⟩
    · exact .inr ⟨resId,.inr ⟨type,hreply resId type hmem⟩⟩
  | done =>
    simp only [BlobDev.Stage,hphase] at h ⊢
    intro hne
    obtain ⟨resId,type,hmem,hrefused⟩ := h hne
    exact ⟨resId,type,List.mem_append_left _ hmem,hrefused⟩

namespace BlobDev.Recorded

/-- No object changes: the event moves none on, and no UNREF leaves its way. -/
theorem frame (hr : s.Recorded events) (hobjects : s'.objects = s.objects)
    (hplug : s'.unplugged = (s.unplugged || e.unplugs)) (hon : ∀ i, ¬ e.On i)
    (hqueue : ∀ i r, .resourceUnref i r ∈ s.ctrlq → .resourceUnref i r ∈ s'.ctrlq)
    (hreply : ∀ i r t, (.resourceUnref i r,t) ∈ s.replies → (.resourceUnref i r,t) ∈ s'.replies) :
    s'.Recorded (events ++ [e]) := by
  refine ⟨by rw [hplug,hr.unplugged]; simp,fun i hi e' he' => ?_,fun i o hi => ?_,fun i o hi => ?_⟩
  · rcases List.mem_append.mp he' with he' | he'
    · exact hr.fresh i (hobjects ▸ hi) e' he'
    · exact List.mem_singleton.mp he' ▸ hon i
  · exact (hr.stage i o (hobjects ▸ hi)).frame (hon i) (fun r h => .inl (hqueue i r h)) (hreply i)
  · rw [reasons_snoc,reason_of_not_on (hon i),hr.returns i o (hobjects ▸ hi)]
    simp

/-- One object moves on. -/
theorem move (hr : s.Recorded events) (at_i : s.objects[i]? = some o) {a : VramObject}
    (hobjects : s'.objects = s.objects.set i a) (hplug : s'.unplugged = s.unplugged)
    (hunplugs : e.unplugs = false) (hon : ∀ j, j ≠ i → ¬ e.On j)
    (hqueue : ∀ j, j ≠ i → ∀ r, .resourceUnref j r ∈ s.ctrlq → .resourceUnref j r ∈ s'.ctrlq)
    (hreply : ∀ j, j ≠ i → ∀ r t, (.resourceUnref j r,t) ∈ s.replies →
      (.resourceUnref j r,t) ∈ s'.replies)
    (hstage : s'.Stage (events ++ [e]) i a)
    (hreturns : a.returns = o.returns ++ (e.reason s.unplugged i).toList) :
    s'.Recorded (events ++ [e]) := by
  obtain ⟨hlt,-⟩ := List.getElem?_eq_some_iff.mp at_i
  refine ⟨by rw [hplug,hr.unplugged]; simp [hunplugs],fun j hj e' he' => ?_,fun j b hj => ?_,
    fun j b hj => ?_⟩
  · rw [hobjects,List.length_set] at hj
    rcases List.mem_append.mp he' with he' | he'
    · exact hr.fresh j hj e' he'
    · exact List.mem_singleton.mp he' ▸ hon j (by omega)
  · rw [hobjects] at hj
    rcases getElem?_set_cases hj with ⟨rfl,rfl⟩ | ⟨hne,hj⟩
    · exact hstage
    · exact (hr.stage j b hj).frame (hon j hne) (fun r h => .inl (hqueue j hne r h)) (hreply j hne)
  · rw [hobjects] at hj
    rw [reasons_snoc]
    rcases getElem?_set_cases hj with ⟨rfl,rfl⟩ | ⟨hne,hj⟩
    · rw [hreturns,hr.returns j o at_i,hr.unplugged,Bool.false_or]
    · rw [reason_of_not_on (hon j hne),hr.returns j b hj]
      simp

lemma createBegin (hr : s.Recorded events) (maxNents : ℤ) (size : ℕ) :
    (s.createBegin H B maxNents size).Recorded (events ++ [.createBegin maxNents size]) := by
  have hon : ∀ i, ¬ (BlobEvent.createBegin maxNents size).On i := fun _ h => h
  simp only [BlobDev.createBegin]
  split_ifs
  · -- the new object is the first with its index
    have hfresh : ∀ j, s.objects.length ≤ j →
        ∀ e ∈ events ++ [.createBegin maxNents size], ¬ e.On j := fun j hj e he => by
      rcases List.mem_append.mp he with he | he
      · exact hr.fresh j hj e he
      · exact List.mem_singleton.mp he ▸ hon j
    refine ⟨by simp [hr.unplugged,BlobEvent.unplugs],fun j hj => hfresh j ?_,fun j a hj => ?_,
      fun j a hj => ?_⟩
    · simp only [List.length_append,List.length_cons] at hj
      omega
    · rcases getElem?_concat_cases hj with hj | ⟨rfl,rfl⟩
      · exact (hr.stage j a hj).frame (hon j) (fun _ h => .inl h) (fun _ _ h => h)
      · exact hfresh _ le_rfl
    · rcases getElem?_concat_cases hj with hj | ⟨rfl,rfl⟩
      · rw [reasons_snoc,reason_of_not_on (hon j),hr.returns j a hj]
        simp
      · exact (reasons_fresh (hfresh _ le_rfl)).symm
  · exact hr.frame rfl (by simp [BlobEvent.unplugs]) hon (fun _ _ h => h) (fun _ _ _ h => h)

/-- The list of an object goes back, for the reason that the event gives. -/
theorem giveBack (hr : s.Recorded events) (hs : s.Owned B p₀) (at_i : s.objects[i]? = some o)
    {reason : ReturnReason} (hnone : o.returns = []) (hunplugs : e.unplugs = false)
    (hon : ∀ j, j ≠ i → ¬ e.On j) (hreason : e.reason s.unplugged i = some reason) :
    (s.giveBack H B i o reason).Recorded (events ++ [e]) := by
  have hready : s.guest.pool.ready = true := hs.safe.guest.bounded.ready
  refine hr.move at_i rfl rfl hunplugs hon (fun _ _ _ h => h) (fun _ _ _ _ h => h) ?_ ?_
  · intro hne
    exact absurd (if_pos hready) hne
  · simp [hnone,hreason]

lemma createAbort (hr : s.Recorded events) (hs : s.Owned B p₀) (at_i : s.objects[i]? = some o)
    (phase : o.phase = .creating) : (s.createAbort H B i o).Recorded (events ++ [.createAbort i]) := by
  have hok := hs.ok i o at_i
  cases hok with
  | creating =>
    exact hr.giveBack hs at_i rfl rfl (fun j hj h => hj h.symm) (if_pos rfl)
  | _ => cases phase

lemma createCommit (hr : s.Recorded events) (at_i : s.objects[i]? = some o)
    (phase : o.phase = .creating) (resId : ℕ) (tableOk addOk : Bool) :
    (s.createCommit i o resId tableOk addOk).Recorded
      (events ++ [.createCommit i resId tableOk addOk]) := by
  have hstage := hr.stage i o at_i
  simp only [BlobDev.Stage,phase] at hstage
  have hlive : ∀ (s' : BlobDev σ β) sent,
      s'.Stage (events ++ [.createCommit i resId tableOk addOk]) i
        { o with owned := true, resId := resId, phase := .live, createQueued := sent } := by
    intro s' sent
    refine ⟨⟨resId,tableOk,addOk,by simp⟩,fun addOk' hmem => ?_⟩
    rcases List.mem_append.mp hmem with hmem | hmem
    · exact hstage _ hmem rfl
    · simp at hmem
  have hout := queueCtrlBuffer_outcome s (.createBlob i resId o.blocks) tableOk addOk
  simp only [BlobDev.createCommit]
  generalize s.queueCtrlBuffer (.createBlob i resId o.blocks) tableOk addOk = q at hout ⊢
  cases hout with
  | refused | lost =>
    exact hr.move at_i rfl rfl rfl (fun j hj h => hj h.symm) (fun _ _ _ h => h)
      (fun _ _ _ _ h => h) (hlive _ _) (by simp [BlobEvent.reason])
  | queued =>
    exact hr.move at_i rfl rfl rfl (fun j hj h => hj h.symm)
      (fun _ _ _ h => List.mem_append_left _ h) (fun _ _ _ _ h => h) (hlive _ _)
      (by simp [BlobEvent.reason])

lemma vramFree (hr : s.Recorded events) (hs : s.Owned B p₀) (at_i : s.objects[i]? = some o)
    (phase : o.phase = .live) (addOk : Bool) :
    (s.vramFree H B i o addOk).Recorded (events ++ [.lastPut i addOk]) := by
  have hok := hs.ok i o at_i
  cases hok with
  | @live blocks resId sent =>
    have hon : ∀ j, j ≠ i → ¬ (BlobEvent.lastPut i addOk).On j := fun j hj h => hj h.symm
    have hout := queueCtrlBuffer_outcome s (.resourceUnref i resId) true addOk
    simp only [BlobDev.vramFree,BlobDev.cmdUnrefResource]
    generalize s.queueCtrlBuffer (.resourceUnref i resId) true addOk = q at hout ⊢
    cases hout with
    | refused neg cause =>
      have hgone : s.unplugged = true := by simpa using cause
      rw [if_pos neg]
      exact hr.giveBack hs at_i rfl rfl hon (if_pos ⟨rfl,hgone⟩)
    | lost plugged refused =>
      subst refused
      refine hr.move at_i rfl rfl rfl hon (fun _ _ _ h => h) (fun _ _ _ _ h => h) ?_ ?_
      · exact .inl (by simp)
      · simp [BlobEvent.reason,plugged]
    | queued plugged =>
      refine hr.move at_i rfl rfl rfl hon (fun _ _ _ h => List.mem_append_left _ h)
        (fun _ _ _ _ h => h) ?_ ?_
      · exact .inr ⟨resId,.inl (List.mem_append_right _ (by simp))⟩
      · simp [BlobEvent.reason,plugged]
  | _ => cases phase

lemma hostCreate (hr : s.Recorded events) {resId type : ℕ} {entries : List Block}
    {rest : List CtrlCmd} {holds : List HostHold}
    (head : s.ctrlq = .createBlob i resId entries::rest) :
    ({ s with
      ctrlq := rest
      replies := s.replies ++ [(.createBlob i resId entries,type)]
      holds := holds } : BlobDev σ β).Recorded (events ++ [.hostCreate type]) := by
  refine hr.frame rfl (by simp [BlobEvent.unplugs]) (fun _ h => h) (fun j r hmem => ?_)
    (fun _ _ _ h => List.mem_append_left _ h)
  simpa [head] using hmem

lemma hostUnref (hr : s.Recorded events) (hs : s.Owned B p₀) {resId type : ℕ}
    {rest : List CtrlCmd} {holds : List HostHold} (head : s.ctrlq = .resourceUnref i resId::rest)
    (at_i : s.objects[i]? = some o) :
    ({ s with
      ctrlq := rest
      replies := s.replies ++ [(.resourceUnref i resId,type)]
      objects := s.objects.set i { o with answer := some type }
      holds := holds } : BlobDev σ β).Recorded (events ++ [.hostUnref type]) := by
  obtain ⟨a,ha,hphase,-⟩ := hs.unrefs i resId (head ▸ List.mem_cons_self)
  obtain rfl : o = a := Option.some.inj (at_i.symm.trans ha)
  refine hr.move at_i rfl rfl rfl (fun _ _ h => h) (fun j hj r hmem => ?_)
    (fun _ _ _ _ h => List.mem_append_left _ h) ?_ (by simp [BlobEvent.reason])
  · rw [head] at hmem
    rcases List.mem_cons.mp hmem with hmem | hmem
    · exact absurd (CtrlCmd.resourceUnref.inj hmem).1 hj
    · exact hmem
  · simp only [BlobDev.Stage,hphase]
    exact .inr ⟨resId,.inr ⟨type,List.mem_append_right _ (by simp)⟩⟩

lemma responseCreate (hr : s.Recorded events) {resId type : ℕ} {entries : List Block}
    {before after : List (CtrlCmd × ℕ)}
    (seen : s.replies = before ++ (.createBlob i resId entries,type)::after) :
    ({ s with replies := before ++ after } : BlobDev σ β).Recorded
      (events ++ [.response (.createBlob i resId entries) type]) := by
  refine hr.frame rfl (by simp [BlobEvent.unplugs]) (fun _ h => h) (fun _ _ h => h)
    (fun j r t hmem => ?_)
  simpa [seen] using hmem

lemma cmdUnrefCb (hr : s.Recorded events) (hs : s.Owned B p₀) {resId type : ℕ}
    {before after : List (CtrlCmd × ℕ)}
    (seen : s.replies = before ++ (.resourceUnref i resId,type)::after)
    (at_i : s.objects[i]? = some o) :
    (({ s with replies := before ++ after } : BlobDev σ β).cmdUnrefCb H B i o type).Recorded
      (events ++ [.response (.resourceUnref i resId) type]) := by
  obtain ⟨a,ha,hphase,hans⟩ := hs.replies i resId type (by simp [seen])
  obtain rfl : o = a := Option.some.inj (at_i.symm.trans ha)
  have hready : s.guest.pool.ready = true := hs.safe.guest.bounded.ready
  have hon : ∀ j, j ≠ i → ¬ (BlobEvent.response (.resourceUnref i resId) type).On j :=
    fun j hj h => hj h.symm
  have hreply : ∀ j, j ≠ i → ∀ r t, (.resourceUnref j r,t) ∈ s.replies →
      (.resourceUnref j r,t) ∈ before ++ after := fun j hj r t hmem => by
    simpa [seen,hj] using hmem
  have hok := hs.ok i o at_i
  cases hok with
  | unrefQueued =>
    simp only [BlobDev.cmdUnrefCb]
    by_cases hconf : ConfirmsUnref type
    · rw [if_pos hconf]
      refine hr.move at_i rfl rfl rfl hon (fun _ _ _ h => h) hreply ?_ ?_
      · intro hne
        exact absurd (if_pos hready) hne
      · simp [BlobEvent.reason,hconf]
    · rw [if_neg hconf]
      refine hr.move at_i rfl rfl rfl hon (fun _ _ _ h => h) hreply ?_ ?_
      · exact fun _ => ⟨resId,type,by simp,hconf⟩
      · simp [BlobEvent.reason,hconf]
  | _ => cases hphase

lemma step (hr : s.Recorded events) (hs : s.Owned B p₀) (h : BlobStep H B s e s') :
    s'.Recorded (events ++ [e]) := by
  cases h with
  | createBegin plugged => exact hr.createBegin _ _
  | createAbort at_i phase => exact hr.createAbort hs at_i phase
  | createCommit at_i phase => exact hr.createCommit at_i phase _ _ _
  | lastPut at_i phase => exact hr.vramFree hs at_i phase _
  | hostCreate head sub => exact hr.hostCreate head
  | hostUnref head at_i sub dropped => exact hr.hostUnref hs head at_i
  | responseCreate seen => exact hr.responseCreate seen
  | responseUnref seen at_i => exact hr.cmdUnrefCb hs seen at_i
  | reclaimWork | unplug =>
    exact hr.frame rfl (by simp [BlobEvent.unplugs]) (fun _ h => h) (fun _ _ h => h)
      (fun _ _ _ h => h)

lemma start (p : GuestPool) (mm : β) (host : σ) : (BlobDev.start p mm host).Recorded [] := by
  refine ⟨rfl,fun _ _ e he => by simp at he,fun i o hi => ?_,fun i o hi => ?_⟩ <;>
    simp [BlobDev.start] at hi

end BlobDev.Recorded

/-- An object that still has its list keeps it for one of the reasons. -/
theorem BlobDev.Stage.keeps (h : s.Stage events i o) (hne : o.blocks ≠ []) : s.Keeps events i := by
  cases hphase : o.phase with
  | creating =>
    simp only [BlobDev.Stage,hphase] at h
    exact .creating h
  | live =>
    simp only [BlobDev.Stage,hphase] at h
    obtain ⟨⟨resId,tableOk,addOk,hmem⟩,hput⟩ := h
    exact .live hmem hput
  | unrefQueued =>
    simp only [BlobDev.Stage,hphase] at h
    obtain hlost | ⟨resId,hmem | ⟨type,hmem⟩⟩ := h
    · exact .unrefLost hlost
    · exact .unrefQueued hmem
    · exact .unrefAnswered hmem
  | done =>
    simp only [BlobDev.Stage,hphase] at h
    obtain ⟨resId,type,hmem,hrefused⟩ := h hne
    exact .refused hmem hrefused

lemma VramObject.Ok.returned {unplugged : Bool} (h : o.Ok unplugged) :
    o.returns.length ≤ 1 ∧
      ∀ reason ∈ o.returns, o.blocks = [] ∧ reason.Justified unplugged o := by
  cases h with
  | creating | live | unrefQueued | kept => simp
  | failed => simp [ReturnReason.Justified]
  | confirmed confirmed => simpa [ReturnReason.Justified] using confirmed
  | notQueued gone => simpa [ReturnReason.Justified] using gone

lemma BlobDev.Owned.ownership (hs : s.Owned B p₀) (hr : s.Recorded events) : s.Ownership B events where
  listed x := by
    constructor
    · rintro ⟨b,hb,hx⟩
      obtain ⟨bs,hbs,hb⟩ := List.mem_flatten.mp (hs.safe.held.mem_iff.mp hb)
      obtain ⟨o,ho,rfl⟩ := List.mem_map.mp hbs
      exact ⟨o,ho,b,hb,hx⟩
    · rintro ⟨o,ho,b,hb,hx⟩
      exact ⟨b,hs.safe.held.mem_iff.mpr
        (List.mem_flatten.mpr ⟨_,List.mem_map_of_mem ho,hb⟩),hx⟩
  unique x i j o o' hi hj b hb b' hb' hx hx' := by
    have hij : i = j := by
      by_contra hne
      exact Extent.not_disjoint_of_contains hx hx' (hs.separate hi hj hne b hb b' hb')
    subst hij
    obtain rfl : o = o' := Option.some.inj (hi.symm.trans hj)
    exact ⟨rfl,(hs.separate_self (List.mem_of_getElem? hi)).unique hb hb' hx hx'⟩
  nodup o ho := (hs.separate_self ho).nodup
  keeps i o hi hne := (hr.stage i o hi).keeps hne
  returned i o hi := ⟨hr.returns i o hi,(hs.ok i o hi).returned⟩
  held hplug h hmem b hb j o hne hj := by
    obtain ⟨a,ha,hback⟩ := hs.holds h hmem
    have hnil := (hplug ▸ hs.ok h.obj a ha).returns_nil hback
    exact hs.separate ha hj hne.symm b (hback.blocks_eq hnil ▸ hb)

/-- In every run of creates, drops, host answers, responses and unplug: each page is free or in one
list, an object's list goes back exactly when the events say so, at most once and for a good reason,
and no page that a connected host holds for one object is in the list of another. -/
theorem guestPool_blob_ownership (hB : B.Sound) {reservedMemory : Option (List DtNode)} {ret : ℤ}
    {p : GuestPool} {mm : β} (hinit : guestPoolInit B reservedMemory = (ret,some (p,mm)))
    (H : PoolHost σ) (host : σ) {events : List BlobEvent}
    (hrun : Transition.Run (BlobStep H B) (BlobDev.start p mm host) events s) : s.Ownership B events := by
  obtain ⟨hp,hmm⟩ := guestPoolInit_accepted hinit
  have hend := hrun.trace_invariant (I := fun es s => s.Owned B p ∧ s.Recorded es)
    (fun _ _ _ _ hs h => ⟨hs.1.step hB h,hs.2.step hs.1 h⟩)
    ⟨.start hB hp hmm host,.start p mm host⟩
  exact hend.1.ownership hend.2

/-- A blob is created, processed, dropped and confirmed, and its block is given to the next one. -/
theorem guestPool_blob_ownership_reuse :
    let p : GuestPool := ⟨0x100000000,3*SZ_2M,0,SZ_2M,SZ_2M,SZ_2M,true,false⟩
    let block : Block := ⟨0,SZ_2M,by decide⟩
    let events : List BlobEvent := [.createBegin 1 SZ_2M,.createCommit 0 7 true true,
      .hostCreate VIRTIO_GPU_RESP_OK_NODATA,.lastPut 0 true,.hostUnref VIRTIO_GPU_RESP_OK_NODATA,
      .response (.createBlob 0 7 [block]) VIRTIO_GPU_RESP_OK_NODATA,
      .response (.resourceUnref 0 7) VIRTIO_GPU_RESP_OK_NODATA,.createBegin 1 SZ_2M]
    ∃ s, Transition.Run (BlobStep PoolHost.willing FirstFit.buddy) (BlobDev.start p ⟨3*SZ_2M,[]⟩ ())
      events s ∧ s.Ownership FirstFit.buddy events := by
  intro p block events
  have hrun : ∃ s, Transition.Run (BlobStep PoolHost.willing FirstFit.buddy)
      (BlobDev.start p ⟨3*SZ_2M,[]⟩ ()) events s := by
    refine ⟨_,
      .cons (.createBegin rfl) <|
      .cons (.createCommit (o := ⟨[block],false,0,.creating,false,false,none,[]⟩) ?_ rfl) <|
      .cons (@BlobStep.hostCreate _ _ _ _ _ 0 7 [block] [] _ [⟨0,7,[block]⟩] ?_ (by simp)) <|
      .cons (.lastPut (o := ⟨[block],true,7,.live,true,false,none,[]⟩) ?_ rfl) <|
      .cons (@BlobStep.hostUnref _ _ _ _ _ 0 ⟨[block],true,7,.unrefQueued,true,true,none,[]⟩ 7 [] _ []
        ?_ ?_ (by simp) (by simp)) <|
      .cons (@BlobStep.responseCreate _ _ _ _ _ _ _ _ _ [] [(.resourceUnref 0 7,0x1100)] ?_) <|
      .cons (@BlobStep.responseUnref _ _ _ _ _ 0
        ⟨[block],true,7,.unrefQueued,true,true,some 0x1100,[]⟩ _ _ [] [] ?_ ?_) <|
      .cons (.createBegin ?_) <|
      .nil _⟩
    all_goals decide +kernel
  obtain ⟨s,hrun⟩ := hrun
  exact ⟨s,hrun,guestPool_blob_ownership FirstFit.buddy_sound
    (show guestPoolInit _ (some [gpuGuestNode 0x200000 0x600000 0x200000]) = (0,_) by rfl) _ _ hrun⟩

end GuestAdditions

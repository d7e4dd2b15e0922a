import GuestAdditions.Blob.Lifecycle
import GuestAdditions.GuestPool.Safety

/-! Who owns the pages of the guest pool over the life of its blobs. Every page is free in the
allocator or lies in the list of exactly one object, an object's list goes back at most once and only
for one of the three reasons of `ReturnReason`, and while the device is plugged nothing that the host
holds is ever in another object's list. -/
namespace GuestAdditions

/-- The states in which an object can be found. -/
inductive VramObject.Ok (unplugged : Bool) : VramObject → Prop
  | creating {blocks resId} : Ok unplugged ⟨blocks,false,resId,.creating,false,false,none,[]⟩
  | live {blocks resId sent} : Ok unplugged ⟨blocks,true,resId,.live,sent,false,none,[]⟩
  | unrefQueued {blocks resId sent answer} :
      Ok unplugged ⟨blocks,true,resId,.unrefQueued,sent,true,answer,[]⟩
  | kept {blocks resId sent type} (refused : ¬ ConfirmsUnref type) :
      Ok unplugged ⟨blocks,true,resId,.done,sent,true,some type,[]⟩
  | failed {resId} : Ok unplugged ⟨[],false,resId,.done,false,false,none,[.createFailed]⟩
  | confirmed {resId sent type} (confirmed : ConfirmsUnref type) :
      Ok unplugged ⟨[],false,resId,.done,sent,true,some type,[.answered type]⟩
  | notQueued {resId sent} (gone : unplugged = true) :
      Ok unplugged ⟨[],false,resId,.done,sent,false,none,[.notQueued]⟩

/-- What a CREATE_BLOB that the host has not processed, or memory that it holds, says about the
object: as long as its list has not been returned, it is the list that the host was given. -/
structure VramObject.Backs (o : VramObject) (resId : ℕ) (blocks : List Block) : Prop where
  sent : o.createQueued = true
  resId_eq : o.resId = resId
  blocks_eq : o.returns = [] → o.blocks = blocks
  held : ∀ type, o.answer = some type → ¬ ConfirmsUnref type

/-- After an UNREF of an object the queue has no command for it. -/
def CtrlCmd.Before (a b : CtrlCmd) : Prop := ∀ i resId, a = .resourceUnref i resId → b.obj ≠ i

/-- No two responses are to UNREFs of one object. -/
def OtherUnref (a b : CtrlCmd × ℕ) : Prop :=
  ∀ i r r', a.1 = .resourceUnref i r → b.1 ≠ .resourceUnref i r'

structure BlobDev.Owned {σ β : Type} (B : DrmBuddy β) (p₀ : GuestPool) (s : BlobDev σ β) : Prop where
  safe : PoolClient.Safe B p₀ ⟨s.guest,s.objects.map VramObject.blocks⟩
  ok : ∀ (i : ℕ) (o : VramObject), s.objects[i]? = some o → o.Ok s.unplugged
  creates : ∀ i resId blocks, .createBlob i resId blocks ∈ s.ctrlq →
    ∃ o : VramObject, s.objects[i]? = some o ∧ o.Backs resId blocks
  holds : ∀ h ∈ s.holds, ∃ o : VramObject, s.objects[h.obj]? = some o ∧ o.Backs h.resId h.blocks
  unrefs : ∀ i resId, .resourceUnref i resId ∈ s.ctrlq →
    ∃ o : VramObject, s.objects[i]? = some o ∧ o.phase = .unrefQueued ∧ o.answer = none ∧ o.resId = resId
  replies : ∀ i resId type, (.resourceUnref i resId,type) ∈ s.replies →
    ∃ o : VramObject, s.objects[i]? = some o ∧ o.phase = .unrefQueued ∧ o.answer = some type
  order : s.ctrlq.Pairwise CtrlCmd.Before
  once : s.replies.Pairwise OtherUnref

/-- The ways the queueing of a command can end. -/
inductive QueueOutcome {σ β : Type} (s : BlobDev σ β) (cmd : CtrlCmd) (tableOk addOk : Bool) :
    ℤ × BlobDev σ β → Prop
  | refused {ret} (neg : ret < 0) (cause : tableOk = false ∨ s.unplugged = true) :
      QueueOutcome s cmd tableOk addOk (ret,s)
  | lost (plugged : s.unplugged = false) (refused : addOk = false) :
      QueueOutcome s cmd tableOk addOk (0,s)
  | queued (plugged : s.unplugged = false) :
      QueueOutcome s cmd tableOk addOk (0,{ s with ctrlq := s.ctrlq ++ [cmd] })

lemma queueCtrlBuffer_outcome {σ β : Type} (s : BlobDev σ β) (cmd : CtrlCmd) (tableOk addOk : Bool) :
    QueueOutcome s cmd tableOk addOk (s.queueCtrlBuffer cmd tableOk addOk) := by
  simp only [BlobDev.queueCtrlBuffer]
  split_ifs with htable hgone hadd
  · exact .refused (by decide) (.inl htable)
  · exact .refused (by decide) (.inr hgone)
  · exact .queued (by simpa using hgone)
  · exact .lost (by simpa using hgone) (by simpa using hadd)

section Update
variable {α : Type*} {l : List α} {i j : ℕ} {a b c : α}

lemma getElem?_set_cases (h : (l.set i a)[j]? = some c) : j = i ∧ c = a ∨ j ≠ i ∧ l[j]? = some c := by
  rw [List.getElem?_set] at h
  split_ifs at h with hij hlt
  · exact .inl ⟨hij.symm,(Option.some.inj h).symm⟩
  · exact .inr ⟨fun hji => hij hji.symm,h⟩

lemma getElem?_concat_cases (h : (l ++ [a])[j]? = some c) :
    l[j]? = some c ∨ j = l.length ∧ c = a := by
  rw [List.getElem?_append] at h
  split_ifs at h with hlt
  · exact .inl h
  · obtain ⟨hj,hc⟩ := List.getElem?_eq_some_iff.mp h
    simp only [List.length_cons,List.length_nil] at hj
    exact .inr ⟨by omega,by simpa using hc.symm⟩

/-- What holds of the element at `j`, and survives the update if that is the element updated. -/
theorem exists_set {P : α → Prop} (at_i : l[i]? = some b) (hP : j = i → P b → P a)
    (h : ∃ c, l[j]? = some c ∧ P c) : ∃ c, (l.set i a)[j]? = some c ∧ P c := by
  obtain ⟨c,hc,hPc⟩ := h
  obtain ⟨hlt,-⟩ := List.getElem?_eq_some_iff.mp at_i
  by_cases hij : i = j
  · subst hij
    obtain rfl : b = c := Option.some.inj (at_i.symm.trans hc)
    exact ⟨a,by rw [List.getElem?_set_self hlt],hP rfl hPc⟩
  · exact ⟨c,by rw [List.getElem?_set_ne hij]; exact hc,hPc⟩

lemma map_set_of_eq {γ : Type*} {f : α → γ} (at_i : l[i]? = some b) (h : f a = f b) :
    (l.set i a).map f = l.map f := by
  apply List.ext_getElem?
  intro j
  rw [List.getElem?_map, List.getElem?_map, List.getElem?_set]
  split_ifs with hij hlt
  · subst hij
    simp [at_i, h]
  · subst hij
    rw [List.getElem?_eq_none (not_lt.mp hlt)]
  · rfl

end Update

variable {σ β : Type} {H : PoolHost σ} {B : DrmBuddy β} {p₀ : GuestPool} {s : BlobDev σ β} {i : ℕ}
  {o : VramObject}

lemma PoolClient.Safe.of_held {g : Guest σ β} {held held' : List (List Block)}
    (h : PoolClient.Safe B p₀ ⟨g,held⟩) (hperm : held.flatten.Perm held'.flatten) :
    PoolClient.Safe B p₀ ⟨g,held'⟩ := ⟨h.guest,h.held.trans hperm⟩

/-- Returning an object's list leaves the ledger with the lists of the other objects. -/
theorem BlobDev.Owned.give (hB : B.Sound) (hs : s.Owned B p₀) (at_i : s.objects[i]? = some o)
    {o' : VramObject} (hempty : o'.blocks = []) :
    PoolClient.Safe B p₀
      ⟨guestPoolFree H B o.blocks s.guest,(s.objects.set i o').map VramObject.blocks⟩ := by
  obtain ⟨hlt,rfl⟩ := List.getElem?_eq_some_iff.mp at_i
  have hperm : (s.objects.map VramObject.blocks).Perm
      (s.objects[i].blocks::(s.objects.eraseIdx i).map VramObject.blocks) :=
    (List.getElem_cons_eraseIdx_perm hlt).symm.map _
  have hset : ((s.objects.set i o').map VramObject.blocks).Perm
      (o'.blocks::(s.objects.eraseIdx i).map VramObject.blocks) :=
    (List.set_perm_cons_eraseIdx hlt o').map _
  refine (hs.safe.outcome hB (guestPoolFree_outcome (H := H) hB hs.safe.guest.bounded.ready
    hperm)).of_held ?_
  have hflat := hset.symm.flatten
  rwa [hempty, List.flatten_cons, List.nil_append] at hflat

namespace BlobDev.Owned

/-- Only the pool and the allocator change. -/
theorem of_guest (hs : s.Owned B p₀) {g : Guest σ β}
    (hg : PoolClient.Safe B p₀ ⟨g,s.objects.map VramObject.blocks⟩) :
    ({ s with guest := g } : BlobDev σ β).Owned B p₀ :=
  ⟨hg,hs.ok,hs.creates,hs.holds,hs.unrefs,hs.replies,hs.order,hs.once⟩

/-- One object moves on. No UNREF of it is queued or answered-and-unseen, and what the host was told
or holds of it stays true. -/
theorem update (hs : s.Owned B p₀) (at_i : s.objects[i]? = some o) {a : VramObject}
    {g : Guest σ β} (hsafe : PoolClient.Safe B p₀ ⟨g,(s.objects.set i a).map VramObject.blocks⟩)
    (hok : a.Ok s.unplugged)
    (hbacks : ∀ r bs, .createBlob i r bs ∈ s.ctrlq ∨ ⟨i,r,bs⟩ ∈ s.holds → o.Backs r bs → a.Backs r bs)
    (hunref : ∀ r, .resourceUnref i r ∉ s.ctrlq)
    (hreply : ∀ r type, (.resourceUnref i r,type) ∉ s.replies) :
    ({ s with guest := g, objects := s.objects.set i a } : BlobDev σ β).Owned B p₀ := by
  refine ⟨hsafe,fun j b hj => ?_,fun j r bs hmem => ?_,fun ⟨j,r,bs⟩ hmem => ?_,fun j r hmem => ?_,
    fun j r type hmem => ?_,hs.order,hs.once⟩
  · rcases getElem?_set_cases hj with ⟨-,rfl⟩ | ⟨-,hj⟩
    · exact hok
    · exact hs.ok j b hj
  · exact exists_set at_i (fun hji => hbacks r bs (.inl (hji ▸ hmem))) (hs.creates j r bs hmem)
  · exact exists_set at_i (fun hji => hbacks r bs (.inr (hji ▸ hmem))) (hs.holds _ hmem)
  · exact exists_set at_i (fun hji _ => absurd (hji ▸ hmem) (hunref r)) (hs.unrefs j r hmem)
  · exact exists_set at_i (fun hji _ => absurd (hji ▸ hmem) (hreply r type))
      (hs.replies j r type hmem)

/-- The same when the object keeps its list. -/
theorem relabel (hs : s.Owned B p₀) (at_i : s.objects[i]? = some o) {a : VramObject}
    (hblocks : a.blocks = o.blocks) (hok : a.Ok s.unplugged)
    (hbacks : ∀ r bs, .createBlob i r bs ∈ s.ctrlq ∨ ⟨i,r,bs⟩ ∈ s.holds → o.Backs r bs → a.Backs r bs)
    (hunref : ∀ r, .resourceUnref i r ∉ s.ctrlq)
    (hreply : ∀ r type, (.resourceUnref i r,type) ∉ s.replies) :
    ({ s with objects := s.objects.set i a } : BlobDev σ β).Owned B p₀ := by
  refine hs.update (g := s.guest) at_i ?_ hok hbacks hunref hreply
  rw [map_set_of_eq at_i hblocks]
  exact hs.safe

lemma giveBack (hB : B.Sound) (hs : s.Owned B p₀) (at_i : s.objects[i]? = some o)
    {reason : ReturnReason}
    (hok : (⟨[],false,o.resId,.done,o.createQueued,o.unrefQueued,o.answer,[reason]⟩ :
      VramObject).Ok s.unplugged) (hnone : o.returns = [])
    (hunref : ∀ r, .resourceUnref i r ∉ s.ctrlq)
    (hreply : ∀ r type, (.resourceUnref i r,type) ∉ s.replies) :
    (s.giveBack H B i o reason).Owned B p₀ := by
  have hready : s.guest.pool.ready = true := hs.safe.guest.bounded.ready
  simp only [BlobDev.giveBack, hready, if_true, hnone]
  exact hs.update at_i (hs.give hB at_i rfl) hok
    (fun _ _ _ hb => ⟨hb.sent,hb.resId_eq,fun h => by simp at h,hb.held⟩) hunref hreply

/-- A command is queued for an object of which no UNREF is queued. -/
theorem push (hs : s.Owned B p₀) {cmd : CtrlCmd}
    (hcreate : ∀ j r bs, cmd = .createBlob j r bs →
      ∃ o : VramObject, s.objects[j]? = some o ∧ o.Backs r bs)
    (hunref : ∀ j r, cmd = .resourceUnref j r → ∃ o : VramObject, s.objects[j]? = some o ∧
      o.phase = .unrefQueued ∧ o.answer = none ∧ o.resId = r)
    (hlast : ∀ r, .resourceUnref cmd.obj r ∉ s.ctrlq) :
    ({ s with ctrlq := s.ctrlq ++ [cmd] } : BlobDev σ β).Owned B p₀ := by
  refine ⟨hs.safe,hs.ok,fun j r bs hmem => ?_,hs.holds,fun j r hmem => ?_,hs.replies,?_,hs.once⟩
  · rcases List.mem_append.mp hmem with hmem | hmem
    · exact hs.creates j r bs hmem
    · exact hcreate j r bs (List.mem_singleton.mp hmem).symm
  · rcases List.mem_append.mp hmem with hmem | hmem
    · exact hs.unrefs j r hmem
    · exact hunref j r (List.mem_singleton.mp hmem).symm
  · refine List.pairwise_append.mpr ⟨hs.order,List.pairwise_singleton _ _,fun a ha b hb j r haj hbj => ?_⟩
    obtain rfl := List.mem_singleton.mp hb
    exact hlast r (by rw [hbj, ← haj]; exact ha)

/-- The host takes the first command off the queue. -/
theorem pop (hs : s.Owned B p₀) {cmd : CtrlCmd} {rest : List CtrlCmd} (head : s.ctrlq = cmd::rest) :
    ({ s with ctrlq := rest } : BlobDev σ β).Owned B p₀ := by
  have hsub : ∀ c ∈ rest, c ∈ s.ctrlq := fun c hc => head ▸ List.mem_cons_of_mem _ hc
  exact ⟨hs.safe,hs.ok,fun j r bs hmem => hs.creates j r bs (hsub _ hmem),hs.holds,
    fun j r hmem => hs.unrefs j r (hsub _ hmem),hs.replies,(head ▸ hs.order).of_cons,hs.once⟩

/-- The host holds only memory that objects back. -/
theorem of_holds (hs : s.Owned B p₀) {holds : List HostHold}
    (hback : ∀ h ∈ holds, ∃ o : VramObject, s.objects[h.obj]? = some o ∧ o.Backs h.resId h.blocks) :
    ({ s with holds := holds } : BlobDev σ β).Owned B p₀ :=
  ⟨hs.safe,hs.ok,hs.creates,hback,hs.unrefs,hs.replies,hs.order,hs.once⟩

/-- A response is sent; to an UNREF only once. -/
theorem pushReply (hs : s.Owned B p₀) {cmd : CtrlCmd} {type : ℕ}
    (hunref : ∀ j r, cmd = .resourceUnref j r → (∃ o : VramObject, s.objects[j]? = some o ∧
      o.phase = .unrefQueued ∧ o.answer = some type) ∧
      ∀ r' type', (.resourceUnref j r',type') ∉ s.replies) :
    ({ s with replies := s.replies ++ [(cmd,type)] } : BlobDev σ β).Owned B p₀ := by
  refine ⟨hs.safe,hs.ok,hs.creates,hs.holds,hs.unrefs,fun j r t hmem => ?_,hs.order,?_⟩
  · rcases List.mem_append.mp hmem with hmem | hmem
    · exact hs.replies j r t hmem
    · obtain ⟨hc,rfl⟩ := Prod.ext_iff.mp (List.mem_singleton.mp hmem)
      exact (hunref j r hc.symm).1
  · refine List.pairwise_append.mpr ⟨hs.once,List.pairwise_singleton _ _,?_⟩
    rintro ⟨a,t⟩ ha b hb j r r' rfl hbj
    obtain rfl := List.mem_singleton.mp hb
    exact (hunref j r' hbj).2 r t ha

/-- A response is seen. -/
theorem of_replies (hs : s.Owned B p₀) {replies : List (CtrlCmd × ℕ)}
    (hsub : replies.Sublist s.replies) :
    ({ s with replies := replies } : BlobDev σ β).Owned B p₀ :=
  ⟨hs.safe,hs.ok,hs.creates,hs.holds,hs.unrefs,
    fun j r t hmem => hs.replies j r t (hsub.subset hmem),hs.order,hs.once.sublist hsub⟩

/-- No UNREF of an object is queued or answered before its last reference is dropped. -/
theorem no_unref (hs : s.Owned B p₀) (at_i : s.objects[i]? = some o) (phase : o.phase ≠ .unrefQueued) :
    (∀ r, .resourceUnref i r ∉ s.ctrlq) ∧ ∀ r type, (.resourceUnref i r,type) ∉ s.replies := by
  refine ⟨fun r hmem => ?_,fun r type hmem => ?_⟩
  · obtain ⟨a,ha,hp,-⟩ := hs.unrefs i r hmem
    exact phase (Option.some.inj (at_i.symm.trans ha) ▸ hp)
  · obtain ⟨a,ha,hp,-⟩ := hs.replies i r type hmem
    exact phase (Option.some.inj (at_i.symm.trans ha) ▸ hp)

lemma createBegin (hB : B.Sound) (hs : s.Owned B p₀) (maxNents : ℤ) (size : ℕ) :
    (s.createBegin H B maxNents size).Owned B p₀ := by
  have hsafe := hs.safe.outcome hB (PoolClient.alloc_outcome (H := H) hB maxNents
    (align size PAGE_SIZE) ⟨s.guest,s.objects.map VramObject.blocks⟩)
  simp only [PoolClient.alloc] at hsafe
  simp only [BlobDev.createBegin]
  split_ifs at hsafe ⊢ with h
  · have hold : ∀ {j : ℕ} {P : VramObject → Prop},
        (∃ a, s.objects[j]? = some a ∧ P a) → ∀ new, ∃ a, (s.objects ++ [new])[j]? = some a ∧ P a := by
      rintro j P ⟨a,hj,hP⟩ new
      obtain ⟨hlt,-⟩ := List.getElem?_eq_some_iff.mp hj
      exact ⟨a,by rwa [List.getElem?_append_left hlt],hP⟩
    refine ⟨hsafe.of_held ?_,fun j a hj => ?_,fun j r bs hmem => hold (hs.creates j r bs hmem) _,
      fun k hmem => hold (hs.holds k hmem) _,fun j r hmem => hold (hs.unrefs j r hmem) _,
      fun j r type hmem => hold (hs.replies j r type hmem) _,hs.order,hs.once⟩
    · simp only [List.map_append, List.map_cons, List.map_nil]
      exact (List.perm_append_singleton _ _).symm.flatten
    · rw [List.getElem?_append] at hj
      split_ifs at hj with hlt
      · exact hs.ok j a hj
      · obtain rfl := List.mem_singleton.mp (List.mem_of_getElem? hj)
        exact .creating
  · exact hs.of_guest hsafe

lemma createAbort (hB : B.Sound) (hs : s.Owned B p₀) (at_i : s.objects[i]? = some o)
    (phase : o.phase = .creating) : (s.createAbort H B i o).Owned B p₀ := by
  obtain ⟨hunref,hreply⟩ := hs.no_unref at_i (by simp [phase])
  have hok := hs.ok i o at_i
  cases hok with
  | creating => exact hs.giveBack hB at_i .failed rfl hunref hreply
  | _ => cases phase

lemma createCommit (hs : s.Owned B p₀) (at_i : s.objects[i]? = some o)
    (phase : o.phase = .creating) (resId : ℕ) (tableOk addOk : Bool) :
    (s.createCommit i o resId tableOk addOk).Owned B p₀ := by
  obtain ⟨hunref,hreply⟩ := hs.no_unref at_i (by simp [phase])
  have hok := hs.ok i o at_i
  cases hok with
  | @creating blocks =>
    have hset : ∀ sent, ({ s with
        objects := s.objects.set i ⟨blocks,true,resId,.live,sent,false,none,[]⟩ } :
        BlobDev σ β).Owned B p₀ := fun sent =>
      hs.relabel at_i rfl .live (fun _ _ _ hb => absurd hb.sent (by simp)) hunref hreply
    obtain ⟨hlt,-⟩ := List.getElem?_eq_some_iff.mp at_i
    have hout := queueCtrlBuffer_outcome s (.createBlob i resId blocks) tableOk addOk
    simp only [BlobDev.createCommit]
    generalize s.queueCtrlBuffer (.createBlob i resId blocks) tableOk addOk = q at hout ⊢
    cases hout with
    | refused | lost => exact hset _
    | queued =>
      refine (hset true).push ?_ (fun _ _ h => by cases h) hunref
      rintro j r bs ⟨⟩
      exact ⟨_,List.getElem?_set_self hlt,rfl,rfl,fun _ => rfl,fun _ h => by cases h⟩
  | _ => cases phase

lemma vramFree (hB : B.Sound) (hs : s.Owned B p₀) (at_i : s.objects[i]? = some o)
    (phase : o.phase = .live) (addOk : Bool) : (s.vramFree H B i o addOk).Owned B p₀ := by
  obtain ⟨hunref,hreply⟩ := hs.no_unref at_i (by simp [phase])
  have hok := hs.ok i o at_i
  cases hok with
  | @live blocks resId sent =>
    obtain ⟨hlt,-⟩ := List.getElem?_eq_some_iff.mp at_i
    have hset := hs.relabel at_i (a := ⟨blocks,true,resId,.unrefQueued,sent,true,none,[]⟩) rfl
      .unrefQueued (fun _ _ _ hb => ⟨hb.sent,hb.resId_eq,hb.blocks_eq,hb.held⟩) hunref hreply
    have hout := queueCtrlBuffer_outcome s (.resourceUnref i resId) true addOk
    simp only [BlobDev.vramFree, BlobDev.cmdUnrefResource]
    generalize s.queueCtrlBuffer (.resourceUnref i resId) true addOk = q at hout ⊢
    cases hout with
    | refused neg cause =>
      rw [if_pos neg]
      exact hs.giveBack hB at_i (.notQueued (by simpa using cause)) rfl hunref hreply
    | lost => exact hset
    | queued =>
      refine hset.push (fun _ _ _ h => by cases h) ?_ hunref
      rintro j r ⟨⟩
      exact ⟨_,List.getElem?_set_self hlt,rfl,rfl,rfl⟩
  | _ => cases phase

lemma hostCreate (hs : s.Owned B p₀) {resId type : ℕ} {entries : List Block} {rest : List CtrlCmd}
    {holds : List HostHold} (head : s.ctrlq = .createBlob i resId entries::rest)
    (sub : ∀ h ∈ holds, h = ⟨i,resId,entries⟩ ∨ h ∈ s.holds) :
    ({ s with
      ctrlq := rest
      replies := s.replies ++ [(.createBlob i resId entries,type)]
      holds := holds } : BlobDev σ β).Owned B p₀ := by
  have hback := hs.creates i resId entries (head ▸ List.mem_cons_self)
  refine ((hs.pop head).of_holds (fun h hmem => ?_)).pushReply (fun _ _ h => by cases h)
  rcases sub h hmem with rfl | hmem
  · exact hback
  · exact hs.holds h hmem

lemma hostUnref (hs : s.Owned B p₀) {resId type : ℕ} {rest : List CtrlCmd} {holds : List HostHold}
    (head : s.ctrlq = .resourceUnref i resId::rest) (at_i : s.objects[i]? = some o)
    (sub : ∀ h ∈ holds, h ∈ s.holds)
    (dropped : ConfirmsUnref type → ∀ h ∈ holds, h.resId ≠ resId) :
    ({ s with
      ctrlq := rest
      replies := s.replies ++ [(.resourceUnref i resId,type)]
      objects := s.objects.set i { o with answer := some type }
      holds := holds } : BlobDev σ β).Owned B p₀ := by
  obtain ⟨a,ha,hphase,hans,hres⟩ := hs.unrefs i resId (head ▸ List.mem_cons_self)
  obtain rfl : o = a := Option.some.inj (at_i.symm.trans ha)
  have hnext : ∀ cmd ∈ rest, cmd.obj ≠ i := fun cmd hmem => by
    have horder := hs.order
    rw [head, List.pairwise_cons] at horder
    exact horder.1 cmd hmem i resId rfl
  have hreply : ∀ r t, (.resourceUnref i r,t) ∉ s.replies := fun r t hmem => by
    obtain ⟨b,hb,-,hsome⟩ := hs.replies i r t hmem
    obtain rfl : o = b := Option.some.inj (at_i.symm.trans hb)
    simp [hans] at hsome
  have hok : ({ o with answer := some type } : VramObject).Ok s.unplugged := by
    have hok := hs.ok i o at_i
    cases hok with
    | unrefQueued => exact .unrefQueued
    | _ => cases hphase
  obtain ⟨hlt,-⟩ := List.getElem?_eq_some_iff.mp at_i
  -- the blocks that the host still holds keep their object, unless the answer confirms the UNREF
  have hset := ((hs.pop head).of_holds (fun h hmem => hs.holds h (sub h hmem))).relabel at_i
    (a := { o with answer := some type }) rfl hok ?_
    (fun r hmem => hnext _ hmem rfl) hreply
  · refine hset.pushReply ?_
    rintro j r ⟨⟩
    exact ⟨⟨_,List.getElem?_set_self hlt,hphase,rfl⟩,hreply⟩
  · rintro r bs (hmem | hmem) hb
    · exact absurd rfl (hnext _ hmem)
    · refine ⟨hb.sent,hb.resId_eq,hb.blocks_eq,fun t ht hconf => ?_⟩
      obtain rfl := Option.some.inj ht
      exact dropped hconf _ hmem (hb.resId_eq.symm.trans hres)

lemma cmdUnrefCb (hB : B.Sound) (hs : s.Owned B p₀) {resId type : ℕ}
    {before after : List (CtrlCmd × ℕ)}
    (seen : s.replies = before ++ (.resourceUnref i resId,type)::after)
    (at_i : s.objects[i]? = some o) :
    (({ s with replies := before ++ after } : BlobDev σ β).cmdUnrefCb H B i o type).Owned B p₀ := by
  obtain ⟨a,ha,hphase,hans⟩ := hs.replies i resId type (by simp [seen])
  obtain rfl : o = a := Option.some.inj (at_i.symm.trans ha)
  have hsub : (before ++ after).Sublist s.replies := by simp [seen]
  have hunref : ∀ r, .resourceUnref i r ∉ s.ctrlq := fun r hmem => by
    obtain ⟨b,hb,-,hnone,-⟩ := hs.unrefs i r hmem
    obtain rfl : o = b := Option.some.inj (at_i.symm.trans hb)
    simp [hans] at hnone
  have hreply : ∀ r t, (.resourceUnref i r,t) ∉ before ++ after := by
    intro r t hmem
    have honce := hs.once
    rw [seen, List.pairwise_append, List.pairwise_cons] at honce
    obtain ⟨-,⟨hafter,-⟩,hbefore⟩ := honce
    rcases List.mem_append.mp hmem with hmem | hmem
    · exact hbefore _ hmem _ List.mem_cons_self i r resId rfl rfl
    · exact hafter _ hmem i resId r rfl rfl
  have hgone := hs.of_replies hsub
  have hok := hs.ok i o at_i
  cases hok with
  | @unrefQueued blocks resId sent answer =>
    obtain rfl : answer = some type := hans
    simp only [BlobDev.cmdUnrefCb]
    by_cases hconf : ConfirmsUnref type
    · rw [if_pos hconf]
      exact hgone.giveBack hB at_i (.confirmed hconf) rfl hunref hreply
    · rw [if_neg hconf]
      exact hgone.relabel at_i rfl (.kept hconf)
        (fun _ _ _ hb => ⟨hb.sent,hb.resId_eq,hb.blocks_eq,hb.held⟩) hunref hreply
  | _ => cases hphase

lemma unplug (hs : s.Owned B p₀) : ({ s with unplugged := true } : BlobDev σ β).Owned B p₀ := by
  refine ⟨hs.safe,fun j a hj => ?_,hs.creates,hs.holds,hs.unrefs,hs.replies,hs.order,hs.once⟩
  have hok := hs.ok j a hj
  cases hok with
  | creating => exact .creating
  | live => exact .live
  | unrefQueued => exact .unrefQueued
  | kept refused => exact .kept refused
  | failed => exact .failed
  | confirmed confirmed => exact .confirmed confirmed
  | notQueued => exact .notQueued rfl

lemma step (hB : B.Sound) (hs : s.Owned B p₀) {e : BlobEvent} {s' : BlobDev σ β}
    (h : BlobStep H B s e s') : s'.Owned B p₀ := by
  cases h with
  | createBegin plugged => exact hs.createBegin hB _ _
  | createAbort at_i phase => exact hs.createAbort hB at_i phase
  | createCommit at_i phase => exact hs.createCommit at_i phase _ _ _
  | lastPut at_i phase => exact hs.vramFree hB at_i phase _
  | hostCreate head sub => exact hs.hostCreate head sub
  | hostUnref head at_i sub dropped => exact hs.hostUnref head at_i sub dropped
  | responseCreate seen => exact hs.of_replies (by simp [seen])
  | responseUnref seen at_i => exact hs.cmdUnrefCb hB seen at_i
  | reclaimWork => exact hs.of_guest (hs.safe.outcome hB (guestPoolReclaimWork_outcome hB _))
  | unplug => exact hs.unplug

lemma start (hB : B.Sound) {mm : β} (hp : p₀.Accepted) (hmm : B.init p₀.size PAGE_SIZE = (0,mm))
    (host : σ) : (BlobDev.start p₀ mm host).Owned B p₀ := by
  refine ⟨PoolClient.start_safe hB hp hmm host,?_,?_,?_,?_,?_,.nil,.nil⟩
  all_goals simp [BlobDev.start]

end BlobDev.Owned

/-- While the device is plugged, an object of which the host holds memory has not lost its list. -/
theorem VramObject.Ok.returns_nil {resId : ℕ} {bs : List Block} (h : o.Ok false)
    (hb : o.Backs resId bs) : o.returns = [] := by
  cases h with
  | creating | live | unrefQueued | kept => rfl
  | failed => exact absurd hb.sent (by simp)
  | confirmed confirmed => exact absurd confirmed (hb.held _ rfl)
  | notQueued gone => cases gone

namespace BlobDev.Owned

lemma separate (hs : s.Owned B p₀) {j : ℕ} {o' : VramObject} (hi : s.objects[i]? = some o)
    (hj : s.objects[j]? = some o') (hne : i ≠ j) : ∀ b ∈ o.blocks, ∀ b' ∈ o'.blocks, b.Disjoint b' := by
  have hsep : Separate (s.objects.map VramObject.blocks).flatten :=
    hs.safe.guest.separate.perm hs.safe.held
  have hpair : s.objects.Pairwise fun o o' => ∀ b ∈ o.blocks, ∀ b' ∈ o'.blocks, b.Disjoint b' :=
    List.pairwise_map.mp (List.pairwise_flatten.mp hsep).2
  obtain ⟨hli,rfl⟩ := List.getElem?_eq_some_iff.mp hi
  obtain ⟨hlj,rfl⟩ := List.getElem?_eq_some_iff.mp hj
  rcases Nat.lt_or_gt_of_ne hne with h | h
  · exact List.pairwise_iff_getElem.mp hpair i j hli hlj h
  · intro b hb b' hb'
    exact (List.pairwise_iff_getElem.mp hpair j i hlj hli h b' hb' b hb).symm

lemma separate_self (hs : s.Owned B p₀) (ho : o ∈ s.objects) : Separate o.blocks :=
  (List.pairwise_flatten.mp (hs.safe.guest.separate.perm hs.safe.held)).1 _
    (List.mem_map_of_mem ho)

end BlobDev.Owned
end GuestAdditions

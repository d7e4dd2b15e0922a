import GuestAdditions.Resource.Ids

/-! The life of a resource at the host against that of its object in the driver: whatever the order of the
callers, the responses and the work item, no command names a resource that the host does not have, unless a
command for the same id was lost before. -/
namespace GuestAdditions
open Lifetime

namespace ResDev

/-- The references in arrays: on the queue, on their way to be dropped, and lost. -/
def arrays (s : ResDev) : List ℕ :=
  (s.inFlight.flatMap fun v => v.objs.getD []) ++ s.objFreeList.flatten ++ s.lost

/-- The objects with an UNREF in flight. -/
def unrefs (s : ResDev) : List ℕ := s.inFlight.filterMap ResVbuf.unrefCb

/-- What has become of the resource at the host when it has done all commands. -/
def fate (s : ResDev) (k : ℕ) : Option Bool := Lifetime.fate ResCmd.about k s.sent

/-- No command that the resource needs was lost. -/
def Spared (s : ResDev) (k : ℕ) : Prop := ∀ c ∈ s.dropped, c.needs ≠ some k

/-- An object that is referred to has the id. -/
def Live (s : ResDev) (k : ℕ) : Prop := ∃ i, 0 < (s.objects i).refs ∧ (s.objects i).hwResHandle = k

/-- An object that is not cleaned up has the id. -/
def InUse (s : ResDev) (k : ℕ) : Prop :=
  ∃ i, (s.objects i).cleaned = false ∧ (s.objects i).hwResHandle = k

/-- The invariant, where `pend` are the references that the running call is about to drop: each reference is
counted, an object without references has its UNREF in flight until it is cleaned up, ids in use are
different and not free, and the host has the resources of the objects that are referred to. A lost command counts
against its own id only. -/
structure Tracked (s : ResDev) (pend : List ℕ) : Prop where
  counted : ∀ i, (s.objects i).refs = (s.objects i).users+(s.arrays.count i+pend.count i)
  absent : ∀ i, s.count ≤ i → s.objects i = .absent
  alive : ∀ i, 0 < (s.objects i).refs → (s.objects i).created = true ∧ (s.objects i).cleaned = false
  leaving : ∀ i ∈ s.unrefs, (s.objects i).refs = 0 ∧ (s.objects i).cleaned = false
  once : s.unrefs.Nodup
  unplugged : s.unplugged = false → ∀ i, s.Spared (s.objects i).hwResHandle →
    (s.objects i).refs = 0 → (s.objects i).cleaned = false → i ∈ s.unrefs
  apart : ∀ i j, (s.objects i).cleaned = false → (s.objects j).cleaned = false →
    (s.objects i).hwResHandle = (s.objects j).hwResHandle → i = j
  ids : s.ids.Gives s.InUse
  answered : ∀ k, s.Spared k → s.fate k ≠ none
  live : s.unplugged = false → ∀ k, s.Spared k → (s.fate k = some true ↔ s.Live k)

/-- The fields that say how far the object is in its life. -/
structure SameLife (o o' : GemObject) : Prop where
  hwResHandle : o'.hwResHandle = o.hwResHandle
  created : o'.created = o.created
  cleaned : o'.cleaned = o.cleaned
  refs : 0 < o'.refs ↔ 0 < o.refs

lemma SameLife.rfl {o : GemObject} : SameLife o o := ⟨Eq.refl _,Eq.refl _,Eq.refl _,Iff.rfl⟩

/-- Nothing that the invariant is about has changed, but for the references. -/
structure SameLives (s t : ResDev) : Prop where
  ids : t.ids = s.ids
  count : t.count = s.count
  unplugged : t.unplugged = s.unplugged
  unrefs : t.unrefs.Perm s.unrefs
  objects : ∀ i, SameLife (s.objects i) (t.objects i)
  absent : ∀ i, s.count ≤ i → t.objects i = s.objects i
  spared : ∀ k, t.Spared k → s.Spared k
  fate : ∀ k, t.Spared k → t.fate k = s.fate k

variable {s t : ResDev} {pend pend' objs : List ℕ} {i id m : ℕ} {o : GemObject} {v : ResVbuf} {table : Bool}

lemma SameLives.live (h : SameLives s t) (k : ℕ) : t.Live k ↔ s.Live k := by
  constructor
  · rintro ⟨i,hi,hk⟩
    exact ⟨i,(h.objects i).refs.mp hi,(h.objects i).hwResHandle.symm.trans hk⟩
  · rintro ⟨i,hi,hk⟩
    exact ⟨i,(h.objects i).refs.mpr hi,(h.objects i).hwResHandle.trans hk⟩

lemma SameLives.inUse (h : SameLives s t) (k : ℕ) : s.InUse k ↔ t.InUse k := by
  constructor
  · rintro ⟨i,hi,hk⟩
    exact ⟨i,(h.objects i).cleaned.trans hi,(h.objects i).hwResHandle.trans hk⟩
  · rintro ⟨i,hi,hk⟩
    exact ⟨i,(h.objects i).cleaned.symm.trans hi,(h.objects i).hwResHandle.symm.trans hk⟩

lemma Tracked.frame (h : s.Tracked pend) (hst : SameLives s t)
    (hcounted : ∀ i, (t.objects i).refs = (t.objects i).users+(t.arrays.count i+pend'.count i)) :
    t.Tracked pend' := by
  have hzero : ∀ i, (t.objects i).refs = 0 ↔ (s.objects i).refs = 0 := fun i => by
    have hr := (hst.objects i).refs
    omega
  refine ⟨hcounted,fun i hi => ?_,fun i hi => ?_,fun i hi => ?_,?_,fun hp i hk hi hc => ?_,
    fun i j hi hj hij => ?_,?_,fun k hk => ?_,fun hp k hk => ?_⟩
  · rw [hst.count] at hi
    rw [hst.absent i hi,h.absent i hi]
  · rw [(hst.objects i).created,(hst.objects i).cleaned]
    exact h.alive i ((hst.objects i).refs.mp hi)
  · rw [hst.unrefs.mem_iff] at hi
    rw [(hst.objects i).cleaned,hzero]
    exact h.leaving i hi
  · exact hst.unrefs.nodup_iff.mpr h.once
  · rw [hst.unplugged] at hp
    rw [(hst.objects i).cleaned] at hc
    rw [(hst.objects i).hwResHandle] at hk
    rw [hst.unrefs.mem_iff]
    exact h.unplugged hp i (hst.spared _ hk) ((hzero i).mp hi) hc
  · rw [(hst.objects i).cleaned] at hi
    rw [(hst.objects j).cleaned] at hj
    rw [(hst.objects i).hwResHandle,(hst.objects j).hwResHandle] at hij
    exact h.apart i j hi hj hij
  · rw [hst.ids]
    exact h.ids.congr hst.inUse
  · rw [hst.fate k hk]
    exact h.answered k (hst.spared k hk)
  · rw [hst.unplugged] at hp
    rw [hst.fate k hk,hst.live]
    exact h.live hp k (hst.spared k hk)

/-- A write to one object. -/
theorem SameLives.set (ho : SameLife (s.objects i) o) (hi : i < s.count) : SameLives s (s.set i o) := by
  refine ⟨rfl,rfl,rfl,.rfl,fun j => ?_,fun j hj => ?_,fun _ => id,fun _ _ => rfl⟩
  · by_cases hji : j = i
    · subst hji
      simpa only [ResDev.set,Function.update_self] using ho
    · simpa only [ResDev.set,Function.update_of_ne hji] using SameLife.rfl
  · exact Function.update_of_ne (by omega) _ _

lemma SameLives.trans {u : ResDev} (h : SameLives s t) (h' : SameLives t u) : SameLives s u := by
  refine ⟨h'.ids.trans h.ids,h'.count.trans h.count,h'.unplugged.trans h.unplugged,
    h'.unrefs.trans h.unrefs,fun i => ?_,fun i hi => ?_,fun k hk => h.spared k (h'.spared k hk),
    fun k hk => (h'.fate k hk).trans (h.fate k (h'.spared k hk))⟩
  · exact ⟨(h'.objects i).hwResHandle.trans (h.objects i).hwResHandle,
      (h'.objects i).created.trans (h.objects i).created,(h'.objects i).cleaned.trans (h.objects i).cleaned,
      (h'.objects i).refs.trans (h.objects i).refs⟩
  · rw [h'.absent i (by rw [h.count]; exact hi),h.absent i hi]

lemma Tracked.lt_count (h : s.Tracked pend) (hi : 0 < (s.objects i).refs) : i < s.count := by
  by_contra hle
  rw [h.absent i (not_lt.mp hle)] at hi
  exact absurd hi (lt_irrefl 0)

/-- The host has the resource of an object that is referred to, and no resource of any other. -/
theorem Tracked.fate_live (h : s.Tracked pend) (hp : s.unplugged = false) (hi : 0 < (s.objects i).refs)
    (hk : s.Spared (s.objects i).hwResHandle) : s.fate (s.objects i).hwResHandle = some true :=
  (h.live hp _ hk).mpr ⟨i,hi,rfl⟩

lemma Tracked.fate_absent (h : s.Tracked pend) (hp : s.unplugged = false) {k : ℕ} (hk : s.Spared k)
    (hdead : ¬s.Live k) : s.fate k = some false := by
  cases hf : s.fate k with
  | none => exact absurd hf (h.answered k hk)
  | some b =>
    cases b with
    | false => rfl
    | true => exact absurd ((h.live hp k hk).mp hf) hdead

lemma Spared.mono {k : ℕ} {cs : List ResCmd} (ht : t.dropped = s.dropped ++ cs) (h : t.Spared k) :
    s.Spared k := fun c hc => h c (by rw [ht]; exact List.mem_append_left cs hc)

lemma Spared.last {k : ℕ} {cs : List ResCmd} {c : ResCmd} (ht : t.dropped = s.dropped ++ cs)
    (h : t.Spared k) (hc : c ∈ cs) : c.needs ≠ some k := h c (by rw [ht]; exact List.mem_append_right _ hc)

/-- What becomes of a buffer: it is dropped with its array, whether the caller is told or not, or it is sent. -/
theorem queueCtrlBuffer_cases (s : ResDev) (table : Bool) (v : ResVbuf) :
    (∃ ret n cs, (v.cmd ∈ cs ∨ s.unplugged = true ∧ ret < 0) ∧
      (ret < 0 → table = true → s.unplugged = true) ∧ s.queueCtrlBuffer table v =
        (ret,{ s with given := n, lost := s.lost ++ v.objs.getD [], dropped := s.dropped ++ cs })) ∨
    (s.unplugged = false ∧ s.queueCtrlBuffer table v =
      (0,{ s with given := s.given+1, sent := s.sent ++ [v.cmd], inFlight := s.inFlight ++ [v] })) := by
  unfold queueCtrlBuffer
  dsimp only
  split
  · rename_i ht
    refine .inl ⟨_,s.given,[v.cmd],.inl List.mem_cons_self,fun _ ht' => ?_,rfl⟩
    rw [ht] at ht'
    cases ht'
  split
  · rename_i hp
    refine .inl ⟨-ENODEV,s.given,[],.inr ⟨hp,by decide⟩,fun _ _ => hp,?_⟩
    rw [List.append_nil]
  rename_i hp
  split
  · exact .inr ⟨Bool.eq_false_of_not_eq_true hp,rfl⟩
  · exact .inl ⟨_,_,[v.cmd],.inl List.mem_cons_self,fun h0 => absurd h0 (lt_irrefl 0),rfl⟩

lemma queue_objects (s : ResDev) (table : Bool) (v : ResVbuf) :
    (s.queueCtrlBuffer table v).2.objects = s.objects := by
  rcases queueCtrlBuffer_cases s table v with ⟨_,_,_,_,_,hq⟩ | ⟨_,hq⟩ <;> rw [hq]

lemma queue_ids (s : ResDev) (table : Bool) (v : ResVbuf) : (s.queueCtrlBuffer table v).2.ids = s.ids := by
  rcases queueCtrlBuffer_cases s table v with ⟨_,_,_,_,_,hq⟩ | ⟨_,hq⟩ <;> rw [hq]

lemma queue_count (s : ResDev) (table : Bool) (v : ResVbuf) (i : ℕ) :
    (s.queueCtrlBuffer table v).2.arrays.count i = s.arrays.count i+(v.objs.getD []).count i := by
  rcases queueCtrlBuffer_cases s table v with ⟨_,_,_,_,_,hq⟩ | ⟨_,hq⟩
  · rw [hq]
    simp only [arrays,List.count_append]
    omega
  · rw [hq]
    simp only [arrays,List.count_append,List.flatMap_append,List.flatMap_singleton]
    omega

/-- A command that names no resource, or one that the host has. -/
def Plain (s : ResDev) (v : ResVbuf) : Prop :=
  v.unrefCb = none ∧ (v.cmd.about = none ∨ ∃ id, v.cmd.about = some (id,.uses) ∧ s.Live id)

lemma Tracked.fate_plain (h : s.Tracked pend) (hp : s.unplugged = false) (hv : s.Plain v) (k : ℕ)
    (hspared : s.Spared k) : Lifetime.fate ResCmd.about k (s.sent ++ [v.cmd]) = s.fate k := by
  rcases hv.2 with hnone | ⟨id,huse,hlive⟩
  · exact fate_quiet hnone
  · by_cases hk : id = k
    · subst hk
      have hthere := (h.live hp id hspared).mpr hlive
      rw [fate_own huse hthere,hthere]
      rfl
    · exact fate_other huse hk

lemma Tracked.queue_same (h : s.Tracked pend) (hv : s.Plain v) :
    SameLives s (s.queueCtrlBuffer table v).2 := by
  rcases queueCtrlBuffer_cases s table v with ⟨_,_,_,_,_,hq⟩ | ⟨plugged,hq⟩
  · rw [hq]
    exact ⟨rfl,rfl,rfl,.rfl,fun _ => .rfl,fun _ _ => rfl,fun _ => Spared.mono rfl,fun _ _ => rfl⟩
  · rw [hq]
    refine ⟨rfl,rfl,rfl,?_,fun _ => .rfl,fun _ _ => rfl,fun _ => id,h.fate_plain plugged hv⟩
    simp [unrefs,hv.1]

/-- The references of the array go with the buffer. -/
theorem Tracked.queue (h : s.Tracked (v.objs.getD [] ++ pend)) (hv : s.Plain v) :
    (s.queueCtrlBuffer table v).2.Tracked pend := by
  refine h.frame (h.queue_same hv) fun i => ?_
  rw [queue_objects,queue_count,h.counted i,List.count_append]
  omega

lemma Tracked.getRefs (h : s.Tracked pend) (hobjs : ∀ i ∈ objs, 0 < (s.objects i).refs) :
    (s.getRefs objs).Tracked (objs ++ pend) := by
  have hzero : ∀ i, (s.objects i).refs = 0 → objs.count i = 0 := fun i hi => by
    rw [List.count_eq_zero]
    intro hmem
    have hpos := hobjs i hmem
    omega
  refine h.frame ⟨rfl,rfl,rfl,.rfl,fun i => ⟨rfl,rfl,rfl,?_⟩,fun i hi => ?_,fun _ => id,fun _ _ => rfl⟩
    fun i => ?_
  · have hz := hzero i
    simp only [ResDev.getRefs]
    omega
  · have hz := hzero i (by rw [h.absent i hi]; rfl)
    simp [ResDev.getRefs,hz]
  · have hc := h.counted i
    rw [List.count_append]
    simp only [ResDev.getRefs,hc]
    change _ = _+(s.arrays.count i+_)
    omega

lemma Tracked.not_unref (h : s.Tracked pend) (hi : 0 < (s.objects i).refs) : i ∉ s.unrefs := fun hmem =>
  absurd (h.leaving i hmem).1 hi.ne'

/-- One object gets a property that it did not have, and its id with it. -/
theorem exists_given {P : GemObject → Prop} (ht : ∀ j, j ≠ i → t.objects j = s.objects j)
    (hold : ¬P (s.objects i)) (hnew : P (t.objects i)) (k : ℕ) :
    (∃ j, P (t.objects j) ∧ (t.objects j).hwResHandle = k) ↔
      (∃ j, P (s.objects j) ∧ (s.objects j).hwResHandle = k) ∨ k = (t.objects i).hwResHandle := by
  constructor
  · rintro ⟨j,hj,rfl⟩
    by_cases hji : j = i
    · subst hji
      exact .inr rfl
    · rw [ht j hji] at hj ⊢
      exact .inl ⟨j,hj,rfl⟩
  · rintro (⟨j,hj,rfl⟩ | rfl)
    · have hji : j ≠ i := by
        rintro rfl
        exact hold hj
      exact ⟨j,by rwa [ht j hji],by rw [ht j hji]⟩
    · exact ⟨i,hnew,rfl⟩

/-- One object loses a property, of which no other has its id. -/
theorem exists_taken {P : GemObject → Prop} (ht : ∀ j, j ≠ i → t.objects j = s.objects j)
    (hnew : ¬P (t.objects i))
    (hone : ∀ j, P (s.objects j) → (s.objects j).hwResHandle = (s.objects i).hwResHandle → j = i) (k : ℕ) :
    (∃ j, P (t.objects j) ∧ (t.objects j).hwResHandle = k) ↔
      (∃ j, P (s.objects j) ∧ (s.objects j).hwResHandle = k) ∧ k ≠ (s.objects i).hwResHandle := by
  constructor
  · rintro ⟨j,hj,rfl⟩
    have hji : j ≠ i := by
      rintro rfl
      exact hnew hj
    rw [ht j hji] at hj ⊢
    exact ⟨⟨j,hj,rfl⟩,fun heq => hji (hone j hj heq)⟩
  · rintro ⟨⟨j,hj,rfl⟩,hne⟩
    have hji : j ≠ i := by
      rintro rfl
      exact hne rfl
    exact ⟨j,by rwa [ht j hji],by rw [ht j hji]⟩

/-- What the host has after a command that leaves the id as the objects have it, or after none if the device is
gone or a command for the id is lost. -/
theorem Tracked.view (h : s.Tracked pend) {b : Bool} (hplug : t.unplugged = s.unplugged)
    (hspared : ∀ k, t.Spared k → s.Spared k) (hlive : ∀ k, t.Live k ↔ if k = id then b = true else s.Live k)
    (hfate : ((s.unplugged = true ∨ ¬t.Spared id) ∧ ∀ k, t.fate k = s.fate k) ∨
      (s.unplugged = false ∧ ∀ k, t.Spared k → t.fate k = if k = id then some b else s.fate k)) :
    (∀ k, t.Spared k → t.fate k ≠ none) ∧
      (t.unplugged = false → ∀ k, t.Spared k → (t.fate k = some true ↔ t.Live k)) := by
  rcases hfate with ⟨hgone,hf⟩ | ⟨-,hf⟩
  · refine ⟨fun k hk => ?_,fun hp k hk => ?_⟩
    · rw [hf]
      exact h.answered k (hspared k hk)
    · rw [hplug] at hp
      have hne : k ≠ id := by
        rintro rfl
        rw [hp] at hgone
        exact hgone.elim Bool.false_ne_true fun hlost => hlost hk
      rw [hf,hlive,if_neg hne]
      exact h.live hp k (hspared k hk)
  · refine ⟨fun k hk => ?_,fun hp k hk => ?_⟩
    · rw [hf k hk]
      split
      · exact Option.some_ne_none _
      · exact h.answered k (hspared k hk)
    · rw [hplug] at hp
      rw [hf k hk,hlive]
      split
      · rw [Option.some.injEq]
      · exact h.live hp k (hspared k hk)

/-- The last reference goes: nothing follows if the device is gone or a command is lost, and else an UNREF. -/
theorem Tracked.leave (h : s.Tracked (i::pend)) (hone : (s.objects i).refs = 1)
    (hobj : t.objects = Function.update s.objects i { s.objects i with refs := 0 })
    (hids : t.ids = s.ids) (hcount : t.count = s.count) (hplug : t.unplugged = s.unplugged)
    (harr : ∀ j, t.arrays.count j = s.arrays.count j) (hspared : ∀ k, t.Spared k → s.Spared k)
    (hleave : ((s.unplugged = true ∨ ¬t.Spared (s.objects i).hwResHandle) ∧ t.unrefs = s.unrefs ∧
        ∀ k, t.fate k = s.fate k) ∨
      (s.unplugged = false ∧ t.unrefs = s.unrefs ++ [i] ∧ ∀ k, t.Spared k →
        t.fate k = if k = (s.objects i).hwResHandle then some false else s.fate k)) :
    t.Tracked pend := by
  have hpos : 0 < (s.objects i).refs := by omega
  have hlt := h.lt_count hpos
  have hother : ∀ j, j ≠ i → t.objects j = s.objects j := fun j hj => by
    rw [hobj,Function.update_of_ne hj]
  have hself : t.objects i = { s.objects i with refs := 0 } := by rw [hobj,Function.update_self]
  have hlife : ∀ j, (t.objects j).cleaned = (s.objects j).cleaned ∧
      (t.objects j).hwResHandle = (s.objects j).hwResHandle := fun j => by
    by_cases hji : j = i
    · subst hji
      rw [hself]
      exact ⟨rfl,rfl⟩
    · rw [hother j hji]
      exact ⟨rfl,rfl⟩
  have hunrefs : ∀ j, j ∈ t.unrefs → j = i ∨ j ∈ s.unrefs := fun j hj => by
    rcases hleave with ⟨_,hu,_⟩ | ⟨_,hu,_⟩
    · exact .inr (hu ▸ hj)
    · rw [hu,List.mem_append,List.mem_singleton] at hj
      exact hj.symm
  have hlive : ∀ k, t.Live k ↔ if k = (s.objects i).hwResHandle then false = true else s.Live k := fun k => by
    have hiff := exists_taken (P := fun o => 0 < o.refs) hother (by rw [hself]; exact lt_irrefl 0)
      (fun j hj => h.apart j i (h.alive j hj).2 (h.alive i hpos).2) k
    rw [show t.Live k ↔ s.Live k ∧ k ≠ (s.objects i).hwResHandle from hiff]
    split
    · rename_i hk
      simp [hk]
    · rename_i hk
      simp [hk]
  obtain ⟨hanswered,hview⟩ := h.view hplug hspared hlive
    (hleave.imp (fun hl => ⟨hl.1,hl.2.2⟩) fun hl => ⟨hl.1,hl.2.2⟩)
  refine ⟨fun j => ?_,fun j hj => ?_,fun j hj => ?_,fun j hj => ?_,?_,fun hp j hk hj hc => ?_,
    fun j l hj hl hjl => ?_,?_,hanswered,hview⟩
  · have hc := h.counted j
    rw [List.count_cons] at hc
    rw [harr]
    by_cases hji : j = i
    · subst hji
      rw [if_pos (beq_self_eq_true j)] at hc
      rw [hself]
      change 0 = (s.objects j).users+_
      omega
    · rw [if_neg (by simpa using Ne.symm hji)] at hc
      rw [hother j hji,hc]
      rfl
  · rw [hcount] at hj
    rw [hother j (by omega)]
    exact h.absent j hj
  · by_cases hji : j = i
    · subst hji
      rw [hself] at hj
      exact absurd hj (lt_irrefl 0)
    · rw [hother j hji] at hj ⊢
      exact h.alive j hj
  · by_cases hji : j = i
    · subst hji
      rw [hself]
      exact ⟨rfl,(h.alive j hpos).2⟩
    · rw [hother j hji]
      exact h.leaving j ((hunrefs j hj).resolve_left hji)
  · rcases hleave with ⟨_,hu,_⟩ | ⟨_,hu,_⟩
    · rw [hu]
      exact h.once
    · rw [hu,List.nodup_append]
      refine ⟨h.once,List.nodup_singleton i,fun a ha b hb => ?_⟩
      obtain rfl := List.mem_singleton.mp hb
      rintro rfl
      exact h.not_unref hpos ha
  · rw [(hlife j).2] at hk
    rw [hplug] at hp
    rcases hleave with ⟨hgone,hu,_⟩ | ⟨_,hu,_⟩
    · have hji : j ≠ i := by
        rintro rfl
        rw [hp] at hgone
        exact hgone.elim Bool.false_ne_true fun hlost => hlost hk
      rw [hother j hji] at hj hc
      rw [hu]
      exact h.unplugged hp j (hspared _ hk) hj hc
    · rw [hu,List.mem_append,List.mem_singleton]
      by_cases hji : j = i
      · exact .inr hji
      · rw [hother j hji] at hj hc
        exact .inl (h.unplugged hp j (hspared _ hk) hj hc)
  · rw [(hlife j).1] at hj
    rw [(hlife l).1] at hl
    rw [(hlife j).2,(hlife l).2] at hjl
    exact h.apart j l hj hl hjl
  · rw [hids]
    refine h.ids.congr fun k => exists_congr fun j => ?_
    rw [(hlife j).1,(hlife j).2]

/-- The object goes, and its id is free again. -/
theorem Tracked.cleanup (h : s.Tracked pend) (hrefs : (s.objects i).refs = 0)
    (hclean : (s.objects i).cleaned = false)
    (hobj : t.objects = Function.update s.objects i { s.objects i with cleaned := true })
    (hids : t.ids = s.ids.put (s.objects i).hwResHandle) (hcount : t.count = s.count)
    (hplug : t.unplugged = s.unplugged) (harr : ∀ j, t.arrays.count j = s.arrays.count j)
    (hunrefs : ∀ j, j ∈ t.unrefs ↔ j ∈ s.unrefs ∧ j ≠ i) (honce : t.unrefs.Nodup)
    (hspared : ∀ k, t.Spared k → s.Spared k) (hfate : ∀ k, t.fate k = s.fate k) : t.Tracked pend := by
  have hlt : i < s.count := by
    by_contra hle
    rw [h.absent i (not_lt.mp hle)] at hclean
    cases hclean
  have hother : ∀ j, j ≠ i → t.objects j = s.objects j := fun j hj => by
    rw [hobj,Function.update_of_ne hj]
  have hself : t.objects i = { s.objects i with cleaned := true } := by rw [hobj,Function.update_self]
  have hkept : ∀ j, (t.objects j).refs = (s.objects j).refs ∧ (t.objects j).users = (s.objects j).users ∧
      (t.objects j).hwResHandle = (s.objects j).hwResHandle := fun j => by
    by_cases hji : j = i
    · subst hji
      rw [hself]
      exact ⟨rfl,rfl,rfl⟩
    · rw [hother j hji]
      exact ⟨rfl,rfl,rfl⟩
  have hstays : ∀ j, (t.objects j).cleaned = false → j ≠ i ∧ (s.objects j).cleaned = false := fun j hj => by
    by_cases hji : j = i
    · subst hji
      rw [hself] at hj
      cases hj
    · exact ⟨hji,by rwa [hother j hji] at hj⟩
  refine ⟨fun j => ?_,fun j hj => ?_,fun j hj => ?_,fun j hj => ?_,honce,fun hp j hk hj hc => ?_,
    fun j l hj hl hjl => ?_,?_,fun k hk => ?_,fun hp k hk => ?_⟩
  · rw [(hkept j).1,(hkept j).2.1,harr]
    exact h.counted j
  · rw [hcount] at hj
    rw [hother j (by omega)]
    exact h.absent j hj
  · rw [(hkept j).1] at hj
    have hji : j ≠ i := by
      rintro rfl
      omega
    rw [hother j hji]
    exact h.alive j hj
  · obtain ⟨hmem,hji⟩ := (hunrefs j).mp hj
    rw [hother j hji]
    exact h.leaving j hmem
  · obtain ⟨hji,hcs⟩ := hstays j hc
    rw [(hkept j).1] at hj
    rw [(hkept j).2.2] at hk
    rw [hplug] at hp
    exact (hunrefs j).mpr ⟨h.unplugged hp j (hspared _ hk) hj hcs,hji⟩
  · rw [(hkept j).2.2,(hkept l).2.2] at hjl
    exact h.apart j l (hstays j hj).2 (hstays l hl).2 hjl
  · rw [hids]
    refine (h.ids.put ⟨i,hclean,rfl⟩).congr fun k => ?_
    have hiff := exists_taken (P := fun o => o.cleaned = false) hother (by simp [hself])
      (fun j hj => h.apart j i hj hclean) k
    exact hiff.symm
  · rw [hfate]
    exact h.answered k (hspared k hk)
  · rw [hplug] at hp
    rw [hfate,h.live hp k (hspared k hk)]
    exact exists_congr fun j => by rw [(hkept j).1,(hkept j).2.2]

/-- The object without its references. -/
def dropRefs (s : ResDev) (i : ℕ) : ResDev := s.set i { s.objects i with refs := 0 }

@[simp] lemma set_objects_self (s : ResDev) (i : ℕ) (o : GemObject) : (s.set i o).objects i = o :=
  Function.update_self ..

lemma set_set (s : ResDev) (i : ℕ) (o o' : GemObject) : (s.set i o).set i o' = s.set i o' := by
  simp only [set,Function.update_idem]

lemma queue_set (s : ResDev) (table : Bool) (v : ResVbuf) (i : ℕ) (o : GemObject) :
    ((s.set i o).queueCtrlBuffer table v).2 = (s.queueCtrlBuffer table v).2.set i o := by
  unfold queueCtrlBuffer set
  by_cases ht : table = false
  · simp only [ht,if_true]
  by_cases hp : s.unplugged = true
  · simp [ht,hp]
  · cases s.ring s.given <;> simp [ht,hp]

/-- A caller gives up its reference. -/
theorem Tracked.dropUser (h : s.Tracked pend) (hi : 0 < (s.objects i).users) :
    (s.set i { s.objects i with users := (s.objects i).users-1 }).Tracked (i::pend) := by
  have hpos : 0 < (s.objects i).refs := by
    have hc := h.counted i
    omega
  refine h.frame (.set ⟨rfl,rfl,rfl,Iff.rfl⟩ (h.lt_count hpos)) fun j => ?_
  have hj := h.counted j
  by_cases hji : j = i
  · subst hji
    rw [set_objects_self,List.count_cons_self]
    change (s.objects j).refs = (s.objects j).users-1+(s.arrays.count j+_)
    omega
  · rw [List.count_cons_of_ne (Ne.symm hji)]
    simp only [ResDev.set,Function.update_of_ne hji]
    exact hj

/-- A reference that nobody will drop. -/
theorem Tracked.lose (h : s.Tracked (i::pend)) :
    ({ s with lost := s.lost ++ [i] } : ResDev).Tracked pend := by
  refine h.frame ⟨rfl,rfl,rfl,.rfl,fun _ => .rfl,fun _ _ => rfl,fun _ => id,fun _ _ => rfl⟩ fun j => ?_
  have hj := h.counted j
  simp only [arrays,List.count_append,List.count_cons,List.count_nil] at hj ⊢
  omega

/-- It makes no difference to the unmapping whether the references are still there. -/
theorem dmaBufUnmap_dropRefs (s : ResDev) (fenceOk : Bool) (i : ℕ) :
    (s.dropRefs i).dmaBufUnmap fenceOk i =
      ((s.dmaBufUnmap fenceOk i).1,(s.dmaBufUnmap fenceOk i).2.dropRefs i) := by
  unfold dmaBufUnmap dropRefs
  have hwait : ∀ o, (s.set i o).waitEnds = s.waitEnds := fun _ => rfl
  simp only [set_objects_self,queue_set,set_set,hwait]
  split_ifs <;> simp [set_set]

/-- The flags of the backing change. -/
theorem Tracked.flags (h : s.Tracked pend) (hi : 0 < (s.objects i).refs) (attached sgt : Bool) :
    SameLives s (s.set i { s.objects i with attached := attached, sgt := sgt }) ∧
      (s.set i { s.objects i with attached := attached, sgt := sgt }).Tracked pend := by
  have hsame : SameLives s (s.set i { s.objects i with attached := attached, sgt := sgt }) :=
    .set ⟨rfl,rfl,rfl,Iff.rfl⟩ (h.lt_count hi)
  refine ⟨hsame,h.frame hsame fun j => ?_⟩
  by_cases hji : j = i
  · subst hji
    rw [set_objects_self]
    exact h.counted j
  · simp only [ResDev.set,Function.update_of_ne hji]
    exact h.counted j

/-- The flags of the backing change, and a command goes to the host. -/
theorem Tracked.sendFlags (h : s.Tracked pend) (hi : 0 < (s.objects i).refs) (table attached sgt : Bool)
    (hcmd : v.cmd.about = some ((s.objects i).hwResHandle,.uses)) (hcb : v.unrefCb = none) (hobjs : v.objs = none) :
    SameLives s
        ((s.set i { s.objects i with attached := attached, sgt := sgt }).queueCtrlBuffer table v).2 ∧
      ((s.set i { s.objects i with attached := attached, sgt := sgt }).queueCtrlBuffer table v).2.Tracked pend := by
  obtain ⟨hsame,ht⟩ := h.flags hi attached sgt
  have hplain : (s.set i { s.objects i with attached := attached, sgt := sgt }).Plain v :=
    ⟨hcb,.inr ⟨_,hcmd,(hsame.live _).mpr ⟨i,hi,rfl⟩⟩⟩
  exact ⟨hsame.trans (ht.queue_same hplain),Tracked.queue (by rw [hobjs]; exact ht) hplain⟩

/-- A wait without an end is for a device that is gone, or for a command that is lost. -/
theorem waitEnds_false (hwait : s.waitEnds = false) (id : ℕ) : s.unplugged = true ∨
    ¬(s.queueCtrlBuffer true ⟨.detachBacking id,none,none⟩).2.Spared id := by
  cases hp : s.unplugged with
  | true => exact .inl rfl
  | false =>
    have hr : s.ring s.given = .refuses false := by simpa [waitEnds,hp] using hwait
    refine .inr fun hspared => hspared (.detachBacking id) ?_ rfl
    simp [queueCtrlBuffer,hp,hr]

lemma Tracked.dmaBufUnmap (h : s.Tracked pend) (hi : 0 < (s.objects i).refs) (fenceOk : Bool) :
    SameLives s (s.dmaBufUnmap fenceOk i).2 ∧ (s.dmaBufUnmap fenceOk i).2.Tracked pend ∧
      ((s.dmaBufUnmap fenceOk i).2.objects i).refs = (s.objects i).refs ∧
      ((s.dmaBufUnmap fenceOk i).1 = false →
        s.unplugged = true ∨ ¬(s.dmaBufUnmap fenceOk i).2.Spared (s.objects i).hwResHandle) := by
  have hrefs : ∀ (u : ResDev) (o : GemObject), o.refs = (s.objects i).refs →
      ((u.set i o).objects i).refs = (s.objects i).refs := fun u o ho => by rw [set_objects_self,ho]
  have hsend := fun attached sgt =>
    h.sendFlags (v := ⟨.detachBacking (s.objects i).hwResHandle,none,none⟩) hi true attached sgt rfl rfl rfl
  unfold ResDev.dmaBufUnmap
  dsimp only
  split
  · exact ⟨⟨rfl,rfl,rfl,.rfl,fun _ => .rfl,fun _ _ => rfl,fun _ => id,fun _ _ => rfl⟩,h,rfl,
      fun hf => by cases hf⟩
  split
  · have hs := h.flags hi (s.objects i).attached false
    exact ⟨hs.1,hs.2,hrefs _ _ rfl,fun hf => by cases hf⟩
  split
  · rw [← queue_set]
    have hs := hsend false false
    exact ⟨hs.1,hs.2,by rw [queue_objects]; exact hrefs _ _ rfl,fun hf => by cases hf⟩
  · rename_i hwait
    have hlost := waitEnds_false (Bool.eq_false_of_not_eq_true hwait) (s.objects i).hwResHandle
    rw [← queue_set]
    have hs := hsend false (s.objects i).sgt
    refine ⟨hs.1,hs.2,by rw [queue_objects]; exact hrefs _ _ rfl,fun _ => ?_⟩
    rw [queue_set]
    exact hlost

lemma Tracked.prepareImportedObj (h : s.Tracked pend) (hi : 0 < (s.objects i).refs) (importSgt : ℤ)
    (table : Bool) : (s.prepareImportedObj i importSgt table).Tracked pend := by
  unfold ResDev.prepareImportedObj
  dsimp only
  split
  · exact h
  split
  · exact h
  split
  · rename_i hattached
    have hflags := (h.flags hi (s.objects i).attached true).2
    exact hflags
  · exact (h.sendFlags (v := ⟨.attachBacking (s.objects i).hwResHandle,none,none⟩) hi _ true true rfl rfl rfl).2

/-- The UNREF for an object without references, or its end where there is no device. -/
theorem Tracked.cmdUnref (h : s.Tracked (i::pend)) (hone : (s.objects i).refs = 1) :
    ((s.dropRefs i).cmdUnrefResource i).Tracked pend := by
  have hpos : 0 < (s.objects i).refs := by omega
  have hobj : (s.dropRefs i).objects = Function.update s.objects i { s.objects i with refs := 0 } := rfl
  have hid : ((s.dropRefs i).objects i).hwResHandle = (s.objects i).hwResHandle := by
    rw [dropRefs,set_objects_self]
  unfold cmdUnrefResource
  rw [hid]
  rcases queueCtrlBuffer_cases (s.dropRefs i) true ⟨.unref (s.objects i).hwResHandle,none,some i⟩ with
    ⟨ret,n,cs,hlost,hgone,hq⟩ | ⟨hplugged,hq⟩
  · rw [hq]
    dsimp only
    rw [Option.getD_none,List.append_nil]
    have hspared : ∀ k, ({ s.dropRefs i with given := n, dropped := s.dropped ++ cs } : ResDev).Spared k →
        s.Spared k := fun _ => Spared.mono rfl
    have hstuck : s.unplugged = true ∨ ¬({ s.dropRefs i with
        given := n, dropped := s.dropped ++ cs } : ResDev).Spared (s.objects i).hwResHandle :=
      hlost.symm.imp And.left fun hmem hk => Spared.last (s := s) rfl hk hmem rfl
    have hleft : ({ s.dropRefs i with given := n, dropped := s.dropped ++ cs } : ResDev).Tracked pend :=
      h.leave hone hobj rfl rfl rfl (fun _ => rfl) hspared (.inl ⟨hstuck,rfl,fun _ => rfl⟩)
    split
    · have hnot := h.not_unref hpos
      exact hleft.cleanup (i := i) (by rw [hobj,Function.update_self])
        (by rw [hobj,Function.update_self]; exact (h.alive i hpos).2) rfl rfl rfl rfl (fun _ => rfl)
        (fun j => ⟨fun hj => ⟨hj,fun hji => hnot (hji ▸ hj)⟩,fun hj => hj.1⟩) h.once (fun _ => id) fun _ => rfl
    · exact hleft
  · rw [hq]
    simp only [lt_irrefl,if_false]
    refine h.leave hone hobj rfl rfl rfl (fun j => ?_) (fun _ => id) (.inr ⟨hplugged,?_,fun k hspared => ?_⟩)
    · simp [arrays,dropRefs,set]
    · simp [unrefs,dropRefs,set]
    · have habout : ResCmd.about (.unref (s.objects i).hwResHandle) =
          some ((s.objects i).hwResHandle,.destroys) := rfl
      change Lifetime.fate ResCmd.about k (s.sent ++ [.unref (s.objects i).hwResHandle]) = _
      split
      · rename_i hk
        subst hk
        rw [fate_own habout (h.fate_live hplugged hpos hspared)]
        rfl
      · rename_i hk
        exact fate_other habout (Ne.symm hk)

lemma Tracked.putRef (h : s.Tracked (i::pend)) (fenceOk : ℕ → Bool) :
    (ResDev.putRef fenceOk s i).Tracked pend := by
  have hcount := h.counted i
  rw [List.count_cons_self] at hcount
  have hpos : 0 < (s.objects i).refs := by omega
  unfold ResDev.putRef
  dsimp only
  split
  · rename_i hone
    have hcreated : ((s.dropRefs i).objects i).created = true := by
      rw [dropRefs,set_objects_self]
      exact (h.alive i hpos).1
    have hdrop : s.set i { s.objects i with refs := (s.objects i).refs-1 } = s.dropRefs i := by
      rw [hone]
      rfl
    rw [hdrop]
    unfold freeObject
    rw [dmaBufUnmap_dropRefs,hcreated]
    split
    · -- an import is unmapped first
      obtain ⟨hsame,hu,hrefs,hstuck⟩ := h.dmaBufUnmap hpos (fenceOk i)
      rw [hone] at hrefs
      dsimp only
      split
      · rename_i hflag
        have hlost := hstuck hflag
        rw [← hsame.unplugged,← (hsame.objects i).hwResHandle] at hlost
        exact hu.leave hrefs rfl rfl rfl rfl (fun _ => rfl) (fun _ => id) (.inl ⟨hlost,rfl,fun _ => rfl⟩)
      · exact hu.cmdUnref hrefs
    · exact h.cmdUnref hone
  · rename_i hmany
    refine h.frame (.set ⟨rfl,rfl,rfl,?_⟩ (h.lt_count hpos)) fun j => ?_
    · change 0 < (s.objects i).refs-1 ↔ _
      omega
    · by_cases hji : j = i
      · subst hji
        rw [set_objects_self]
        change (s.objects j).refs-1 = (s.objects j).users+(s.arrays.count j+_)
        omega
      · have hj := h.counted j
        rw [List.count_cons_of_ne (Ne.symm hji)] at hj
        simp only [ResDev.set,Function.update_of_ne hji]
        exact hj

lemma Tracked.putRefs (h : s.Tracked (objs ++ pend)) (fenceOk : ℕ → Bool) :
    (ResDev.putRefs fenceOk s objs).Tracked pend := by
  induction objs generalizing s with
  | nil => exact h
  | cons i objs ih => exact ih (h.putRef fenceOk)

lemma dmaBufUnmap_ids (s : ResDev) (fenceOk : Bool) (i : ℕ) : (s.dmaBufUnmap fenceOk i).2.ids = s.ids := by
  unfold dmaBufUnmap
  dsimp only
  split_ifs
  · rfl
  · rfl
  · exact queue_ids ..
  · exact queue_ids ..

lemma cmdUnrefResource_lasts (h : s.ids.Lasts m) (i : ℕ) : (s.cmdUnrefResource i).ids.Lasts m := by
  unfold cmdUnrefResource
  dsimp only
  split
  · rw [cleanupObject,queue_ids]
    exact h.put
  · rwa [queue_ids]

lemma freeObject_lasts (h : s.ids.Lasts m) (fenceOk : Bool) (i : ℕ) :
    (s.freeObject fenceOk i).ids.Lasts m := by
  have hunmap : (if (s.objects i).imported then s.dmaBufUnmap fenceOk i else (true,s)).2.ids.Lasts m := by
    split
    · rwa [dmaBufUnmap_ids]
    · exact h
  unfold freeObject
  generalize (if (s.objects i).imported then s.dmaBufUnmap fenceOk i else (true,s)) = r at hunmap ⊢
  dsimp only
  split
  · exact hunmap
  split
  · exact cmdUnrefResource_lasts hunmap i
  · exact hunmap.put

lemma putRef_lasts (h : s.ids.Lasts m) (fenceOk : ℕ → Bool) (i : ℕ) :
    (putRef fenceOk s i).ids.Lasts m := by
  unfold putRef
  dsimp only
  split
  · exact freeObject_lasts (s := s.set i _) h _ i
  · exact h

lemma putRefs_lasts (h : s.ids.Lasts m) (fenceOk : ℕ → Bool) (objs : List ℕ) :
    (putRefs fenceOk s objs).ids.Lasts m := by
  induction objs generalizing s with
  | nil => exact h
  | cons i objs ih => exact ih (putRef_lasts h fenceOk i)

end ResDev
end GuestAdditions

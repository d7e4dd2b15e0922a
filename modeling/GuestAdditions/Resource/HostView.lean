import GuestAdditions.Resource.Create
import GuestAdditions.Library.Transition

/-! The resources as the host sees them: over any run, the commands for each id are a creation, uses and an
UNREF, again and again, and the resources that the host has are those of the objects in use. -/
namespace GuestAdditions
open Lifetime

/-- The calls that ask for an id. -/
def ResEvent.asksId : ResEvent → Bool
  | .create _ | .primeImport _ => true
  | _ => false

namespace ResDev
variable {s t : ResDev} {pend objs : List ℕ} {i n m : ℕ} {v : ResVbuf} {e : ResEvent} {es : List ResEvent}

lemma prepareImportedObj_ids (s : ResDev) (i : ℕ) (importSgt : ℤ) (table : Bool) :
    (s.prepareImportedObj i importSgt table).ids = s.ids := by
  unfold prepareImportedObj
  dsimp only
  split_ifs
  · rfl
  · rfl
  · rfl
  · exact queue_ids ..

lemma Tracked.refs_pos (h : s.Tracked pend) (hi : (s.objects i).users ≠ 0) : 0 < (s.objects i).refs := by
  have hc := h.counted i
  omega

lemma Tracked.get (h : s.Tracked pend) (hi : (s.objects i).users ≠ 0) :
    (s.set i { s.objects i with refs := (s.objects i).refs+1, users := (s.objects i).users+1 }).Tracked pend := by
  have hpos := h.refs_pos hi
  refine h.frame (.set ⟨rfl,rfl,rfl,⟨fun _ => hpos,fun _ => Nat.succ_pos _⟩⟩ (h.lt_count hpos)) fun j => ?_
  have hj := h.counted j
  by_cases hji : j = i
  · subst hji
    rw [set_objects_self]
    change (s.objects j).refs+1 = (s.objects j).users+1+(s.arrays.count j+_)
    omega
  · simp only [ResDev.set,Function.update_of_ne hji]
    exact hj

lemma Tracked.command (h : s.Tracked []) (hi : (s.objects i).users ≠ 0) (u : ResUse) (array : Bool) :
    (s.command i u array).Tracked [] := by
  have hpos := h.refs_pos hi
  unfold ResDev.command
  dsimp only
  split
  · have hget : (s.getRefs [i]).Tracked ([i] ++ []) := h.getRefs (by simpa using hpos)
    exact hget.queue ⟨rfl,.inr ⟨_,rfl,i,Nat.lt_add_right _ hpos,rfl⟩⟩
  · exact h.queue ⟨rfl,.inr ⟨_,rfl,i,hpos,rfl⟩⟩

lemma Tracked.submit (h : s.Tracked []) (hobjs : ¬∃ i ∈ objs, (s.objects i).users = 0) (table : Bool) :
    ((s.getRefs objs).queueCtrlBuffer table ⟨.submit3d,some objs,none⟩).2.Tracked [] := by
  have hget := h.getRefs fun i hi => h.refs_pos fun hzero => hobjs ⟨i,hi,hzero⟩
  exact hget.queue ⟨rfl,.inl rfl⟩

/-- The buffer goes, and its array waits for the work item. -/
theorem respond_count (hv : s.inFlight[n]? = some v) (i : ℕ) :
    ({ s with inFlight := s.inFlight.eraseIdx n, objFreeList := s.objFreeList ++ v.objs.toList } :
      ResDev).arrays.count i = s.arrays.count i := by
  obtain ⟨hn,rfl⟩ := List.getElem?_eq_some_iff.mp hv
  have hperm := ((List.getElem_cons_eraseIdx_perm hn).flatMap_right fun w => w.objs.getD []).count_eq i
  have harray : s.inFlight[n].objs.toList.flatten = s.inFlight[n].objs.getD [] := by
    cases s.inFlight[n].objs <;> simp
  simp only [arrays,List.flatMap_cons,List.flatten_append,List.count_append,harray] at hperm ⊢
  omega

/-- A buffer without the callback is no UNREF. -/
theorem respond_unrefs (hv : s.inFlight[n]? = some v) :
    s.unrefs.Perm (v.unrefCb.toList ++ (s.inFlight.eraseIdx n).filterMap ResVbuf.unrefCb) := by
  obtain ⟨hn,rfl⟩ := List.getElem?_eq_some_iff.mp hv
  have hperm := ((List.getElem_cons_eraseIdx_perm hn).filterMap ResVbuf.unrefCb).symm
  rw [List.filterMap_cons] at hperm
  cases hcb : s.inFlight[n].unrefCb with
  | none => simpa [unrefs,hcb] using hperm
  | some i => simpa [unrefs,hcb] using hperm

/-- The callback of an UNREF cleans its object up. -/
theorem Tracked.respond (h : s.Tracked pend) (ht : s.respond n = some t) : t.Tracked pend := by
  unfold ResDev.respond at ht
  split at ht
  · cases ht
  rename_i v hv
  have hunrefs := respond_unrefs hv
  cases hcb : v.unrefCb with
  | none =>
    rw [hcb] at ht hunrefs
    obtain rfl := Option.some.inj ht
    refine h.frame ⟨rfl,rfl,rfl,hunrefs.symm,fun _ => .rfl,fun _ _ => rfl,fun _ => id,fun _ _ => rfl⟩
      fun j => ?_
    exact (h.counted j).trans (by rw [respond_count hv])
  | some i =>
    rw [hcb] at ht hunrefs
    obtain rfl := Option.some.inj ht
    have hmem : i ∈ s.unrefs := hunrefs.mem_iff.mpr (by simp)
    have honce := hunrefs.nodup_iff.mp h.once
    rw [Option.toList_some,List.singleton_append,List.nodup_cons] at honce
    obtain ⟨hrefs,hclean⟩ := h.leaving i hmem
    refine h.cleanup hrefs hclean rfl rfl rfl rfl (respond_count hv) (fun j => ?_) honce.2 (fun _ => id)
      fun _ => rfl
    rw [hunrefs.mem_iff,Option.toList_some,List.singleton_append,List.mem_cons]
    constructor
    · intro hj
      exact ⟨.inr hj,fun hji => honce.1 (hji ▸ hj)⟩
    · rintro ⟨hj | hj,hji⟩
      · exact absurd hj hji
      · exact hj

lemma Tracked.work (h : s.Tracked []) {rest : List (List ℕ)} (hlist : s.objFreeList = objs::rest)
    (fenceOk : ℕ → Bool) : (ResDev.putRefs fenceOk { s with objFreeList := rest } objs).Tracked [] := by
  have hpend : ({ s with objFreeList := rest } : ResDev).Tracked (objs ++ []) := by
    refine h.frame ⟨rfl,rfl,rfl,.rfl,fun _ => .rfl,fun _ _ => rfl,fun _ => id,fun _ _ => rfl⟩ fun j => ?_
    have hj := h.counted j
    simp only [arrays,hlist,List.flatten_cons,List.count_append,List.count_nil] at hj ⊢
    omega
  exact hpend.putRefs fenceOk

/-- What follows from the device being there is lost with it, and nothing else. -/
theorem Tracked.unplug (h : s.Tracked pend) : ({ s with unplugged := true } : ResDev).Tracked pend := by
  refine ⟨h.counted,h.absent,h.alive,h.leaving,h.once,fun hp => ?_,h.apart,h.ids,h.answered,fun hp => ?_⟩
  · cases hp
  · cases hp

lemma respond_lasts (h : s.ids.Lasts m) (ht : s.respond n = some t) : t.ids.Lasts m := by
  unfold ResDev.respond at ht
  split at ht
  · cases ht
  rename_i v hv
  obtain rfl := Option.some.inj ht
  cases v.unrefCb with
  | none => exact h
  | some i => exact h.put

lemma Tracked.step (h : s.Tracked []) (hlasts : s.ids.Lasts (m+e.asksId.toNat))
    (ht : s.step e = some t) : t.Tracked [] ∧ t.ids.Lasts m := by
  have hless : s.ids.Lasts m := hlasts.mono (Nat.le_add_right m _)
  cases e with
  | create c =>
    obtain rfl := Option.some.inj ht
    exact h.gemCreate hlasts c
  | primeImport c =>
    obtain rfl := Option.some.inj ht
    exact h.gemPrimeImport hlasts c
  | get i =>
    simp only [ResDev.step,Option.ite_none_left_eq_some,Option.some.injEq] at ht
    obtain ⟨hi,rfl⟩ := ht
    exact ⟨h.get hi,hless⟩
  | put i fenceOk =>
    simp only [ResDev.step,Option.ite_none_left_eq_some,Option.some.injEq] at ht
    obtain ⟨hi,rfl⟩ := ht
    exact ⟨(h.dropUser (Nat.pos_of_ne_zero hi)).putRef fenceOk,putRef_lasts (s := s.set i _) hless fenceOk i⟩
  | command i u array =>
    simp only [ResDev.step,Option.ite_none_left_eq_some,Option.some.injEq] at ht
    obtain ⟨hi,rfl⟩ := ht
    refine ⟨h.command hi u array,?_⟩
    unfold ResDev.command
    dsimp only
    split <;> rwa [queue_ids]
  | submit objs table =>
    simp only [ResDev.step,Option.ite_none_left_eq_some,Option.some.injEq] at ht
    obtain ⟨hobjs,rfl⟩ := ht
    refine ⟨h.submit hobjs table,?_⟩
    rwa [queue_ids]
  | moveNotify i fenceOk =>
    simp only [ResDev.step,Option.ite_none_left_eq_some,Option.some.injEq,not_or] at ht
    obtain ⟨⟨hi,-⟩,rfl⟩ := ht
    refine ⟨(h.dmaBufUnmap (Nat.pos_of_ne_zero hi) fenceOk).2.1,?_⟩
    rwa [dmaBufUnmap_ids]
  | prepare i importSgt table =>
    simp only [ResDev.step,Option.ite_none_left_eq_some,Option.some.injEq,not_or] at ht
    obtain ⟨⟨hi,-⟩,rfl⟩ := ht
    refine ⟨h.prepareImportedObj (h.refs_pos hi) importSgt table,?_⟩
    rwa [prepareImportedObj_ids]
  | respond n => exact ⟨h.respond ht,respond_lasts hless ht⟩
  | work fenceOk =>
    simp only [ResDev.step] at ht
    split at ht
    · cases ht
    rename_i objs rest hlist
    obtain rfl := Option.some.inj ht
    exact ⟨h.work hlist fenceOk,putRefs_lasts (s := { s with objFreeList := rest }) hless fenceOk objs⟩
  | unplug =>
    obtain rfl := Option.some.inj ht
    exact ⟨h.unplug,hless⟩

lemma start_tracked {ring : ℕ → RingEnd} {ids : ResourceIds} (hids : ids = .ida [] ∨ ids = .seqno 0) :
    (start ring ids).Tracked [] := by
  have hlive : ∀ k, ¬(start ring ids).Live k := by
    rintro k ⟨i,hi,-⟩
    exact absurd hi (lt_irrefl 0)
  have huse : ∀ k, ¬(start ring ids).InUse k := by
    rintro k ⟨i,hi,-⟩
    cases hi
  refine ⟨fun i => rfl,fun i _ => rfl,fun i hi => absurd hi (lt_irrefl 0),fun i hi => ?_,List.nodup_nil,
    fun _ i _ _ hi => ?_,fun i j hi => ?_,?_,fun k _ => Option.some_ne_none _,fun _ k _ => ?_⟩
  · cases hi
  · cases hi
  · cases hi
  · rcases hids with rfl | rfl
    · exact ⟨List.nodup_nil,fun k => ⟨fun hk => absurd hk (huse k),fun hk => absurd hk.2 List.not_mem_nil⟩⟩
    · exact fun k hk => absurd hk (huse k)
  · exact ⟨fun hf => absurd (Option.some.inj hf) Bool.false_ne_true,fun hk => absurd hk (hlive k)⟩

lemma Tracked.run (h : s.Tracked []) (hlasts : s.ids.Lasts (es.countP ResEvent.asksId)) (hrun : s.Runs es t) :
    t.Tracked [] := by
  induction hrun with
  | nil => exact h
  | @cons _ _ _ e es' head _ ih =>
    have hcount : es'.countP ResEvent.asksId+e.asksId.toNat = (e::es').countP ResEvent.asksId := by
      rw [List.countP_cons]
      cases e.asksId <;> rfl
    rw [← hcount] at hlasts
    obtain ⟨ht,hlasts'⟩ := h.step hlasts head
    exact ih ht hlasts'

/-- The counter of a run with so many new objects does not come round. -/
theorem run_tracked {ring : ℕ → RingEnd} {ids : ResourceIds}
    (hids : ids = .ida [] ∨ ids = .seqno 0 ∧ es.countP ResEvent.asksId+1 < 2^32)
    (hrun : (start ring ids).Runs es s) : s.Tracked [] := by
  have hlasts : ids.Lasts (es.countP ResEvent.asksId) := by
    rcases hids with rfl | ⟨rfl,hlen⟩
    · trivial
    · unfold ResourceIds.Lasts
      omega
  exact (start_tracked (hids.imp_right And.left)).run hlasts hrun

/-- Over any run, ids in use are different. For an id that no lost command was needed for, the host gets a
creation only while it has no resource with it, and every other command only while it has one; and as long as
the device is there, the host ends up with the resource exactly if its object is referred to. -/
theorem resources_in_lifetimes {ring : ℕ → RingEnd} {ids : ResourceIds}
    (hids : ids = .ida [] ∨ ids = .seqno 0 ∧ es.countP ResEvent.asksId+1 < 2^32)
    (hrun : (start ring ids).Runs es s) :
    (∀ i j, (s.objects i).cleaned = false → (s.objects j).cleaned = false →
        (s.objects i).hwResHandle = (s.objects j).hwResHandle → i = j) ∧
      ∀ k, (∀ c ∈ s.dropped, c.needs ≠ some k) → Lifetime.fate ResCmd.about k s.sent ≠ none ∧
        (s.unplugged = false → (Lifetime.fate ResCmd.about k s.sent = some true ↔
          ∃ i, 0 < (s.objects i).refs ∧ (s.objects i).hwResHandle = k)) := by
  have h := run_tracked hids hrun
  exact ⟨h.apart,fun k hk => ⟨h.answered k hk,fun hp => h.live hp k hk⟩⟩

/-- A call without errors. -/
def plainCreate (kind : ResKind) : CreateCall := ⟨kind,false,true,0,true,0,1,true,0,true,0⟩

/-- A ring that refuses one buffer. -/
def ringBut (n : ℕ) : ℕ → RingEnd := fun m => if m = n then .refuses false else .takes

/-- An object with a transfer under way when its handle goes: the UNREF follows the last reference, and its id
comes back for the next object. The ring refuses the creation of a third object, which leaves the id of the other
one alone. -/
theorem id_in_two_lifetimes :
    ∃ s, (start (ringBut 6) (.ida [])).Runs [.create (plainCreate .create3d),.command 0 .transferToHost3d true,
        .put 0 fun _ => true,.respond 0,.respond 0,.respond 0,.work fun _ => true,.work fun _ => true,
        .respond 0,.create (plainCreate .create2d),.create (plainCreate .create2d)] s ∧
      s.sent = [.create .create3d 1,.attachBacking 1,.use .transferToHost3d 1,.unref 1,.create .create2d 1,
        .attachBacking 1,.attachBacking 2] ∧
      s.dropped = [.create .create2d 2] ∧
      (∀ i j, (s.objects i).cleaned = false → (s.objects j).cleaned = false →
        (s.objects i).hwResHandle = (s.objects j).hwResHandle → i = j) ∧
      ∀ k, (∀ c ∈ s.dropped, c.needs ≠ some k) → Lifetime.fate ResCmd.about k s.sent ≠ none ∧
        (s.unplugged = false → (Lifetime.fate ResCmd.about k s.sent = some true ↔
          ∃ i, 0 < (s.objects i).refs ∧ (s.objects i).hwResHandle = k)) := by
  have hrun : (start (ringBut 6) (.ida [])).Runs [.create (plainCreate .create3d),
      .command 0 .transferToHost3d true,.put 0 fun _ => true,.respond 0,.respond 0,.respond 0,
      .work fun _ => true,.work fun _ => true,.respond 0,.create (plainCreate .create2d),
      .create (plainCreate .create2d)] _ :=
    .cons rfl (.cons rfl (.cons rfl (.cons rfl (.cons rfl (.cons rfl (.cons rfl (.cons rfl (.cons rfl
      (.cons rfl (.cons rfl (.nil _)))))))))))
  exact ⟨_,hrun,rfl,rfl,resources_in_lifetimes (.inl rfl) hrun⟩

/-- Over any run, nothing refers to an object that is cleaned up; and as long as the device is there, an object
that nothing refers to is cleaned up or has one UNREF in flight, whose answer cleans it up, unless a command that
its resource needed was lost. -/
theorem cleanup_after_last_reference {ring : ℕ → RingEnd} {ids : ResourceIds}
    (hids : ids = .ida [] ∨ ids = .seqno 0 ∧ es.countP ResEvent.asksId+1 < 2^32)
    (hrun : (start ring ids).Runs es s) (i : ℕ) :
    ((s.objects i).cleaned = true → (s.objects i).users = 0 ∧ i ∉ s.arrays ∧ i ∉ s.unrefs) ∧
      (s.unplugged = false → (∀ c ∈ s.dropped, c.needs ≠ some (s.objects i).hwResHandle) →
        (s.objects i).users = 0 → i ∉ s.arrays →
        (s.objects i).cleaned = true ∧ i ∉ s.unrefs ∨ (s.objects i).cleaned = false ∧ s.unrefs.count i = 1) := by
  have h := run_tracked hids hrun
  have hcount := h.counted i
  rw [List.count_nil,Nat.add_zero] at hcount
  have hgone : (s.objects i).cleaned = true → i ∉ s.unrefs := fun hclean hmem => by
    rw [(h.leaving i hmem).2] at hclean
    cases hclean
  refine ⟨fun hclean => ⟨?_,fun hmem => ?_,hgone hclean⟩,fun hplug hspared husers harrays => ?_⟩
  · by_contra husers
    rw [(h.alive i (h.refs_pos husers)).2] at hclean
    cases hclean
  · have hpos := List.count_pos_iff.mpr hmem
    rw [(h.alive i (by omega)).2] at hclean
    cases hclean
  · have hrefs : (s.objects i).refs = 0 := by
      rw [hcount,husers,List.count_eq_zero.mpr harrays]
    cases hclean : (s.objects i).cleaned with
    | true => exact .inl ⟨rfl,hgone hclean⟩
    | false => exact .inr ⟨rfl,List.count_eq_one_of_mem h.once (h.unplugged hplug i hspared hrefs hclean)⟩

/-- The first of two objects, whose handle is gone, has its UNREF in flight; the one of the second was refused. -/
theorem unref_in_flight :
    ∃ s, (start (ringBut 5) (.seqno 0)).Runs [.create (plainCreate .create2d),.create (plainCreate .create3d),
        .respond 0,.respond 0,.respond 0,.respond 0,.work fun _ => true,.work fun _ => true,
        .put 0 fun _ => true,.put 1 fun _ => true] s ∧
      s.unrefs = [0] ∧ s.dropped = [.unref 3] ∧
      ((s.objects 0).cleaned = true → (s.objects 0).users = 0 ∧ 0 ∉ s.arrays ∧ 0 ∉ s.unrefs) ∧
      (s.unplugged = false → (∀ c ∈ s.dropped, c.needs ≠ some (s.objects 0).hwResHandle) →
        (s.objects 0).users = 0 → 0 ∉ s.arrays →
        (s.objects 0).cleaned = true ∧ 0 ∉ s.unrefs ∨
          (s.objects 0).cleaned = false ∧ s.unrefs.count 0 = 1) := by
  have hrun : (start (ringBut 5) (.seqno 0)).Runs [.create (plainCreate .create2d),
      .create (plainCreate .create3d),.respond 0,.respond 0,.respond 0,.respond 0,.work fun _ => true,
      .work fun _ => true,.put 0 fun _ => true,.put 1 fun _ => true] _ :=
    .cons rfl (.cons rfl (.cons rfl (.cons rfl (.cons rfl (.cons rfl (.cons rfl (.cons rfl (.cons rfl
      (.cons rfl (.nil _))))))))))
  exact ⟨_,hrun,rfl,rfl,cleanup_after_last_reference (.inr ⟨rfl,by decide⟩) hrun 0⟩

end ResDev
end GuestAdditions

import GuestAdditions.Resource.Lifetimes

/-! New objects: each gets an id that no object has, and one command that creates the resource at the host. -/
namespace GuestAdditions
open Lifetime

namespace ResDev
variable {s t : ResDev} {pend objs : List ℕ} {i id m : ℕ} {o : GemObject} {v : ResVbuf} {kind : ResKind}
  {memory : Bool} {ids : ResourceIds}

lemma Tracked.inUse_of_live (h : s.Tracked pend) {k : ℕ} (hk : s.Live k) : s.InUse k := by
  obtain ⟨i,hi,rfl⟩ := hk
  exact ⟨i,(h.alive i hi).2,rfl⟩

/-- There is one object more, with a fresh id. -/
theorem Tracked.added (h : s.Tracked pend) (hlasts : s.ids.Lasts (m+1))
    (hget : s.ids.get memory = .ok (id,t.ids)) (hobj : t.objects = Function.update s.objects s.count o)
    (hcount : t.count = s.count+1) (hplug : t.unplugged = s.unplugged) (hunrefs : t.unrefs = s.unrefs)
    (hid : o.hwResHandle = id) (hcreated : o.created = true) (hclean : o.cleaned = false)
    (hpos : 0 < o.refs) (harr : ∀ j, j ≠ s.count → t.arrays.count j = s.arrays.count j)
    (hown : o.refs = o.users+(t.arrays.count s.count+pend.count s.count))
    (hspared : ∀ k, t.Spared k → s.Spared k)
    (hfate : ((s.unplugged = true ∨ ¬t.Spared id) ∧ ∀ k, t.fate k = s.fate k) ∨
      (s.unplugged = false ∧ ∀ k, t.Spared k → t.fate k = if k = id then some true else s.fate k)) :
    t.Tracked pend := by
  obtain ⟨-,hnew,hgives,-⟩ := h.ids.get hlasts hget
  have hother : ∀ j, j ≠ s.count → t.objects j = s.objects j := fun j hj => by
    rw [hobj,Function.update_of_ne hj]
  have hself : t.objects s.count = o := by rw [hobj,Function.update_self]
  have hold : s.objects s.count = .absent := h.absent _ le_rfl
  have hfresh : ∀ j, (s.objects j).cleaned = false → (s.objects j).hwResHandle ≠ id :=
    fun j hj hji => hnew ⟨j,hj,hji⟩
  have hne : ∀ j, j ∈ s.unrefs → j ≠ s.count := fun j hj hji => by
    have hc := (h.leaving j hj).2
    rw [hji,hold] at hc
    cases hc
  have hinUse : ∀ k, t.InUse k ↔ s.InUse k ∨ k = id := fun k => by
    have hiff := exists_given (P := fun o => o.cleaned = false) hother (by simp [hold,GemObject.absent])
      (by rwa [hself]) k
    rwa [hself,hid] at hiff
  have hlive : ∀ k, t.Live k ↔ if k = id then true = true else s.Live k := fun k => by
    have hiff := exists_given (P := fun o => 0 < o.refs) hother (by simp [hold,GemObject.absent])
      (by rwa [hself]) k
    rw [hself,hid] at hiff
    rw [show t.Live k ↔ s.Live k ∨ k = id from hiff]
    split
    · rename_i hk
      simp [hk]
    · rename_i hk
      simp [hk]
  obtain ⟨hanswered,hview⟩ := h.view hplug hspared hlive hfate
  refine ⟨fun j => ?_,fun j hj => ?_,fun j hj => ?_,fun j hj => ?_,?_,fun hp j hk hj hc => ?_,
    fun j l hj hl hjl => ?_,hgives.congr fun k => (hinUse k).symm,hanswered,hview⟩
  · by_cases hjc : j = s.count
    · subst hjc
      rw [hself]
      exact hown
    · rw [hother j hjc,harr j hjc]
      exact h.counted j
  · rw [hcount] at hj
    rw [hother j (by omega)]
    exact h.absent j (by omega)
  · by_cases hjc : j = s.count
    · subst hjc
      rw [hself]
      exact ⟨hcreated,hclean⟩
    · rw [hother j hjc] at hj ⊢
      exact h.alive j hj
  · rw [hunrefs] at hj
    rw [hother j (hne j hj)]
    exact h.leaving j hj
  · rw [hunrefs]
    exact h.once
  · by_cases hjc : j = s.count
    · subst hjc
      rw [hself] at hj
      omega
    · rw [hother j hjc] at hk hj hc
      rw [hplug] at hp
      rw [hunrefs]
      exact h.unplugged hp j (hspared _ hk) hj hc
  · by_cases hjc : j = s.count
    · by_cases hlc : l = s.count
      · exact hjc.trans hlc.symm
      · subst hjc
        rw [hself,hother l hlc,hid] at hjl
        rw [hother l hlc] at hl
        exact absurd hjl.symm (hfresh l hl)
    · by_cases hlc : l = s.count
      · subst hlc
        rw [hself,hother j hjc,hid] at hjl
        rw [hother j hjc] at hj
        exact absurd hjl (hfresh j hj)
      · rw [hother j hjc] at hj hjl
        rw [hother l hlc] at hl hjl
        exact h.apart j l hj hl hjl

/-- The first command for a new object. -/
theorem Tracked.create (h : s.Tracked []) (extra : List ℕ) (table : Bool) (hlasts : s.ids.Lasts (m+1))
    (hget : s.ids.get memory = .ok (id,ids)) (hcmd : v.cmd = .create kind id) (hcb : v.unrefCb = none)
    (hobjs : ∀ j ∈ v.objs.getD [] ++ extra, j = s.count) (hid : o.hwResHandle = id)
    (hcreated : o.created = true) (hclean : o.cleaned = false) (husers : o.users = 1)
    (hrefs : o.refs = 1+(v.objs.getD [] ++ extra).count s.count) :
    (({ ({ s with ids := ids } : ResDev).addObject o with lost := s.lost ++ extra } : ResDev).queueCtrlBuffer
      table v).2.Tracked [] := by
  have hzero : s.arrays.count s.count = 0 := by
    have hc := h.counted s.count
    rw [h.absent _ le_rfl] at hc
    change 0 = 0+(_+0) at hc
    omega
  have hcount : ∀ j, (({ ({ s with ids := ids } : ResDev).addObject o with
      lost := s.lost ++ extra } : ResDev).queueCtrlBuffer table v).2.arrays.count j =
      s.arrays.count j+(v.objs.getD [] ++ extra).count j := fun j => by
    rw [queue_count]
    simp only [arrays,addObject,set,List.count_append]
    omega
  have hnew : s.unplugged = false → s.Spared id → s.fate id = some false := fun hp hspared => by
    obtain ⟨-,hfree,-,-⟩ := h.ids.get hlasts hget
    exact h.fate_absent hp hspared fun hl => hfree (h.inUse_of_live hl)
  have harr : ∀ j, j ≠ s.count → (v.objs.getD [] ++ extra).count j = 0 := fun j hj =>
    List.count_eq_zero.mpr fun hmem => hj (hobjs j hmem)
  have hown : o.refs = o.users+((({ ({ s with ids := ids } : ResDev).addObject o with
      lost := s.lost ++ extra } : ResDev).queueCtrlBuffer table v).2.arrays.count s.count+
        List.count s.count []) := by
    rw [hcount,hzero,husers,hrefs]
    simp
  have hjs : ∀ j, j ≠ s.count → (({ ({ s with ids := ids } : ResDev).addObject o with
      lost := s.lost ++ extra } : ResDev).queueCtrlBuffer table v).2.arrays.count j =
      s.arrays.count j := fun j hj => by rw [hcount,harr j hj,Nat.add_zero]
  rcases queueCtrlBuffer_cases ({ ({ s with ids := ids } : ResDev).addObject o with
      lost := s.lost ++ extra } : ResDev) table v with ⟨ret,n,cs,hlost,_,hq⟩ | ⟨hplugged,hq⟩
  · rw [hq] at hown hjs ⊢
    refine h.added hlasts hget rfl rfl rfl rfl hid hcreated hclean (by omega) hjs hown
      (fun _ => Spared.mono (s := s) rfl) (.inl ⟨?_,fun _ => rfl⟩)
    exact hlost.symm.imp And.left fun hmem hk => Spared.last (s := s) rfl hk hmem (by rw [hcmd]; rfl)
  · have hplug : s.unplugged = false := hplugged
    rw [hq] at hown hjs ⊢
    refine h.added hlasts hget rfl rfl rfl ?_ hid hcreated hclean (by omega) hjs hown (fun _ hk => hk)
      (.inr ⟨hplug,fun k hspared => ?_⟩)
    · simp [unrefs,addObject,set,hcb]
    · have habout : ResCmd.about v.cmd = some (id,.creates) := by rw [hcmd]; rfl
      change Lifetime.fate ResCmd.about k (s.sent ++ [v.cmd]) = _
      split
      · rename_i hk
        subst hk
        rw [fate_own habout (hnew hplug hspared)]
        rfl
      · rename_i hk
        exact fate_other habout (Ne.symm hk)

lemma Tracked.ids_put (h : s.Tracked pend) (hlasts : s.ids.Lasts (m+1))
    (hget : s.ids.get memory = .ok (id,ids)) :
    ({ s with ids := ids.put id } : ResDev).Tracked pend ∧ (ids.put id).Lasts m := by
  have hput := h.ids.get_put hlasts hget
  exact ⟨⟨h.counted,h.absent,h.alive,h.leaving,h.once,h.unplugged,h.apart,hput.1,h.answered,h.live⟩,hput.2⟩

lemma addObject_queue_objects (s : ResDev) (ids : ResourceIds) (o : GemObject) (table : Bool) (v : ResVbuf) :
    ((({ s with ids := ids } : ResDev).addObject o).queueCtrlBuffer table v).2.objects s.count = o := by
  rw [queue_objects]
  exact set_objects_self ..

/-- A new object is there with the reference of its creation, and an error leaves what was there. -/
theorem Tracked.objectCreate (h : s.Tracked []) (hlasts : s.ids.Lasts (m+1)) (c : CreateCall) :
    (s.objectCreate c).2.Tracked [] ∧ (s.objectCreate c).2.ids.Lasts m ∧
      ((s.objectCreate c).1 = 0 → ((s.objectCreate c).2.objects s.count).users = 1) := by
  unfold ResDev.objectCreate
  split
  · rename_i hc
    exact ⟨h,hlasts.mono (Nat.le_succ m),fun h0 => absurd h0 hc⟩
  split
  · rename_i e hget
    exact ⟨h,hlasts.mono (Nat.le_succ m),fun h0 => absurd h0 (ResourceIds.get_error hget).ne⟩
  rename_i id ids hget
  have hput := h.ids_put hlasts hget
  have hlasts' := (h.ids.get hlasts hget).2.2.2
  split
  · rename_i hc
    exact ⟨hput.1,hput.2,fun h0 => absurd h0 hc⟩
  split
  · exact ⟨hput.1,hput.2,fun h0 => by cases h0⟩
  split
  · rename_i hc
    rw [Bool.and_eq_true,decide_eq_true_iff] at hc
    exact ⟨hput.1,hput.2,fun h0 => absurd h0 hc.2⟩
  dsimp only
  have hobjs : ∀ j ∈ (if c.fence then some [s.count] else none).getD [], j = s.count := by
    split <;> simp
  generalize (if c.fence then some [s.count] else none) = objs at hobjs ⊢
  split
  · have hcreate := h.create (v := ⟨.create c.kind id,none,none⟩) (o := ⟨id,1+(objs.getD []).count s.count,1,
      true,decide (c.kind ≠ .createBlob ∨ c.nents ≠ 0),false,false,false⟩) (objs.getD []) c.table hlasts hget rfl rfl
      hobjs rfl rfl rfl rfl rfl
    refine ⟨hcreate,?_,fun _ => ?_⟩
    · rw [queue_ids]
      exact hlasts'
    · rw [queue_objects]
      exact congrArg GemObject.users (set_objects_self ..)
  · rename_i hk
    have hcreate := h.create (v := ⟨.create c.kind id,objs,none⟩) (o := ⟨id,1+(objs.getD []).count s.count,1,
      true,decide (c.kind ≠ .createBlob ∨ c.nents ≠ 0),false,false,false⟩) [] true hlasts hget rfl rfl
      (by simpa using hobjs) rfl rfl rfl rfl (by simp)
    rw [List.append_nil] at hcreate
    refine ⟨hcreate.queue ⟨rfl,.inr ⟨id,rfl,s.count,?_,?_⟩⟩,?_,fun _ => ?_⟩
    · rw [addObject_queue_objects]
      exact Nat.lt_add_right _ Nat.one_pos
    · rw [addObject_queue_objects]
    · rw [queue_ids,queue_ids]
      exact hlasts'
    · rw [queue_objects,addObject_queue_objects]

/-- The reference of the creation is kept, dropped or lost. -/
theorem Tracked.gemCreate (h : s.Tracked []) (hlasts : s.ids.Lasts (m+1)) (c : CreateCall) :
    (s.gemCreate c).2.Tracked [] ∧ (s.gemCreate c).2.ids.Lasts m := by
  obtain ⟨ht,hlasts',husers⟩ := h.objectCreate hlasts c
  unfold ResDev.gemCreate
  generalize s.objectCreate c = r at ht hlasts' husers ⊢
  obtain ⟨ret,t⟩ := r
  dsimp only at ht hlasts' husers ⊢
  split
  · exact ⟨ht,hlasts'⟩
  rename_i hret
  have hone := husers (not_not.mp hret)
  split
  · have hdrop : (t.set s.count { t.objects s.count with users := 0 }).Tracked [s.count] := by
      have hd := ht.dropUser (i := s.count) (by omega)
      rwa [hone] at hd
    split
    · exact ⟨hdrop.putRef fun _ => false,putRef_lasts (s := t.set s.count _) hlasts' _ _⟩
    · exact ⟨hdrop.lose,hlasts'⟩
  · exact ⟨ht,hlasts'⟩

/-- An import is a blob of its own, and an error leaves what was there. -/
theorem Tracked.gemPrimeImport (h : s.Tracked []) (hlasts : s.ids.Lasts (m+1)) (c : ImportCall) :
    (s.gemPrimeImport c).2.Tracked [] ∧ (s.gemPrimeImport c).2.ids.Lasts m := by
  have hsame : s.Tracked [] ∧ s.ids.Lasts m := ⟨h,hlasts.mono (Nat.le_succ m)⟩
  unfold ResDev.gemPrimeImport
  split
  · exact hsame
  split
  · exact hsame
  split
  · rw [ResourceIds.put_zero]
    exact hsame
  rename_i id ids hget
  have hput := h.ids_put hlasts hget
  split
  · exact hput
  split
  · exact hput
  dsimp only
  have hcreate := h.create (v := ⟨.create .createBlob id,none,none⟩)
    (o := ⟨id,1,1,true,decide (c.nents ≠ 0),true,true,false⟩) [] c.table hlasts hget rfl rfl (by simp) rfl rfl
    rfl rfl (by simp)
  rw [List.append_nil] at hcreate
  refine ⟨hcreate,?_⟩
  rw [queue_ids]
  exact (h.ids.get hlasts hget).2.2.2

end ResDev
end GuestAdditions

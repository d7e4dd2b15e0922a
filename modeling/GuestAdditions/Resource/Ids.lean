import GuestAdditions.Resource.Device
import Mathlib.Data.List.Nodup
import Mathlib.Data.List.Perm.Subperm

/-! The ids that are in use, as the allocator of ids sees them. -/
namespace GuestAdditions

lemma firstFree_not_mem (used : List ℕ) : firstFree used ∉ used := by
  unfold firstFree
  cases hf : (List.range (used.length+1)).find? fun h => decide (h ∉ used) with
  | some h => simpa using List.find?_some hf
  | none =>
    -- no list holds more numbers than its length
    exfalso
    have hall : ∀ h < used.length+1, h ∈ used := by simpa [List.find?_eq_none] using hf
    have hsub : List.range (used.length+1) ⊆ used := fun h hh => hall h (List.mem_range.mp hh)
    have hlen := (List.nodup_range.subperm hsub).length_le
    rw [List.length_range] at hlen
    omega

namespace ResourceIds
variable {ids ids' : ResourceIds} {P Q : ℕ → Prop} {id n : ℕ} {memory : Bool}

/-- The ids with `P` are those given out and not returned. -/
def Gives (P : ℕ → Prop) : ResourceIds → Prop
  | .seqno n => ∀ k, P k → 0 < k ∧ k ≤ n+1
  | .ida used => used.Nodup ∧ ∀ k, P k ↔ 0 < k ∧ k-1 ∈ used

/-- So many ids can be given out before the counter comes round. -/
def Lasts (m : ℕ) : ResourceIds → Prop
  | .seqno n => n+m+1 < 2^32
  | .ida _ => True

lemma Gives.congr (h : ids.Gives P) (hPQ : ∀ k, P k ↔ Q k) : ids.Gives Q := by
  cases ids with
  | seqno n => exact fun k hk => h k ((hPQ k).mpr hk)
  | ida used => exact ⟨h.1,fun k => (hPQ k).symm.trans (h.2 k)⟩

lemma Gives.pos (h : ids.Gives P) {k : ℕ} (hk : P k) : 0 < k := by
  cases ids with
  | seqno n => exact (h k hk).1
  | ida used => exact ((h.2 k).mp hk).1

lemma Lasts.mono {m m' : ℕ} (h : ids.Lasts m) (hm : m' ≤ m) : ids.Lasts m' := by
  cases ids with
  | seqno n =>
    unfold Lasts at h ⊢
    omega
  | ida used => trivial

/-- An error is an error number. -/
theorem get_error {e : ℤ} (hget : ids.get memory = .error e) : e < 0 := by
  cases ids with
  | seqno n => cases hget
  | ida used =>
    simp only [ResourceIds.get] at hget
    split_ifs at hget
    · rw [← Except.error.inj hget]
      decide
    · rw [← Except.error.inj hget]
      decide

/-- A new id is not in use. -/
theorem Gives.get (h : ids.Gives P) {m : ℕ} (hm : ids.Lasts (m+1)) (hget : ids.get memory = .ok (id,ids')) :
    0 < id ∧ ¬P id ∧ ids'.Gives (fun k => P k ∨ k = id) ∧ ids'.Lasts m := by
  cases ids with
  | seqno n =>
    unfold Lasts at hm
    have hwrap : wrap32 (n+1) = n+1 := Nat.mod_eq_of_lt (by omega)
    have hwrap' : wrap32 (n+1+1) = n+2 := Nat.mod_eq_of_lt (by omega)
    simp only [ResourceIds.get,hwrap,hwrap',Except.ok.injEq,Prod.mk.injEq] at hget
    obtain ⟨rfl,rfl⟩ := hget
    refine ⟨by omega,fun hP => by have := (h _ hP).2; omega,?_,?_⟩
    · rintro k (hk | rfl)
      · have hle := h k hk
        omega
      · omega
    · unfold Lasts
      omega
  | ida used =>
    simp only [ResourceIds.get] at hget
    split_ifs at hget
    obtain ⟨rfl,rfl⟩ := Prod.mk.inj (Except.ok.inj hget)
    have hfree := firstFree_not_mem used
    refine ⟨by omega,fun hP => hfree ((h.2 _).mp hP).2,⟨List.nodup_cons.mpr ⟨hfree,h.1⟩,fun k => ?_⟩,trivial⟩
    simp only [h.2 k,List.mem_cons]
    constructor
    · rintro (⟨hk,hused⟩ | rfl)
      · exact ⟨hk,.inr hused⟩
      · exact ⟨by omega,.inl (by omega)⟩
    · rintro ⟨hk,hfirst | hused⟩
      · exact .inr (by omega)
      · exact .inl ⟨hk,hused⟩

/-- An id is returned. -/
theorem Gives.put (h : ids.Gives P) (hid : P id) : (ids.put id).Gives fun k => P k ∧ k ≠ id := by
  cases ids with
  | seqno n => exact fun k hk => h k hk.1
  | ida used =>
    have hpos := h.pos hid
    rw [ResourceIds.put,if_neg hpos.ne']
    refine ⟨h.1.erase _,fun k => ?_⟩
    simp only [h.1.mem_erase_iff,h.2 k]
    constructor
    · rintro ⟨⟨hk,hused⟩,hne⟩
      exact ⟨hk,by omega,hused⟩
    · rintro ⟨hk,hne,hused⟩
      exact ⟨⟨hk,hused⟩,fun hki => hne (by rw [hki])⟩

lemma Lasts.put {m : ℕ} (h : ids.Lasts m) : (ids.put id).Lasts m := by
  cases ids with
  | seqno n => exact h
  | ida used =>
    rw [ResourceIds.put]
    split <;> trivial

lemma put_zero : ids.put 0 = ids := by
  cases ids <;> rfl

/-- An id that was taken for nothing. -/
theorem Gives.get_put (h : ids.Gives P) {m : ℕ} (hm : ids.Lasts (m+1))
    (hget : ids.get memory = .ok (id,ids')) : (ids'.put id).Gives P ∧ (ids'.put id).Lasts m := by
  obtain ⟨-,hnew,hgives,hlasts⟩ := h.get hm hget
  refine ⟨(hgives.put (.inr rfl)).congr fun k => ?_,hlasts.put⟩
  constructor
  · rintro ⟨hk | hk,hne⟩
    · exact hk
    · exact absurd hk hne
  · exact fun hk => ⟨.inl hk,fun hki => hnew (hki ▸ hk)⟩

end ResourceIds
end GuestAdditions

import GuestAdditions.Library.Extent
import Mathlib.Data.Finset.Card
import Mathlib.Order.Interval.Finset.Nat

/-! The room that a list of extents leaves in a range, counted in aligned slots of one size. -/
namespace GuestAdditions

/-- The slots of `m` addresses, aligned to `m`, that lie in the range from `lo` to `hi` and share no
address with an extent of the list. A slot is named by its index. -/
def freeSlots (live : List Extent) (m lo hi : ℕ) : List ℕ :=
  (List.range (hi/m)).filter (fun k => lo ≤ k*m ∧ ∀ l ∈ live, l.Avoids (k*m) (k*m+m))

/-- The addresses in the free slots. -/
def capacity (live : List Extent) (m lo hi : ℕ) : ℕ := (freeSlots live m lo hi).length*m

variable {live live' : List Extent} {m lo hi hi' k : ℕ}

lemma mem_freeSlots (hm : 0 < m) :
    k ∈ freeSlots live m lo hi ↔
      lo ≤ k*m ∧ k*m+m ≤ hi ∧ ∀ l ∈ live, l.Avoids (k*m) (k*m+m) := by
  have hlt : k < hi/m ↔ k*m+m ≤ hi := by
    rw [← Nat.succ_le_iff, Nat.le_div_iff_mul_le hm, Nat.succ_mul]
  simp only [freeSlots, List.mem_filter, List.mem_range, decide_eq_true_eq, hlt]
  exact and_left_comm

lemma freeSlots_nodup : (freeSlots live m lo hi).Nodup := List.nodup_range.filter _

lemma freeSlots_congr (h : ∀ l, l ∈ live ↔ l ∈ live') :
    freeSlots live m lo hi = freeSlots live' m lo hi := by
  simp only [freeSlots, h]

lemma capacity_perm (h : live.Perm live') : capacity live m lo hi = capacity live' m lo hi := by
  rw [capacity, capacity, freeSlots_congr (fun l => h.mem_iff)]

/-- A longer range has at least the capacity of a shorter one. -/
theorem capacity_mono (live : List Extent) (m lo : ℕ) (h : hi ≤ hi') :
    capacity live m lo hi ≤ capacity live m lo hi' := by
  have hsub : (freeSlots live m lo hi).Sublist (freeSlots live m lo hi') :=
    (List.range_sublist.mpr (Nat.div_le_div_right h)).filter _
  exact Nat.mul_le_mul_right m hsub.length_le

lemma capacity_le (live : List Extent) (m lo hi : ℕ) : capacity live m lo hi ≤ hi := by
  have hlen : (freeSlots live m lo hi).length ≤ hi/m :=
    (List.length_filter_le _ _).trans_eq List.length_range
  exact (Nat.mul_le_mul_right m hlen).trans (Nat.div_mul_le_self hi m)

/-- A nonempty range whose capacity is its whole length meets no extent of the list. -/
theorem avoids_of_capacity (hm : 0 < m) (hlo : m ∣ lo) (hhi : m ∣ hi) (hlt : lo < hi)
    (h : hi - lo ≤ capacity live m lo hi) {l : Extent} (hl : l ∈ live) : l.Avoids lo hi := by
  obtain ⟨a,rfl⟩ := hlo
  obtain ⟨b,rfl⟩ := hhi
  have hmem : ∀ k ∈ freeSlots live m (m*a) (m*b), k ∈ Finset.Ico a b := by
    intro k hk
    obtain ⟨h₁,h₂,-⟩ := (mem_freeSlots hm).mp hk
    rw [Nat.mul_comm m a] at h₁
    rw [← Nat.succ_mul, Nat.mul_comm m b] at h₂
    exact Finset.mem_Ico.mpr ⟨Nat.le_of_mul_le_mul_right h₁ hm,Nat.le_of_mul_le_mul_right h₂ hm⟩
  have hcard : b - a ≤ (freeSlots live m (m*a) (m*b)).length := by
    rw [← Nat.mul_sub, capacity, Nat.mul_comm m] at h
    exact Nat.le_of_mul_le_mul_right h hm
  have hall : (freeSlots live m (m*a) (m*b)).toFinset = Finset.Ico a b := by
    refine Finset.eq_of_subset_of_card_le (fun k hk => hmem k (List.mem_toFinset.mp hk)) ?_
    rw [List.toFinset_card_of_nodup freeSlots_nodup, Nat.card_Ico]
    exact hcard
  -- An address of the extent inside the range would lie in a slot that is free.
  by_contra hnot
  simp only [Extent.Avoids, not_or, not_le] at hnot
  have hpos := l.offset_lt_stop
  have hx : l.Contains (max l.offset (m*a)) := by unfold Extent.Contains; omega
  have hk : max l.offset (m*a) / m ∈ Finset.Ico a b := by
    rw [Finset.mem_Ico, Nat.le_div_iff_mul_le hm, Nat.div_lt_iff_lt_mul hm, Nat.mul_comm a,
      Nat.mul_comm b]
    omega
  rw [← hall, List.mem_toFinset, mem_freeSlots hm] at hk
  refine Extent.Avoids.not_contains (hk.2.2 l hl) (Nat.div_mul_le_self _ _) ?_ hx
  exact Nat.lt_div_mul_add hm

/-- A range that meets no extent of the list has its whole length as capacity. -/
theorem capacity_of_avoids (hm : 0 < m) (hlo : m ∣ lo) (hhi : m ∣ hi)
    (h : ∀ l ∈ live, l.Avoids lo hi) : hi - lo ≤ capacity live m lo hi := by
  obtain ⟨a,rfl⟩ := hlo
  obtain ⟨b,rfl⟩ := hhi
  have hsub : Finset.Ico a b ⊆ (freeSlots live m (m*a) (m*b)).toFinset := by
    intro k hk
    rw [Finset.mem_Ico] at hk
    have hstart : m*a ≤ k*m := Nat.mul_comm m a ▸ Nat.mul_le_mul_right m hk.1
    have hstop : k*m+m ≤ m*b := by
      rw [← Nat.succ_mul,Nat.mul_comm m b]
      exact Nat.mul_le_mul_right m hk.2
    rw [List.mem_toFinset,mem_freeSlots hm]
    exact ⟨hstart,hstop,fun l hl => (h l hl).mono hstart hstop⟩
  have hcard := Finset.card_le_card hsub
  rw [List.toFinset_card_of_nodup freeSlots_nodup,Nat.card_Ico] at hcard
  rw [← Nat.mul_sub,capacity,Nat.mul_comm m]
  exact Nat.mul_le_mul_right m hcard

end GuestAdditions

import Mathlib.Order.Bounds.Basic
import Mathlib.Tactic.Linarith

/-! The points reached from a natural number by whole steps, and the least of them with a property. -/
namespace GuestAdditions

/-- The points `lo`, `lo + step`, `lo + 2 * step` and so on. -/
def grid (lo step : ℕ) : Set ℕ := {b | ∃ k, b = lo+k*step}

variable {lo step b c : ℕ} {P : ℕ → Prop}

lemma mem_grid_self (lo step : ℕ) : lo ∈ grid lo step := ⟨0,by rw [Nat.zero_mul,Nat.add_zero]⟩

lemma le_of_mem_grid (h : b ∈ grid lo step) : lo ≤ b := by
  obtain ⟨k,rfl⟩ := h
  exact Nat.le_add_right _ _

/-- A point of the grid is its start or lies on the grid of the next point. -/
theorem mem_grid_iff : b ∈ grid lo step ↔ b = lo ∨ b ∈ grid (lo+step) step := by
  constructor
  · intro ⟨k,hk⟩
    cases k with
    | zero => exact .inl (by rw [hk,Nat.zero_mul,Nat.add_zero])
    | succ k => exact .inr ⟨k,by rw [hk,Nat.succ_mul]; omega⟩
  · rintro (rfl | ⟨k,rfl⟩)
    · exact mem_grid_self b step
    · exact ⟨k+1,by rw [Nat.succ_mul]; omega⟩

/-- Points of one grid are at least a step apart. -/
theorem le_of_mem_grid_of_lt (hb : b ∈ grid lo step) (hc : c ∈ grid lo step) (h : b - step < c) :
    b ≤ c := by
  obtain ⟨j,rfl⟩ := hb
  obtain ⟨k,rfl⟩ := hc
  have hjk : j ≤ k := by
    by_contra hlt
    have hmul : (k+1)*step ≤ j*step := Nat.mul_le_mul_right step (by omega)
    rw [Nat.succ_mul] at hmul
    omega
  exact Nat.add_le_add_left (Nat.mul_le_mul_right step hjk) lo

/-- The start of a grid is its least point with a property that the start has. -/
theorem isLeast_grid_self (h : P lo) : IsLeast {x | x ∈ grid lo step ∧ P x} lo :=
  ⟨⟨mem_grid_self lo step,h⟩,fun _ hx => le_of_mem_grid hx.1⟩

/-- A start without the property can be left out. -/
theorem isLeast_grid_next (h : ¬ P lo) :
    IsLeast {x | x ∈ grid lo step ∧ P x} b ↔ IsLeast {x | x ∈ grid (lo+step) step ∧ P x} b := by
  have heq : {x | x ∈ grid lo step ∧ P x} = {x | x ∈ grid (lo+step) step ∧ P x} := by
    ext x
    constructor
    · intro ⟨hx,hP⟩
      cases mem_grid_iff.mp hx with
      | inl hlo => exact absurd (hlo ▸ hP) h
      | inr hx => exact ⟨hx,hP⟩
    · exact fun ⟨hx,hP⟩ => ⟨mem_grid_iff.mpr (.inr hx),hP⟩
  rw [heq]

/-- Of a property that larger points inherit, a point with it is the least one on the grid exactly
when it is the start or the point before it lacks the property. -/
theorem isLeast_grid_iff (hstep : 0 < step) (hup : ∀ x y, x ≤ y → P x → P y)
    (hb : b ∈ grid lo step) (hP : P b) :
    IsLeast {x | x ∈ grid lo step ∧ P x} b ↔ b = lo ∨ ¬ P (b - step) := by
  constructor
  · intro hleast
    by_contra hnot
    simp only [not_or,not_not] at hnot
    obtain ⟨hne,hprev⟩ := hnot
    obtain ⟨k,rfl⟩ := hb
    cases k with
    | zero => simp at hne
    | succ k =>
      have hprior : lo+(k+1)*step - step = lo+k*step := by rw [Nat.succ_mul]; omega
      have hle := hleast.2 ⟨⟨k,hprior⟩,hprev⟩
      rw [hprior,Nat.succ_mul] at hle
      omega
  · intro h
    refine ⟨⟨hb,hP⟩,fun x ⟨hx,hPx⟩ => ?_⟩
    cases h with
    | inl h => exact h ▸ le_of_mem_grid hx
    | inr h => exact le_of_mem_grid_of_lt hb hx (not_le.mp fun hle => h (hup _ _ hle hPx))

end GuestAdditions

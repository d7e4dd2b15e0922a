import Mathlib.Tactic.TypeStar
import Mathlib.Data.Nat.Notation

/-! Loops whose body either finishes with a result or continues from a new state, run under a
natural-number measure that every continuation lowers. -/
namespace GuestAdditions.Loop

variable {S R : Type*}

/-- Every continuation of the body lowers the measure. -/
def Decreases (μ : S → ℕ) (body : S → R ⊕ S) : Prop :=
  ∀ s t, body s = .inr t → μ t < μ s

variable {μ : S → ℕ} {body : S → R ⊕ S}

/-- At most `n` iterations, which the bound on the measure shows to be enough. -/
def iterate (hμ : Decreases μ body) : (n : ℕ) → (s : S) → μ s < n → R
  | 0, _, h => absurd h (Nat.not_lt_zero _)
  | n+1, s, h =>
    match hb : body s with
    | .inl r => r
    | .inr t => iterate hμ n t (Nat.lt_of_lt_of_le (hμ s t hb) (Nat.le_of_lt_succ h))

/-- Run the body from `s` until it finishes. -/
def run (hμ : Decreases μ body) (s : S) : R := iterate hμ (μ s+1) s (Nat.lt_succ_self _)

lemma iterate_done (hμ : Decreases μ body) {n : ℕ} {s : S} {r : R} (h : μ s < n+1)
    (hb : body s = .inl r) : iterate hμ (n+1) s h = r := by
  simp only [iterate]
  split
  · simp_all
  · simp_all

lemma iterate_next (hμ : Decreases μ body) {n : ℕ} {s t : S} (h : μ s < n+1)
    (hb : body s = .inr t) :
    iterate hμ (n+1) s h =
      iterate hμ n t (Nat.lt_of_lt_of_le (hμ s t hb) (Nat.le_of_lt_succ h)) := by
  simp only [iterate]
  split
  · simp_all
  · rename_i t' ht'
    obtain rfl : t = t' := by simpa using hb.symm.trans ht'
    rfl

/-- The number of iterations allowed does not change the result. -/
theorem iterate_irrel (hμ : Decreases μ body) {n m : ℕ} {s : S} (hn : μ s < n) (hm : μ s < m) :
    iterate hμ n s hn = iterate hμ m s hm := by
  induction n generalizing m s with
  | zero => exact absurd hn (Nat.not_lt_zero _)
  | succ n ih =>
    cases m with
    | zero => exact absurd hm (Nat.not_lt_zero _)
    | succ m =>
      cases hb : body s with
      | inl r => rw [iterate_done hμ hn hb, iterate_done hμ hm hb]
      | inr t =>
        rw [iterate_next hμ hn hb, iterate_next hμ hm hb]
        exact ih _ _

lemma run_done (hμ : Decreases μ body) {s : S} {r : R} (hb : body s = .inl r) :
    run hμ s = r := iterate_done hμ _ hb

lemma run_next (hμ : Decreases μ body) {s t : S} (hb : body s = .inr t) :
    run hμ s = run hμ t := by
  rw [run, iterate_next hμ _ hb]
  exact iterate_irrel hμ _ _

/-- What holds when the body finishes, and is carried back over an iteration, relates every start
of the loop to its result. -/
theorem run_induct (hμ : Decreases μ body) {motive : S → R → Prop}
    (done : ∀ s r, body s = .inl r → motive s r)
    (next : ∀ s t r, body s = .inr t → motive t r → motive s r) (s : S) :
    motive s (run hμ s) := by
  generalize hn : μ s = n
  induction n using Nat.strongRecOn generalizing s with
  | _ n ih =>
    cases hb : body s with
    | inl r => rw [run_done hμ hb]; exact done s r hb
    | inr t =>
      rw [run_next hμ hb]
      exact next s t _ hb (ih (μ t) (hn ▸ hμ s t hb) t rfl)

end GuestAdditions.Loop

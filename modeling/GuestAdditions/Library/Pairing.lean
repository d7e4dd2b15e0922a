import Mathlib.Data.List.Count
import Mathlib.Order.Basic
import Mathlib.Tactic.TypeStar

/-! Logs in which some events open a key and others close one, the newest event first. -/
namespace GuestAdditions.Pairing

variable {E κ : Type*} [DecidableEq κ] (opens closes : E → Option κ)

/-- How often a function names the key. -/
def times (f : E → Option κ) (k : κ) (log : List E) : ℕ := log.countP fun e => f e = some k

/-- Every closing has an earlier opening that no closing before it has used up. -/
def Matched : List E → Prop
  | [] => True
  | e::log => (∀ k ∈ closes e, times closes k log < times opens k log) ∧ Matched log

instance decidableMatched : (log : List E) → Decidable (Matched opens closes log)
  | [] => isTrue trivial
  | e::log =>
    have := decidableMatched log
    inferInstanceAs (Decidable ((∀ k ∈ closes e, _ < _) ∧ Matched opens closes log))

variable {opens closes} {e : E} {k : κ} {log : List E}

lemma times_cons_self {f : E → Option κ} (h : f e = some k) :
    times f k (e::log) = times f k log + 1 := by
  rw [times,List.countP_cons_of_pos (by simp [h])]
  rfl

lemma times_cons_ne {f : E → Option κ} (h : f e ≠ some k) :
    times f k (e::log) = times f k log := by
  rw [times,List.countP_cons_of_neg (by simp [h])]
  rfl

/-- An event that closes nothing keeps a log matched. -/
theorem Matched.cons (h : Matched opens closes log) (he : closes e = none) :
    Matched opens closes (e::log) :=
  ⟨fun k hk => by simp [he] at hk,h⟩

/-- No key is closed more often than it is opened. -/
theorem Matched.times_le (h : Matched opens closes log) (k : κ) :
    times closes k log ≤ times opens k log := by
  induction log with
  | nil => exact Nat.zero_le _
  | cons e log ih =>
    have hlog := ih h.2
    have hopen : times opens k log ≤ times opens k (e::log) := by
      by_cases ho : opens e = some k
      · rw [times_cons_self ho]
        exact Nat.le_succ _
      · exact Nat.le_of_eq (times_cons_ne ho).symm
    by_cases hc : closes e = some k
    · rw [times_cons_self hc]
      exact Nat.lt_of_lt_of_le (h.1 k hc) hopen
    · rw [times_cons_ne hc]
      exact Nat.le_trans hlog hopen

end GuestAdditions.Pairing

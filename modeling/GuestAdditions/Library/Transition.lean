import Mathlib.Data.List.Basic
import Mathlib.Logic.Relation
import Mathlib.Tactic.TypeStar

/-! Finite runs of a labelled step relation, and the rules that carry an invariant from one step to a
whole run. -/
namespace GuestAdditions.Transition

variable {S E : Type*}

/-- What every step preserves holds at the end of every chain of steps. -/
theorem chain_invariant {r : S → S → Prop} {I : S → Prop} (hstep : ∀ s t, r s t → I s → I t)
    {s t : S} (h : Relation.ReflTransGen r s t) (hs : I s) : I t := by
  induction h with
  | refl => exact hs
  | tail _ hlast ih => exact hstep _ _ hlast ih

/-- The events, in order, take the first state to the last one. -/
inductive Run (step : S → E → S → Prop) : S → List E → S → Prop
  | nil (s) : Run step s [] s
  | cons {s t u e es} (head : step s e t) (tail : Run step t es u) : Run step s (e::es) u

namespace Run
variable {step : S → E → S → Prop} {s t : S} {e : E} {es : List E}

lemma single (h : step s e t) : Run step s [e] t := .cons h (.nil t)

/-- What every step preserves holds at the end of every run. -/
theorem invariant {I : S → Prop} (hstep : ∀ s e t, I s → step s e t → I t)
    (h : Run step s es t) (hs : I s) : I t := by
  induction h with
  | nil => exact hs
  | cons head _ ih => exact ih (hstep _ _ _ hs head)

/-- The same for an invariant that speaks of the events so far. -/
theorem trace_invariant {I : List E → S → Prop}
    (hstep : ∀ es s e t, I es s → step s e t → I (es ++ [e]) t)
    (h : Run step s es t) {past : List E} (hs : I past s) : I (past ++ es) t := by
  induction h generalizing past with
  | nil => simpa using hs
  | cons head _ ih => simpa using ih (hstep _ _ _ _ hs head)

lemma of_foldlM {f : S → E → Option S} (h : es.foldlM f s = some t) :
    Run (fun s e t => f s e = some t) s es t := by
  induction es generalizing s with
  | nil => exact Option.some.inj h ▸ .nil _
  | cons e es ih =>
    obtain ⟨u,hu,htail⟩ := Option.bind_eq_some_iff.mp h
    exact .cons hu (ih htail)

/-- Where the step is a partial function a run is computed by folding it. -/
theorem of_isSome {f : S → E → Option S} (es : List E) (h : (es.foldlM f s).isSome = true) :
    Run (fun s e t => f s e = some t) s es ((es.foldlM f s).get h) :=
  of_foldlM (Option.some_get h).symm

/-- A run of a step relation is one of any larger relation. -/
theorem mono {step' : S → E → S → Prop} (hstep : ∀ s e t, step s e t → step' s e t)
    (h : Run step s es t) : Run step' s es t := by
  induction h with
  | nil => exact .nil _
  | cons head _ ih => exact .cons (hstep _ _ _ head) ih

end Run
end GuestAdditions.Transition

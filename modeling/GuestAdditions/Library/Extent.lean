import Mathlib.Data.List.Perm.Basic
import Mathlib.Data.List.Pairwise
import Mathlib.Tactic.Linarith

/-! Nonempty half-open intervals of natural numbers, and lists of them that do not overlap. -/
namespace GuestAdditions

/-- The addresses from `offset` up to, and excluding, `offset + size`. -/
structure Extent where
  offset : ℕ
  size : ℕ
  pos : 0 < size
  deriving DecidableEq, Repr

namespace Extent

def stop (e : Extent) : ℕ := e.offset + e.size

/-- The extent lies inside the range from `lo` to `hi`. -/
def Within (e : Extent) (lo hi : ℕ) : Prop := lo ≤ e.offset ∧ e.stop ≤ hi

/-- The extent has no address in the range from `lo` to `hi`. -/
def Avoids (e : Extent) (lo hi : ℕ) : Prop := e.stop ≤ lo ∨ hi ≤ e.offset

/-- The two extents share no address. -/
def Disjoint (e f : Extent) : Prop := e.Avoids f.offset f.stop

def Contains (e : Extent) (x : ℕ) : Prop := e.offset ≤ x ∧ x < e.stop

instance (e : Extent) (lo hi : ℕ) : Decidable (e.Within lo hi) :=
  inferInstanceAs (Decidable (_ ∧ _))

instance (e : Extent) (lo hi : ℕ) : Decidable (e.Avoids lo hi) :=
  inferInstanceAs (Decidable (_ ∨ _))

instance (e f : Extent) : Decidable (e.Disjoint f) :=
  inferInstanceAs (Decidable (_ ∨ _))

variable {e f : Extent} {lo hi lo' hi' x : ℕ}

lemma offset_lt_stop (e : Extent) : e.offset < e.stop := by
  have := e.pos
  unfold stop
  omega

lemma Disjoint.symm (h : e.Disjoint f) : f.Disjoint e := by
  unfold Disjoint Avoids at *
  omega

instance : Std.Symm Disjoint := ⟨fun _ _ h => h.symm⟩

lemma Avoids.mono (h : e.Avoids lo hi) (hlo : lo ≤ lo') (hhi : hi' ≤ hi) :
    e.Avoids lo' hi' := by
  unfold Avoids at *
  omega

/-- An extent below `hi` that avoids the range up to `hi` ends where the range begins. -/
theorem Avoids.stop_le (h : e.Avoids lo hi) (hhi : e.stop ≤ hi) : e.stop ≤ lo := by
  have := e.offset_lt_stop
  rcases h with h | h <;> omega

lemma Avoids.not_contains (h : e.Avoids lo hi) (hlo : lo ≤ x) (hhi : x < hi) :
    ¬ e.Contains x := by
  unfold Avoids Contains at *
  omega

/-- Two extents with a common address are not disjoint. -/
theorem not_disjoint_of_contains (he : e.Contains x) (hf : f.Contains x) : ¬ e.Disjoint f :=
  fun h => Avoids.not_contains h hf.1 hf.2 he

lemma contains_offset (e : Extent) : e.Contains e.offset := ⟨le_rfl,e.offset_lt_stop⟩

end Extent

/-- No two extents of the list, at different positions, overlap. -/
def Separate (l : List Extent) : Prop := l.Pairwise Extent.Disjoint

instance (l : List Extent) : Decidable (Separate l) :=
  inferInstanceAs (Decidable (l.Pairwise _))

namespace Separate
variable {l m : List Extent} {x : ℕ}

@[simp] lemma nil : Separate [] := List.Pairwise.nil

lemma perm (h : Separate l) (p : l.Perm m) : Separate m :=
  List.Pairwise.perm h p Extent.Disjoint.symm

lemma append_iff :
    Separate (l ++ m) ↔ Separate l ∧ Separate m ∧ ∀ e ∈ l, ∀ f ∈ m, e.Disjoint f :=
  List.pairwise_append

lemma right (h : Separate (l ++ m)) : Separate m := (append_iff.mp h).2.1

/-- At most one extent of a separate list contains a given address. -/
theorem unique (h : Separate l) {e f : Extent} (he : e ∈ l) (hf : f ∈ l)
    (hxe : e.Contains x) (hxf : f.Contains x) : e = f := by
  by_contra hne
  exact Extent.not_disjoint_of_contains hxe hxf
    (h.forall he hf hne)

lemma nodup (h : Separate l) : l.Nodup :=
  h.imp fun {e f} hd hef => by
    subst hef
    exact Extent.not_disjoint_of_contains e.contains_offset e.contains_offset hd

end Separate
end GuestAdditions

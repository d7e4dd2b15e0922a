import Mathlib.Data.List.Perm.Basic
import Mathlib.Data.List.Pairwise
import Mathlib.Logic.Function.Basic
import Mathlib.Order.Lattice
import Mathlib.Order.Defs.LinearOrder

/-! Items with increasing keys, in groups that each have a mark. An item is finished when the mark of its
group has reached its key, and pending until then. -/
namespace GuestAdditions.Watermark

variable {α γ κ : Type*} [LinearOrder κ] (group : α → γ) (key : α → κ)

def pending (mark : γ → κ) (l : List α) : List α := l.filter fun a => mark (group a) < key a

def finished (mark : γ → κ) (l : List α) : List α := l.filter fun a => key a ≤ mark (group a)

variable {group key} {mark : γ → κ} {g c : γ} {n : κ} {a : α} {l : List α}

lemma pending_append_fresh (h : mark (group a) < key a) :
    pending group key mark (l ++ [a]) = pending group key mark l ++ [a] := by
  simp [pending,h]

lemma finished_append_fresh (h : mark (group a) < key a) :
    finished group key mark (l ++ [a]) = finished group key mark l := by
  simp [finished,h]

variable [DecidableEq γ]

/-- The mark of one group goes up to a key. -/
def raise (mark : γ → κ) (g : γ) (n : κ) : γ → κ := Function.update mark g (max (mark g) n)

lemma raise_lt_iff : (raise mark g n c < key a) ↔ mark c < key a ∧ ¬ (c = g ∧ key a ≤ n) := by
  unfold raise
  by_cases h : c = g
  · subst h
    simp
  · simp [h]

lemma raise_le {b : κ} (hc : mark c ≤ b) (hn : n ≤ b) : raise mark g n c ≤ b := by
  unfold raise
  by_cases h : c = g
  · subst h
    simpa using ⟨hc,hn⟩
  · simpa [h] using hc

/-- What a raise leaves pending. -/
theorem pending_raise : pending group key (raise mark g n) l =
    (pending group key mark l).filter fun a => ¬ (group a = g ∧ key a ≤ n) := by
  rw [pending,pending,List.filter_filter]
  congr 1
  funext a
  rw [← Bool.decide_and]
  exact decide_eq_decide.mpr (raise_lt_iff.trans And.comm)

/-- With increasing keys, what is finished up to a key is what was finished below it, and then the rest. -/
theorem filter_le_of_pairwise (hl : l.Pairwise fun a b => key a < key b) {m : κ} :
    l.filter (fun a => key a ≤ max m n) =
      l.filter (fun a => key a ≤ m) ++ l.filter fun a => m < key a ∧ key a ≤ n := by
  induction l with
  | nil => rfl
  | cons a l ih =>
    have hl' := List.pairwise_cons.mp hl
    have ih := ih hl'.2
    by_cases hm : key a ≤ m
    · rw [List.filter_cons_of_pos (by simp [hm]),List.filter_cons_of_pos (by simpa using hm),
        List.filter_cons_of_neg (by simp [hm]),ih,List.cons_append]
    · have hlt := not_le.mp hm
      have hnone : l.filter (fun b => key b ≤ m) = [] := by
        apply List.filter_eq_nil_iff.mpr
        intro b hb
        simpa using hlt.trans (hl'.1 b hb)
      rw [hnone,List.nil_append] at ih
      rw [List.filter_cons_of_neg (p := fun b => decide (key b ≤ m)) (by simpa using hlt),hnone,List.nil_append]
      by_cases hn : key a ≤ n
      · rw [List.filter_cons_of_pos (by simp [hn]),List.filter_cons_of_pos (by simp [hn,hlt]),ih]
      · rw [List.filter_cons_of_neg (by simpa [hlt] using hn),
          List.filter_cons_of_neg (by simp [hn]),ih]

/-- With increasing keys, the item with the greatest key of a selection is the last of it. -/
theorem filter_le_of_mem (hl : l.Pairwise fun a b => key a < key b) {p : α → Bool} (ha : a ∈ l)
    (hp : p a = true) : l.filter (fun b => p b && decide (key b ≤ key a)) =
      l.filter (fun b => p b && decide (key b < key a)) ++ [a] := by
  induction l with
  | nil => simp at ha
  | cons b l ih =>
    have hl' := List.pairwise_cons.mp hl
    cases ha with
    | head =>
      have hnone {q : α → Bool} (hq : ∀ b, q b = true → key b ≤ key a) : l.filter q = [] := by
        apply List.filter_eq_nil_iff.mpr
        intro b hb hqb
        exact absurd (hl'.1 b hb) (not_lt.mpr (hq b hqb))
      rw [List.filter_cons_of_pos (by simp [hp]),List.filter_cons_of_neg (by simp),hnone,hnone]
      · rfl
      · intro b hb
        exact (of_decide_eq_true (Bool.and_eq_true_iff.mp hb).2).le
      · intro b hb
        exact of_decide_eq_true (Bool.and_eq_true_iff.mp hb).2
    | tail _ ha =>
      have hlt := hl'.1 a ha
      by_cases hb : p b = true
      · rw [List.filter_cons_of_pos (by simp [hb,hlt.le]),List.filter_cons_of_pos (by simp [hb,hlt]),
          ih hl'.2 ha,List.cons_append]
      · rw [List.filter_cons_of_neg (by simp [hb]),List.filter_cons_of_neg (by simp [hb]),ih hl'.2 ha]

/-- A raise finishes items of one group, behind those of the group that were finished. -/
theorem finished_raise (hl : l.Pairwise fun a b => key a < key b) :
    (finished group key (raise mark g n) l).filter (fun a => group a = c) =
      (finished group key mark l).filter (fun a => group a = c) ++
        ((pending group key mark l).filter fun a => group a = g ∧ key a ≤ n).filter
          fun a => group a = c := by
  have hfin (mark' : γ → κ) : (finished group key mark' l).filter (fun a => group a = c) =
      (l.filter fun a => group a = c).filter fun a => key a ≤ mark' c := by
    rw [finished,List.filter_filter,List.filter_filter]
    congr 1
    funext a
    by_cases h : group a = c <;> simp [h]
  rw [hfin,hfin]
  by_cases h : c = g
  · subst h
    rw [raise,Function.update_self,filter_le_of_pairwise (hl.filter _)]
    congr 1
    rw [pending,List.filter_filter,List.filter_filter,List.filter_filter]
    congr 1
    funext a
    by_cases ha : group a = c <;> simp [ha,Bool.and_comm]
  · have hnone : ((pending group key mark l).filter fun a => group a = g ∧ key a ≤ n).filter
        (fun a => group a = c) = [] := by
      apply List.filter_eq_nil_iff.mpr
      intro a ha hc
      have hg := (List.mem_filter.mp ha).2
      simp only [decide_eq_true_eq] at hg hc
      exact h (hc.symm.trans hg.1)
    rw [raise,Function.update_of_ne h,hnone,List.append_nil]

end GuestAdditions.Watermark

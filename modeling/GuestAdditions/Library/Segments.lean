import Mathlib.Algebra.BigOperators.Ring.List
import Mathlib.Algebra.Order.BigOperators.Group.List
import Mathlib.Data.List.Basic
import Mathlib.Data.Nat.Notation
import Mathlib.Tactic.Linarith

/-! Pieces of given lengths laid end to end, and the piece that covers an offset. -/
namespace GuestAdditions.Segments

variable {α γ : Type*} {len len' : α → ℕ} {l m : List α} {a : α} {o x : ℕ}

def total (len : α → ℕ) (l : List α) : ℕ := (l.map len).sum

/-- The piece that covers the offset `o`, with the offset inside it. -/
def locate (len : α → ℕ) : List α → ℕ → Option (α × ℕ)
  | [], _ => none
  | a::l, o => if o < len a then some (a,o) else locate len l (o - len a)

@[simp] lemma total_nil : total len [] = 0 := rfl

@[simp] lemma total_cons : total len (a::l) = len a + total len l := by simp [total]

@[simp] lemma total_append : total len (l ++ m) = total len l + total len m := by simp [total]

@[simp] lemma locate_nil : locate len [] o = none := rfl

lemma locate_cons_of_lt (h : o < len a) : locate len (a::l) o = some (a,o) := if_pos h

lemma locate_cons_of_le (h : len a ≤ o) : locate len (a::l) o = locate len l (o - len a) :=
  if_neg (not_lt.mpr h)

lemma locate_append_of_le (h : total len l ≤ o) :
    locate len (l ++ m) o = locate len m (o - total len l) := by
  induction l generalizing o with
  | nil => rfl
  | cons a l ih =>
    rw [total_cons] at h ⊢
    rw [List.cons_append, locate_cons_of_le (by omega), ih (by omega), Nat.sub_sub]

/-- The piece found splits the list at its start. -/
theorem locate_eq_some_iff :
    locate len l o = some (a,x) ↔
      ∃ pre post, l = pre ++ a::post ∧ o = total len pre + x ∧ x < len a := by
  constructor
  · intro h
    induction l generalizing o with
    | nil => simp at h
    | cons b l ih =>
      by_cases hlt : o < len b
      · rw [locate_cons_of_lt hlt] at h
        obtain ⟨rfl,rfl⟩ := Prod.mk.inj (Option.some.inj h)
        exact ⟨[],l,rfl,by simp,hlt⟩
      · rw [locate_cons_of_le (not_lt.mp hlt)] at h
        obtain ⟨pre,post,rfl,ho,hx⟩ := ih h
        exact ⟨b::pre,post,rfl,by rw [total_cons]; omega,hx⟩
  · rintro ⟨pre,post,rfl,rfl,hx⟩
    rw [locate_append_of_le (Nat.le_add_right _ _), Nat.add_sub_cancel_left, locate_cons_of_lt hx]

/-- What holds of every split of a list holds of the split at its head and of those behind it. -/
theorem forall_split_cons {P : List α → α → Prop} :
    (∀ pre c post, a::l = pre ++ c::post → P pre c) ↔
      P [] a ∧ ∀ pre c post, l = pre ++ c::post → P (a::pre) c := by
  constructor
  · intro h
    exact ⟨h [] a l rfl,fun pre c post hsplit => h (a::pre) c post (congrArg (a::·) hsplit)⟩
  · intro ⟨hhead,htail⟩ pre c post hsplit
    cases pre with
    | nil =>
      obtain ⟨rfl,-⟩ := List.cons.inj hsplit
      exact hhead
    | cons b pre =>
      obtain ⟨rfl,hrest⟩ := List.cons.inj hsplit
      exact htail pre c post hrest

/-- Exactly the offsets below the total length are covered. -/
theorem locate_isSome : (locate len l o).isSome ↔ o < total len l := by
  induction l generalizing o with
  | nil => simp
  | cons a l ih =>
    rw [total_cons]
    by_cases h : o < len a
    · simp only [locate_cons_of_lt h, Option.isSome_some, true_iff]
      omega
    · rw [locate_cons_of_le (not_lt.mp h), ih]
      omega

lemma exists_locate (h : o < total len l) : ∃ a x, locate len l o = some (a,x) := by
  obtain ⟨⟨a,x⟩,hax⟩ := Option.isSome_iff_exists.mp (locate_isSome.mpr h)
  exact ⟨a,x,hax⟩

lemma locate_map (f : γ → α) (l : List γ) (o : ℕ) :
    locate len (l.map f) o = (locate (len ∘ f) l o).map (Prod.map f id) := by
  induction l generalizing o with
  | nil => rfl
  | cons c l ih =>
    simp only [List.map_cons, locate, Function.comp_apply]
    split_ifs
    · rfl
    · exact ih _

/-- Lengths that agree before a piece give it the same start. -/
theorem total_congr (h : ∀ a ∈ l, len a = len' a) : total len l = total len' l := by
  rw [total, total, List.map_congr_left h]

lemma locate_congr (h : ∀ a ∈ l, len a = len' a) (o : ℕ) : locate len l o = locate len' l o := by
  induction l generalizing o with
  | nil => rfl
  | cons a l ih =>
    simp only [locate,h a List.mem_cons_self,ih fun b hb => h b (List.mem_cons_of_mem _ hb)]

/-- Lengths that are no longer have the same total only where they agree. -/
theorem total_eq_iff (h : ∀ a ∈ l, len a ≤ len' a) :
    total len l = total len' l ↔ ∀ a ∈ l, len a = len' a := by
  induction l with
  | nil => simp
  | cons a l ih =>
    have htail : ∀ b ∈ l, len b ≤ len' b := fun b hb => h b (List.mem_cons_of_mem _ hb)
    have hle : total len l ≤ total len' l := List.sum_le_sum htail
    rw [total_cons,total_cons,List.forall_mem_cons,← ih htail]
    have := h a List.mem_cons_self
    omega

/-- Pieces of no length do not count. -/
theorem total_filter_ne_zero (len : α → ℕ) (l : List α) :
    total len (l.filter (len · ≠ 0)) = total len l := by
  induction l with
  | nil => rfl
  | cons a l ih =>
    by_cases h0 : len a = 0
    · rw [List.filter_cons_of_neg (by simp [h0]),ih,total_cons,h0,Nat.zero_add]
    · rw [List.filter_cons_of_pos (by simp [h0]),total_cons,total_cons,ih]

lemma dvd_total {d : ℕ} (hlen : ∀ a ∈ l, d ∣ len a) : d ∣ total len l := by
  refine List.dvd_sum fun n hn => ?_
  obtain ⟨b,hb,rfl⟩ := List.mem_map.mp hn
  exact hlen b hb

/-- A common divisor of the lengths divides the offset in the piece found, if it divides the offset
asked for. -/
theorem dvd_locate {d : ℕ} (hlen : ∀ a ∈ l, d ∣ len a) (ho : d ∣ o)
    (h : locate len l o = some (a,x)) : d ∣ x := by
  obtain ⟨pre,post,rfl,rfl,-⟩ := locate_eq_some_iff.mp h
  exact (Nat.dvd_add_right (dvd_total fun b hb => hlen b (List.mem_append_left _ hb))).mp ho

/-- Offsets between two multiples of a common divisor of the lengths lie in one piece. -/
theorem locate_add {d r : ℕ} (hlen : ∀ a ∈ l, d ∣ len a) (ho : d ∣ o) (hr : r < d) :
    locate len l (o+r) = (locate len l o).map fun q => (q.1,q.2+r) := by
  induction l generalizing o with
  | nil => rfl
  | cons a l ih =>
    obtain ⟨c,hc⟩ := hlen a List.mem_cons_self
    obtain ⟨k,rfl⟩ := ho
    by_cases hlt : d*k < len a
    · have hle : d*(k+1) ≤ d*c :=
        Nat.mul_le_mul_left d (Nat.lt_of_mul_lt_mul_left (hc ▸ hlt))
      rw [Nat.mul_succ] at hle
      rw [locate_cons_of_lt hlt,locate_cons_of_lt (by omega)]
      rfl
    · rw [locate_cons_of_le (not_lt.mp hlt),locate_cons_of_le (by omega),
        show d*k+r - len a = d*k - len a+r by omega]
      exact ih (fun b hb => hlen b (List.mem_cons_of_mem _ hb))
        (Nat.dvd_sub (Dvd.intro k rfl) (hlen a List.mem_cons_self))

end GuestAdditions.Segments

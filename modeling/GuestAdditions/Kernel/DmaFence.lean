import GuestAdditions.Kernel.Word
import GuestAdditions.Library.Bytes

/-! What the kernel gives the driver for a `struct dma_fence`: the comparison of two sequence numbers of
one context and the numbers of new contexts. -/
namespace GuestAdditions

/-- `dma_fence_is_later` for a fence without 64-bit sequence numbers:
`(int)(lower_32_bits(f1) - lower_32_bits(f2)) > 0`. -/
def dmaFenceIsLater (f1 f2 : ℕ) : Bool :=
  decide (0 < toS32 (wrap32 (wrap32 f1+(2^32-wrap32 f2))))

/-- `dma_fence_context_alloc`: the first of `num` new contexts, and the counter after them. -/
def dmaFenceContextAlloc (counter num : ℕ) : ℕ × ℕ := (counter,counter+num)

/-- A difference of words is the word of the difference. -/
theorem word_sub {a b m : ℕ} (hm : 0 < m) (h : b ≤ a) : (a % m+(m-b % m)) % m = (a-b) % m := by
  obtain ⟨d,rfl⟩ := Nat.exists_eq_add_of_le h
  have hb := (Nat.mod_lt b hm).le
  rw [Nat.add_mod b d,Nat.mod_add_mod,Nat.add_sub_cancel_left]
  have hsum : b % m+d % m+(m-b % m) = d % m+m := by omega
  rw [hsum,Nat.add_mod_right,Nat.mod_mod]

/-- The same with the sides exchanged. -/
theorem word_sub_neg {a b m : ℕ} (hm : 0 < m) (h : a ≤ b) :
    (a % m+(m-b % m)) % m = (m-(b-a) % m) % m := by
  obtain ⟨d,rfl⟩ := Nat.exists_eq_add_of_le h
  have ha := Nat.mod_lt a hm
  have hd := Nat.mod_lt d hm
  rw [Nat.add_sub_cancel_left,Nat.add_mod a d]
  rcases Nat.lt_or_ge (a % m+d % m) m with hlt | hge
  · rw [Nat.mod_eq_of_lt hlt]
    congr 1
    omega
  · rw [Nat.mod_eq_sub_mod hge,Nat.mod_eq_of_lt (by omega : a % m+d % m-m < m)]
    have hsum : a % m+(m-(a % m+d % m-m)) = m-d % m+m := by omega
    rw [hsum,Nat.add_mod_right]

/-- A positive word is below the sign bit. -/
theorem toS32_pos {n : ℕ} (h : n < 2^32) : 0 < toS32 n ↔ 0 < n ∧ n < 2^31 := by
  unfold toS32
  split <;> omega

lemma isLater_of_le {f1 f2 : ℕ} (h : f2 ≤ f1) :
    dmaFenceIsLater f1 f2 = true ↔ 0 < (f1-f2) % 2^32 ∧ (f1-f2) % 2^32 < 2^31 := by
  have hw : wrap32 (wrap32 f1+(2^32-wrap32 f2)) = (f1-f2) % 2^32 := word_sub (by norm_num) h
  rw [dmaFenceIsLater,decide_eq_true_iff,hw,toS32_pos (Nat.mod_lt _ (by norm_num))]

/-- A fence counts as later than one with a larger number from half the range of a word on. -/
theorem isLater_of_ge {f1 f2 : ℕ} (h : f1 ≤ f2) :
    dmaFenceIsLater f1 f2 = true ↔ 2^31 < (f2-f1) % 2^32 := by
  have hd : (f2-f1) % 2^32 < 2^32 := Nat.mod_lt _ (by norm_num)
  have hw : wrap32 (wrap32 f1+(2^32-wrap32 f2)) = (2^32-(f2-f1) % 2^32) % 2^32 :=
    word_sub_neg (by norm_num) h
  rw [dmaFenceIsLater,decide_eq_true_iff,hw,toS32_pos (Nat.mod_lt _ (by norm_num))]
  omega

/-- Within half the range of a word the comparison is that of the numbers. -/
theorem isLater_iff_lt {f1 f2 : ℕ} (h1 : f1 < f2+2^31) (h2 : f2 < f1+2^31) :
    dmaFenceIsLater f1 f2 = true ↔ f2 < f1 := by
  rcases Nat.le_total f2 f1 with h | h
  · rw [isLater_of_le h,Nat.mod_eq_of_lt (by omega)]
    omega
  · rw [isLater_of_ge h,Nat.mod_eq_of_lt (by omega)]
    omega

lemma isLater_self (f : ℕ) : dmaFenceIsLater f f = false := by
  rw [Bool.eq_false_iff]
  intro h
  have hpos := ((isLater_of_le le_rfl).mp h).1
  simp at hpos

end GuestAdditions

import Mathlib.Data.Nat.Bitwise
import Mathlib.Data.Nat.Log
import Mathlib.Tactic.Linarith
import Mathlib.Tactic.Ring

/-! The kernel's rounding macros on 64-bit words. A word is a natural number; every addition that
the C code performs in 64 bits is reduced modulo `2^64`. -/
namespace GuestAdditions

abbrev PAGE_SIZE : ℕ := 4096
abbrev SZ_2M : ℕ := 2097152

/-- `unsigned long` and `u64`. -/
def wrap64 (n : ℕ) : ℕ := n % 2^64

/-- `(__u32)n`, also the width of a scatterlist length. -/
def wrap32 (n : ℕ) : ℕ := n % 2^32

/-- `x & ~(a - 1)`. -/
def alignDown (x a : ℕ) : ℕ := x - (x &&& (a-1))

/-- `ALIGN(x, a)`, that is `(x + (a - 1)) & ~(a - 1)`. -/
def align (x a : ℕ) : ℕ := alignDown (wrap64 (x+(a-1))) a

/-- `IS_ALIGNED(x, a)`, a bit mask and not a division. -/
def isAligned (x a : ℕ) : Bool := x &&& (a-1) == 0

/-- `DIV_ROUND_UP_ULL(n, d)`. -/
def divRoundUpUll (n d : ℕ) : ℕ := wrap64 (n+(d-1)) / d

/-- `fls_long`: one more than the index of the highest set bit. -/
def flsLong (n : ℕ) : ℕ := if n = 0 then 0 else n.log2+1

/-- `1UL << fls_long(n - 1)`. C leaves a shift by 64 undefined; the processor shifts by the amount
modulo 64. -/
def roundupPowOfTwo (n : ℕ) : ℕ := 2^(flsLong (wrap64 (n+(2^64-1))) % 64)

/-- `1UL << (fls_long(n) - 1)`, with the same remark on a shift by -1. -/
def rounddownPowOfTwo (n : ℕ) : ℕ := 2^((flsLong n+63) % 64)

lemma wrap64_lt (n : ℕ) : wrap64 n < 2^64 := Nat.mod_lt _ (by norm_num)

lemma wrap64_of_lt {n : ℕ} (h : n < 2^64) : wrap64 n = n := Nat.mod_eq_of_lt h

lemma wrap32_lt (n : ℕ) : wrap32 n < 2^32 := Nat.mod_lt _ (by norm_num)

lemma wrap32_of_lt {n : ℕ} (h : n < 2^32) : wrap32 n = n := Nat.mod_eq_of_lt h

/-- For a power of two the mask is the remainder. -/
theorem and_pred_pow (x k : ℕ) : x &&& (2^k-1) = x % 2^k := Nat.and_two_pow_sub_one_eq_mod x k

lemma alignDown_pow (x k : ℕ) : alignDown x (2^k) = x / 2^k * 2^k := by
  have h := Nat.div_add_mod' x (2^k)
  rw [alignDown, and_pred_pow]
  omega

lemma alignDown_le (x a : ℕ) : alignDown x a ≤ x := Nat.sub_le _ _

lemma isAligned_pow (x k : ℕ) : isAligned x (2^k) = true ↔ 2^k ∣ x := by
  simp [isAligned, Nat.dvd_iff_mod_eq_zero]

lemma pageSize_eq : PAGE_SIZE = 2^12 := by norm_num

lemma sz2M_eq : SZ_2M = 2^21 := by norm_num

lemma isAligned_page (x : ℕ) : isAligned x PAGE_SIZE = true ↔ PAGE_SIZE ∣ x := by
  rw [pageSize_eq]
  exact isAligned_pow x 12

lemma dvd_alignDown_page (x : ℕ) : PAGE_SIZE ∣ alignDown x PAGE_SIZE := by
  rw [pageSize_eq, alignDown_pow]
  exact Dvd.intro_left _ rfl

lemma alignDown_page_eq_iff (x : ℕ) : alignDown x PAGE_SIZE = x ↔ PAGE_SIZE ∣ x := by
  constructor
  · intro h
    exact h ▸ dvd_alignDown_page x
  · intro h
    rw [pageSize_eq] at h ⊢
    rw [alignDown_pow]
    exact Nat.div_mul_cancel h

/-- Every result of `ALIGN` to a power of two is a multiple of it, wrapped or not. -/
theorem dvd_align_pow (x k : ℕ) : 2^k ∣ align x (2^k) := by
  rw [align, alignDown_pow]
  exact Dvd.intro_left _ rfl

lemma dvd_align_page (x : ℕ) : PAGE_SIZE ∣ align x PAGE_SIZE := by
  rw [pageSize_eq]
  exact dvd_align_pow x 12

lemma align_lt (x a : ℕ) : align x a < 2^64 := (alignDown_le _ _).trans_lt (wrap64_lt _)

/-- The largest power of two in a word of whole pages is at least a page. For the zero word the
shift count wraps to 63. -/
theorem le_flsLong_pow {x : ℕ} (h : PAGE_SIZE ∣ x) (hx : x < 2^64) : 12 ≤ (flsLong x+63) % 64 := by
  rcases Nat.eq_zero_or_pos x with rfl | hpos
  · simp [flsLong]
  · have hlo : 12 ≤ x.log2 := (Nat.le_log2 hpos.ne').mpr (Nat.le_of_dvd hpos h)
    have hhi : x.log2 < 64 := (Nat.log2_lt hpos.ne').mpr hx
    simp only [flsLong, if_neg hpos.ne']
    omega

/-- A multiple of the alignment is left alone. -/
theorem align_of_dvd {x k : ℕ} (hk : k < 64) (hx : x < 2^64) (h : 2^k ∣ x) :
    align x (2^k) = x := by
  obtain ⟨c,rfl⟩ := h
  have hp : 0 < 2^k := Nat.two_pow_pos k
  have hfit : 2^k*c+(2^k-1) < 2^64 := by
    have hdvd : 2^k ∣ 2^64 := pow_dvd_pow 2 hk.le
    obtain ⟨d,hd⟩ := hdvd
    rw [hd] at hx ⊢
    have hcd : c+1 ≤ d := Nat.lt_of_mul_lt_mul_left hx
    calc 2^k*c+(2^k-1) < 2^k*(c+1) := by rw [Nat.mul_add]; omega
      _ ≤ 2^k*d := Nat.mul_le_mul_left _ hcd
  have hq : (2^k*c+(2^k-1)) / 2^k = c := by
    rw [Nat.mul_add_div hp, Nat.div_eq_of_lt (by omega), Nat.add_zero]
  rw [align, wrap64_of_lt hfit, alignDown_pow, hq, Nat.mul_comm]

lemma align_page_of_dvd {x : ℕ} (hx : x < 2^64) (h : PAGE_SIZE ∣ x) :
    align x PAGE_SIZE = x := by
  rw [pageSize_eq] at *
  exact align_of_dvd (by norm_num) hx h

/-- Unless it wraps to zero, `ALIGN` does not go below its argument, and stays within one unit of
it. -/
theorem align_bounds {x k : ℕ} (hk : k < 64) (hx : x < 2^64) (h : 0 < align x (2^k)) :
    x ≤ align x (2^k) ∧ align x (2^k) < x+2^k := by
  have hp : 0 < 2^k := Nat.two_pow_pos k
  have hle : 2^k ≤ 2^64 := Nat.pow_le_pow_right (by norm_num) hk.le
  have hfit : x+(2^k-1) < 2^64 := by
    by_contra hover
    -- the sum wraps to less than one unit, which the rounding takes to zero
    have hwrap : wrap64 (x+(2^k-1)) = x+(2^k-1) - 2^64 := by
      rw [wrap64, Nat.mod_eq_sub_mod (not_lt.mp hover), Nat.mod_eq_of_lt (by omega)]
    rw [align, hwrap, alignDown_pow, Nat.div_eq_of_lt (by omega)] at h
    simp at h
  have hm := Nat.mod_lt (x+(2^k-1)) hp
  have hd := Nat.div_add_mod' (x+(2^k-1)) (2^k)
  rw [align, wrap64_of_lt hfit, alignDown_pow]
  omega

lemma align_lt_add {x k : ℕ} (hk : k < 64) (hx : x < 2^64) : align x (2^k) < x+2^k := by
  have hp : 0 < 2^k := Nat.two_pow_pos k
  rcases Nat.eq_zero_or_pos (align x (2^k)) with h | h
  · omega
  · exact (align_bounds hk hx h).2

/-- The rounding to pages is exact up to the last page, and then stays below it. -/
theorem align_page_exact {size : ℕ} (h : size+(PAGE_SIZE-1) < 2^64) :
    size ≤ align size PAGE_SIZE ∧ align size PAGE_SIZE < size+PAGE_SIZE ∧
      align size PAGE_SIZE+(PAGE_SIZE-1) < 2^64 := by
  rw [align,wrap64_of_lt h,pageSize_eq,alignDown_pow]
  rw [pageSize_eq] at h
  omega

/-- Without a wrap `ALIGN` does not go below its argument. -/
theorem le_align_pow {x k : ℕ} (h : x+(2^k-1) < 2^64) : x ≤ align x (2^k) := by
  have hp : 0 < 2^k := Nat.two_pow_pos k
  have hm := Nat.mod_lt (x+(2^k-1)) hp
  have hd := Nat.div_add_mod' (x+(2^k-1)) (2^k)
  rw [align,wrap64_of_lt h,alignDown_pow]
  omega

lemma wrap64_pred {n : ℕ} (hpos : 0 < n) (hn : n ≤ 2^64) : wrap64 (n+(2^64-1)) = n-1 := by
  rw [wrap64,show n+(2^64-1) = n-1+2^64 by omega,Nat.add_mod_right,Nat.mod_eq_of_lt (by omega)]

/-- Where the shift is defined, `roundup_pow_of_two` does not go below its argument, and stays below
twice what precedes it. -/
theorem roundupPowOfTwo_bounds {n : ℕ} (hpos : 0 < n) (hn : n ≤ 2^63) :
    n ≤ roundupPowOfTwo n ∧ (1 < n → roundupPowOfTwo n ≤ 2*(n-1)) := by
  rw [roundupPowOfTwo,wrap64_pred hpos (by omega)]
  by_cases h1 : n = 1
  · subst h1
    exact ⟨by decide,fun h => absurd h (by decide)⟩
  · have hne : n-1 ≠ 0 := by omega
    have hlog : (n-1).log2 < 63 := (Nat.log2_lt hne).mpr (by omega)
    have hlow := Nat.log2_self_le hne
    have hhigh := Nat.lt_log2_self (n := n-1)
    rw [flsLong,if_neg hne,Nat.mod_eq_of_lt (by omega)]
    refine ⟨by omega,fun _ => ?_⟩
    rw [pow_succ]
    omega

/-- A power of two is left alone. -/
theorem roundupPowOfTwo_pow {k : ℕ} (hk : k ≤ 63) : roundupPowOfTwo (2^k) = 2^k := by
  have hpos := Nat.two_pow_pos k
  have hle : 2^k ≤ 2^63 := Nat.pow_le_pow_right two_pos hk
  obtain ⟨j,hj⟩ : ∃ j, roundupPowOfTwo (2^k) = 2^j := ⟨_,rfl⟩
  obtain ⟨hlow,hhigh⟩ := roundupPowOfTwo_bounds hpos hle
  by_cases h1 : 2^k = 1
  · rw [h1]
    decide
  · have hup := hhigh (by omega)
    rw [hj] at hlow hup ⊢
    have hkj := (Nat.pow_le_pow_iff_right (by omega)).mp hlow
    have hlt : 2^j < 2^(k+1) := by
      rw [pow_succ]
      omega
    have hjk := (Nat.pow_lt_pow_iff_right (by omega)).mp hlt
    rw [show j = k by omega]

/-- `rounddown_pow_of_two` of a number above zero is the largest power of two up to it. -/
theorem rounddownPowOfTwo_eq {n : ℕ} (hpos : 0 < n) (hn : n < 2^64) :
    rounddownPowOfTwo n = 2^n.log2 := by
  have hlog : n.log2 < 64 := (Nat.log2_lt hpos.ne').mpr hn
  rw [rounddownPowOfTwo,flsLong,if_neg hpos.ne',show n.log2+1+63 = n.log2+64 by omega,
    Nat.add_mod_right,Nat.mod_eq_of_lt hlog]

/-- A number up to a power of two is not rounded up beyond it. -/
theorem roundupPowOfTwo_le_pow {n j : ℕ} (hpos : 0 < n) (hj : j ≤ 63) (h : n ≤ 2^j) :
    roundupPowOfTwo n ≤ 2^j := by
  have hn : n ≤ 2^63 := h.trans (Nat.pow_le_pow_right two_pos hj)
  obtain ⟨i,hi⟩ : ∃ i, roundupPowOfTwo n = 2^i := ⟨_,rfl⟩
  by_cases h1 : n = 1
  · subst h1
    exact (show roundupPowOfTwo 1 = 1 by decide) ▸ Nat.one_le_two_pow
  · have hup := (roundupPowOfTwo_bounds hpos hn).2 (by omega)
    have hlt : roundupPowOfTwo n < 2^(j+1) := by
      rw [pow_succ]
      omega
    rw [hi] at hlt ⊢
    exact Nat.pow_le_pow_right two_pos (Nat.le_of_lt_succ ((Nat.pow_lt_pow_iff_right (by omega)).mp hlt))

/-- A number above half a power of two is rounded up to it at least. -/
theorem pow_le_roundupPowOfTwo {n j : ℕ} (hpos : 0 < n) (hn : n ≤ 2^63) (h : 2^j < 2*n) :
    2^j ≤ roundupPowOfTwo n := by
  obtain ⟨i,hi⟩ : ∃ i, roundupPowOfTwo n = 2^i := ⟨_,rfl⟩
  have hlow := (roundupPowOfTwo_bounds hpos hn).1
  have hlt : 2^j < 2^(i+1) := by
    rw [pow_succ]
    omega
  rw [hi]
  exact Nat.pow_le_pow_right two_pos (Nat.le_of_lt_succ ((Nat.pow_lt_pow_iff_right (by omega)).mp hlt))

lemma roundupPowOfTwo_le (n : ℕ) : roundupPowOfTwo n ≤ 2^63 :=
  Nat.pow_le_pow_right two_pos (Nat.le_of_lt_succ (Nat.mod_lt _ (by norm_num)))

/-- The power of two above a number fits in 64 bits exactly up to `2^63`. -/
theorem flsLong_pred_fits {q : ℕ} (hq : 0 < q) : 2^flsLong (q-1) < 2^64 ↔ q ≤ 2^63 := by
  rw [Nat.pow_lt_pow_iff_right (by norm_num),flsLong]
  by_cases h1 : q-1 = 0
  · rw [if_pos h1]
    omega
  · rw [if_neg h1,show (64 : ℕ) = 63+1 by norm_num,Nat.add_lt_add_iff_right,Nat.log2_lt h1]
    omega

lemma flsLong_fits {s : ℕ} (hs : 0 < s) (h : s < 2^64) : 2^(flsLong s-1) < 2^64 := by
  rw [Nat.pow_lt_pow_iff_right (by norm_num),flsLong,if_neg hs.ne',Nat.add_sub_cancel]
  exact (Nat.log2_lt hs.ne').mpr h

end GuestAdditions

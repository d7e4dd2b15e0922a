import Mathlib.Data.Int.Notation
import Mathlib.Data.List.Basic
import Mathlib.Tactic.Ring

/-! Little-endian integers in byte lists, and the reading of a field in a buffer of which only the
first bytes have been written. -/
namespace GuestAdditions

/-- The number with the given bytes, the least significant first. -/
def leValue : List UInt8 → ℕ
  | [] => 0
  | b::bs => b.toNat+256*leValue bs

/-- The `w` low bytes of a number. -/
def leBytes : ℕ → ℕ → List UInt8
  | 0, _ => []
  | w+1, n => UInt8.ofNat n::leBytes w (n/256)

/-- The field of `w` bytes at offset `off`. -/
def leField (buf : List UInt8) (off w : ℕ) : ℕ := leValue ((buf.drop off).take w)

/-- A buffer of `n` zero bytes after its first bytes have been overwritten. -/
def padTo (n : ℕ) (written : List UInt8) : List UInt8 :=
  written ++ List.replicate (n - written.length) 0

/-- A 32-bit word read as a signed integer. -/
def toS32 (n : ℕ) : ℤ := if n < 2^31 then n else n - 2^32

@[simp] lemma leBytes_length (w n : ℕ) : (leBytes w n).length = w := by
  induction w generalizing n with
  | zero => rfl
  | succ w ih => simp [leBytes, ih]

lemma leValue_leBytes (w n : ℕ) : leValue (leBytes w n) = n % 256^w := by
  induction w generalizing n with
  | zero => simp [leBytes, leValue, Nat.mod_one]
  | succ w ih =>
    rw [leBytes, leValue, ih, pow_succ', Nat.mod_mul, UInt8.toNat_ofNat']

lemma leValue_leBytes_of_lt {w n : ℕ} (h : n < 256^w) : leValue (leBytes w n) = n := by
  rw [leValue_leBytes, Nat.mod_eq_of_lt h]

/-- A field behind an integer of `k` bytes. -/
theorem leField_skip {k off : ℕ} (h : k ≤ off) (n w : ℕ) (buf : List UInt8) :
    leField (leBytes k n ++ buf) off w = leField buf (off - k) w := by
  rw [leField,leField,List.drop_append,leBytes_length,List.drop_of_length_le,List.nil_append]
  rw [leBytes_length]
  exact h

/-- An integer that was written is read back. -/
theorem leField_head {w n : ℕ} (h : n < 256^w) (buf : List UInt8) :
    leField (leBytes w n ++ buf) 0 w = n := by
  rw [leField,List.drop_zero,List.take_append_of_le_length (leBytes_length w n).ge,
    List.take_of_length_le (leBytes_length w n).le,leValue_leBytes_of_lt h]

lemma leValue_lt (l : List UInt8) : leValue l < 256^l.length := by
  induction l with
  | nil => simp [leValue]
  | cons b l ih =>
    have hb : b.toNat < 256 := b.toNat_lt
    rw [leValue, List.length_cons, pow_succ]
    omega

/-- Only zero bytes spell the number 0. -/
theorem leValue_eq_zero {l : List UInt8} : leValue l = 0 ↔ ∀ b ∈ l, b = 0 := by
  induction l with
  | nil => simp [leValue]
  | cons b l ih =>
    simp only [leValue, List.forall_mem_cons, ← ih]
    have hb : b.toNat = 0 ↔ b = 0 := by rw [← UInt8.toNat_inj]; rfl
    rw [← hb]
    omega

lemma leValue_append_zeros (l : List UInt8) (k : ℕ) :
    leValue (l ++ List.replicate k 0) = leValue l := by
  induction l with
  | nil => exact leValue_eq_zero.mpr (fun b hb => List.eq_of_mem_replicate hb)
  | cons b l ih => simp only [List.cons_append, leValue, ih]

lemma padTo_length {n : ℕ} {written : List UInt8} (h : written.length ≤ n) : (padTo n written).length = n := by
  rw [padTo,List.length_append,List.length_replicate]
  omega

/-- The bytes that were not written do not contribute to a field. -/
theorem leField_padTo (n : ℕ) (written : List UInt8) (off w : ℕ) :
    leField (padTo n written) off w = leField written off w := by
  simp only [leField, padTo, List.drop_append, List.take_append, List.drop_replicate,
    List.take_replicate, leValue_append_zeros]

lemma toS32_eq_zero {n : ℕ} (h : n < 2^32) : toS32 n = 0 ↔ n = 0 := by
  unfold toS32
  split_ifs <;> omega

end GuestAdditions

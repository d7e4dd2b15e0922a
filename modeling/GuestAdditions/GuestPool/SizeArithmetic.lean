import GuestAdditions.GuestPool.Doubt
import GuestAdditions.GuestPool.Scatter
import GuestAdditions.GuestPool.WireList

/-! The arithmetic on the size of a blob, from the ioctl to the comparison with the size of the pool. The
sizes for which no step of it leaves 64 bits are those up to a limit that depends on
`guest_pool_max_nents`. -/
namespace GuestAdditions

/-- No step between the request and the comparison wraps 64 bits, and the powers of two are taken only of
numbers above zero and fit. The steps behind the return for a size of zero are taken for other sizes
only, and those on the number of blocks for a positive limit only. -/
structure SizeExact (maxNents : ℤ) (size : ℕ) : Prop where
  pageAlign : size+(PAGE_SIZE-1) < 2^64
  realign : align size PAGE_SIZE+(PAGE_SIZE-1) < 2^64
  ceiling : 0 < maxNents → 0 < align size PAGE_SIZE →
    align size PAGE_SIZE+(maxNents.toNat-1) < 2^64
  roundup : 0 < maxNents → 0 < align size PAGE_SIZE →
    0 < divRoundUpUll (align size PAGE_SIZE) maxNents.toNat ∧
      2^flsLong (divRoundUpUll (align size PAGE_SIZE) maxNents.toNat-1) < 2^64
  rounddown : 0 < maxNents → 0 < align size PAGE_SIZE →
    2^(flsLong (align size PAGE_SIZE)-1) < 2^64
  alignment : 0 < maxNents → 0 < align size PAGE_SIZE →
    align size PAGE_SIZE+((guestPoolRound maxNents (align size PAGE_SIZE)).2-1) < 2^64

/-- What exact arithmetic is for: a size above that of the pool is refused by the comparison, and blocks
that are handed out reach the size asked for. -/
structure SizeArithmetic (maxNents : ℤ) (size : ℕ) : Prop where
  exact : SizeExact maxNents size
  refused : ∀ {σ β : Type} (H : PoolHost σ) (B : DrmBuddy β) (g : Guest σ β), g.pool.size < size →
    g.pool.size < (guestPoolRound maxNents (align size PAGE_SIZE)).1 ∧
      guestPoolAlloc H B maxNents (align size PAGE_SIZE) g = (-ENOMEM,[],g)
  total : ∀ {σ β : Type} (H : PoolHost σ) (B : DrmBuddy β) (g : Guest σ β), B.Sound → B.Sized →
    (guestPoolAlloc H B maxNents (align size PAGE_SIZE) g).1 = 0 →
    size ≤ Segments.total Extent.size (guestPoolAlloc H B maxNents (align size PAGE_SIZE) g).2.1

/-- The unit that a limit leaves free below `2^64`: the least power of two of which the limit and one
more reach `2^64`. -/
def sizeUnit (maxNents : ℤ) : ℕ := 2^(64-(maxNents.toNat+1).log2)

/-- The largest size of a blob that the arithmetic carries. -/
def sizeLimit (maxNents : ℤ) : ℕ := 2^64-(if 0 < maxNents then sizeUnit maxNents else PAGE_SIZE)

/-- The bounds of the unit. -/
structure UnitBounds (n p : ℕ) : Prop where
  page : PAGE_SIZE ∣ p
  fits : p ≤ 2^63
  limit : n ≤ p
  reaches : 2^64 ≤ p*(n+1)
  least : p*(n+2) ≤ 2*2^64

lemma sizeUnit_bounds {n : ℕ} (hpos : 0 < n) (hn : n < 2^31) : UnitBounds n (2^(64-(n+1).log2)) := by
  obtain ⟨l,hl⟩ : ∃ l, (n+1).log2 = l := ⟨_,rfl⟩
  have hlow : 2^l ≤ n+1 := hl ▸ Nat.log2_self_le (Nat.succ_ne_zero n)
  have hhigh : n+1 < 2^(l+1) := hl ▸ Nat.lt_log2_self
  have hl1 : 1 ≤ l := hl ▸ (Nat.le_log2 (Nat.succ_ne_zero n)).mpr (by omega)
  have hl31 : l ≤ 31 := by
    have hlt : l < 32 := hl ▸ (Nat.log2_lt (Nat.succ_ne_zero n)).mpr (by omega)
    omega
  have hsplit : 2^(64-l)*2^l = 2^64 := by
    rw [← pow_add,Nat.sub_add_cancel (by omega)]
  rw [hl]
  refine ⟨?_,Nat.pow_le_pow_right two_pos (by omega),?_,?_,?_⟩
  · rw [pageSize_eq]
    exact pow_dvd_pow 2 (by omega)
  · have hunit : 2^33 ≤ 2^(64-l) := Nat.pow_le_pow_right two_pos (by omega)
    exact hn.le.trans (le_trans (by norm_num) hunit)
  · exact hsplit ▸ Nat.mul_le_mul_left _ hlow
  · calc 2^(64-l)*(n+2) ≤ 2^(64-l)*2^(l+1) := Nat.mul_le_mul_left _ hhigh
      _ = 2*2^64 := by rw [pow_succ,← Nat.mul_assoc,hsplit,Nat.mul_comm]

/-- The unit of a limit, whole pages or one page, leaves room for the pages of exactly the sizes that it
leaves room for. -/
theorem align_page_le_iff {size p : ℕ} (hpage : PAGE_SIZE ∣ p) (hpos : 0 < p) (hp : p ≤ 2^64) :
    size ≤ 2^64-p ↔ size+(PAGE_SIZE-1) < 2^64 ∧ align size PAGE_SIZE ≤ 2^64-p := by
  obtain ⟨c,hc⟩ : PAGE_SIZE ∣ 2^64-p := Nat.dvd_sub (by norm_num) hpage
  have hle : PAGE_SIZE ≤ p := Nat.le_of_dvd hpos hpage
  have hroom : 2^64-p+PAGE_SIZE ≤ 2^64 := by omega
  constructor
  · intro h
    have hfit : size+(PAGE_SIZE-1) < 2^64 := by
      simp only [PAGE_SIZE] at *
      omega
    obtain ⟨d,hd⟩ := dvd_align_page size
    have hlt := (align_page_exact hfit).2.1
    refine ⟨hfit,?_⟩
    simp only [PAGE_SIZE] at *
    omega
  · intro ⟨hfit,h⟩
    exact (align_page_exact hfit).1.trans h

section Pages
variable {maxNents : ℤ} {n p s : ℕ}

/-- Where the limit leaves the unit free, the ceiling of the division is exact and stays within the
unit. -/
theorem UnitBounds.ceiling (hu : UnitBounds n p) (hn : 0 < n) (hs : 0 < s) (h : s ≤ 2^64-p) :
    s+(n-1) < 2^64 ∧ 0 < divRoundUpUll s n ∧ divRoundUpUll s n ≤ p := by
  have hfits := hu.fits
  have hlimit := hu.limit
  have hreaches := hu.reaches
  have hceil : s+(n-1) < 2^64 := by omega
  obtain ⟨hlow,hhigh⟩ := divRoundUpUll_bounds hn hceil
  refine ⟨hceil,?_,?_⟩
  · by_contra h0
    rw [Nat.eq_zero_of_not_pos h0,Nat.mul_zero] at hlow
    omega
  · have hlt : n*(divRoundUpUll s n-1) < n*p := by
      rw [Nat.mul_succ,Nat.mul_comm] at hreaches
      omega
    have := Nat.lt_of_mul_lt_mul_left hlt
    omega

/-- Beyond it, an exact ceiling is rounded up to the unit at least. -/
theorem UnitBounds.le_roundup {j : ℕ} (hu : UnitBounds n (2^j)) (hn : 0 < n) (h : 2^64-2^j < s)
    (hceil : s+(n-1) < 2^64) (hq : 0 < divRoundUpUll s n) (hfit : divRoundUpUll s n ≤ 2^63) :
    2^j ≤ roundupPowOfTwo (divRoundUpUll s n) := by
  obtain ⟨hlow,-⟩ := divRoundUpUll_bounds hn hceil
  refine pow_le_roundupPowOfTwo hq hfit ?_
  by_contra hsmall
  have hleast := hu.least
  have hmul : n*(2*divRoundUpUll s n) ≤ n*2^j := Nat.mul_le_mul_left n (not_lt.mp hsmall)
  rw [Nat.mul_left_comm] at hmul
  rw [Nat.mul_add,Nat.mul_comm] at hleast
  omega

/-- A size that leaves less than half of the words free exceeds every power of two. -/
theorem lt_of_unit_lt {p r : ℕ} (hp : p ≤ 2^63) (hr : r ≤ 2^63) (h : 2^64-p < s) : r < s :=
  calc r ≤ 2^63 := hr
    _ = 2^64-2^63 := by norm_num
    _ ≤ 2^64-p := Nat.sub_le_sub_left hp _
    _ < s := h

/-- Free room for a unit is room to align to any smaller one. -/
theorem add_pred_lt_of_le {W p m : ℕ} (hpos : 0 < p) (hp : p ≤ W) (hm : m ≤ p)
    (h : s ≤ W-p) : s+(m-1) < W := by
  omega

/-- Without that room the alignment wraps. -/
theorem le_add_pred_of_lt {W p m : ℕ} (hm : p ≤ m) (h : W-p < s) : W ≤ s+(m-1) := by
  omega

/-- The minimum block size of whole pages, for a positive limit. -/
theorem guestPoolRound_minBs (hmax : 0 < maxNents) (hpage : PAGE_SIZE ∣ s) (hlt : s < 2^64) :
    (guestPoolRound maxNents s).2 =
      if s < max PAGE_SIZE (roundupPowOfTwo (divRoundUpUll s maxNents.toNat)) then
        rounddownPowOfTwo s
      else max PAGE_SIZE (roundupPowOfTwo (divRoundUpUll s maxNents.toNat)) := by
  simp only [guestPoolRound,if_pos hmax,align_page_of_dvd hlt hpage]

/-- The minimum block size stays within the unit exactly where the limit leaves the unit free. -/
theorem roundFits_iff (hmax : 0 < maxNents) (hint : maxNents < 2^31) (hpage : PAGE_SIZE ∣ s)
    (hs : 0 < s) (hlt : s+(PAGE_SIZE-1) < 2^64) :
    RoundFits maxNents s ∧ 0 < divRoundUpUll s maxNents.toNat ↔ s ≤ 2^64-sizeUnit maxNents := by
  have hn : 0 < maxNents.toNat := by omega
  have hs64 : s < 2^64 := lt_of_le_of_lt (Nat.le_add_right _ _) hlt
  have hu : UnitBounds maxNents.toNat (sizeUnit maxNents) := sizeUnit_bounds hn (by omega)
  have hminBs := guestPoolRound_minBs hmax hpage hs64
  constructor
  · intro ⟨hfits,hq⟩
    by_contra hover
    have hup : sizeUnit maxNents ≤ roundupPowOfTwo (divRoundUpUll s maxNents.toNat) :=
      hu.le_roundup hn (not_le.mp hover) hfits.ceiling hq hfits.power
    have halign := hfits.alignment
    rw [hminBs] at halign
    split_ifs at halign with hcap
    · -- the cap applies to sizes below the power of two, and these leave the unit free
      have hpages : PAGE_SIZE ≤ s := Nat.le_of_dvd hs hpage
      have hless := (lt_max_iff.mp hcap).resolve_left (not_lt.mpr hpages)
      exact lt_asymm hless (lt_of_unit_lt hu.fits (roundupPowOfTwo_le _) (not_le.mp hover))
    · have hle := hup.trans (le_max_right PAGE_SIZE _)
      exact absurd halign (not_lt.mpr (le_add_pred_of_lt hle (not_le.mp hover)))
  · intro h
    obtain ⟨hceil,hq,hle⟩ := hu.ceiling hn hs h
    have hpow : roundupPowOfTwo (divRoundUpUll s maxNents.toNat) ≤ sizeUnit maxNents :=
      roundupPowOfTwo_le_pow hq ((Nat.pow_le_pow_iff_right (by norm_num)).mp hu.fits) hle
    have hmin : (guestPoolRound maxNents s).2 ≤ sizeUnit maxNents := by
      have hpages : PAGE_SIZE ≤ sizeUnit maxNents := Nat.le_of_dvd (Nat.two_pow_pos _) hu.page
      rw [hminBs]
      split_ifs with hcap
      · rw [rounddownPowOfTwo_eq hs hs64]
        exact (Nat.log2_self_le hs.ne').trans (hcap.le.trans (max_le hpages hpow))
      · exact max_le hpages hpow
    have hword : sizeUnit maxNents ≤ 2^64 := hu.fits.trans (by norm_num)
    exact ⟨⟨hceil,hle.trans hu.fits,add_pred_lt_of_le (Nat.two_pow_pos _) hword hmin h⟩,hq⟩

end Pages

variable {maxNents : ℤ} {size : ℕ}

/-- The arithmetic is exact when the rounding to pages is, and that to blocks of a size above zero. -/
theorem sizeExact_iff_roundFits : SizeExact maxNents size ↔ size+(PAGE_SIZE-1) < 2^64 ∧
    (0 < maxNents → 0 < align size PAGE_SIZE → RoundFits maxNents (align size PAGE_SIZE) ∧
      0 < divRoundUpUll (align size PAGE_SIZE) maxNents.toNat) := by
  constructor
  · intro h
    refine ⟨h.pageAlign,fun hmax hs => ⟨⟨h.ceiling hmax hs,?_,h.alignment hmax hs⟩,?_⟩⟩
    · obtain ⟨hq,hfit⟩ := h.roundup hmax hs
      exact (flsLong_pred_fits hq).mp hfit
    · exact (h.roundup hmax hs).1
  · intro ⟨hfit,h⟩
    exact {
      pageAlign := hfit
      realign := (align_page_exact hfit).2.2
      ceiling := fun hmax hs => (h hmax hs).1.ceiling
      roundup := fun hmax hs => ⟨(h hmax hs).2,(flsLong_pred_fits (h hmax hs).2).mpr (h hmax hs).1.power⟩
      rounddown := fun _ hs => flsLong_fits hs (align_lt _ _)
      alignment := fun hmax hs => (h hmax hs).1.alignment }

lemma sizeExact_iff (hint : maxNents < 2^31) : SizeExact maxNents size ↔ size ≤ sizeLimit maxNents := by
  rw [sizeExact_iff_roundFits,sizeLimit]
  split_ifs with hmax
  · have hn : 0 < maxNents.toNat := by omega
    have hu : UnitBounds maxNents.toNat (sizeUnit maxNents) := sizeUnit_bounds hn (by omega)
    have hword : sizeUnit maxNents ≤ 2^64 := hu.fits.trans (by norm_num)
    rw [align_page_le_iff hu.page (Nat.two_pow_pos _) hword]
    refine and_congr_right fun hfit => ?_
    rcases Nat.eq_zero_or_pos (align size PAGE_SIZE) with h0 | hs
    · simp [h0]
    · simp only [hmax,hs,true_imp_iff]
      exact roundFits_iff hmax hint (dvd_align_page _) hs (align_page_exact hfit).2.2
  · simp only [hmax,false_imp_iff,and_true,PAGE_SIZE]
    omega

/-- Exact rounding does not go below its argument. -/
theorem SizeExact.le_round (h : SizeExact maxNents size) (hpos : 0 < size) :
    size ≤ (guestPoolRound maxNents (align size PAGE_SIZE)).1 := by
  have hle := (align_page_exact h.pageAlign).1
  obtain ⟨k,-,-,hminBs,hround⟩ := guestPoolRound_align maxNents (align size PAGE_SIZE)
  rw [align_page_of_dvd (align_lt _ _) (dvd_align_page _)] at hround
  by_cases hmax : 0 < maxNents
  · have halign := h.alignment hmax (hpos.trans_le hle)
    rw [hminBs] at halign
    rw [hround]
    exact hle.trans (le_align_pow halign)
  · simp only [guestPoolRound,hmax,if_false,align_page_of_dvd (align_lt _ _) (dvd_align_page _)]
    exact hle

/-- For every 64-bit size and every value of `guest_pool_max_nents`, the arithmetic is exact, and decides
what it is meant to decide, exactly up to the limit. -/
theorem sizeArithmetic_iff (maxNents : Int32) (size : UInt64) :
    SizeArithmetic maxNents.toInt size.toNat ↔ size.toNat ≤ sizeLimit maxNents.toInt := by
  rw [← sizeExact_iff maxNents.toInt_lt]
  constructor
  · exact fun h => h.exact
  · intro h
    refine ⟨h,fun H B g hlt => ?_,fun H B g hB hS hok => ?_⟩
    · have hover := hlt.trans_le (h.le_round (Nat.zero_lt_of_lt hlt))
      exact ⟨hover,guestPoolAlloc_refused (.inr hover)⟩
    · have htotal := guestPoolAlloc_total hB hS hok
      rw [align_page_of_dvd (align_lt _ _) (dvd_align_page _)] at htotal
      exact (align_page_exact h.pageAlign).1.trans htotal

/-- With the default of 65536 entries a blob of 64 KiB less than `2^64` bytes is rounded to a request for
no bytes, which a pool of one page does not refuse: it asks the allocator for them. -/
theorem sizeArithmetic_wrapped :
    let size := 0xffffffffffff0000
    let g : Guest Unit FirstFit := ⟨⟨0x100000000,0x1000,0,0x1000,0x1000,0,true,false⟩,⟨0x1000,[]⟩,(),[]⟩
    align size PAGE_SIZE = size ∧ guestPoolRound 65536 size = (0,2^48) ∧
      (guestPoolAlloc PoolHost.willing FirstFit.buddy 65536 size g).1 = -EINVAL ∧
      ¬ SizeArithmetic 65536 size := by
  intro size g
  have hround : guestPoolRound 65536 size = (0,2^48) := by decide +kernel
  have hpages : align size PAGE_SIZE = size := by decide +kernel
  refine ⟨hpages,hround,by decide +kernel,fun h => ?_⟩
  have hover := (h.refused PoolHost.willing FirstFit.buddy g (by decide +kernel)).1
  rw [hpages,hround] at hover
  exact absurd hover (Nat.not_lt_zero _)

end GuestAdditions

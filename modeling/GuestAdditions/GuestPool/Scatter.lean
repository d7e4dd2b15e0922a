import GuestAdditions.GuestPool.Create
import GuestAdditions.GuestPool.Growth
import Mathlib.Algebra.Order.BigOperators.Group.List

/-! How many blocks one allocation scatters into. The minimum block size keeps their number within
`guest_pool_max_nents`, but for a limit of one the cap on that size rounds it down again. -/
namespace GuestAdditions

/-- No step of the rounding leaves 64 bits: the ceiling of the division, the power of two above it, and
the final alignment. -/
structure RoundFits (maxNents : ℤ) (size : ℕ) : Prop where
  ceiling : size+(maxNents.toNat-1) < 2^64
  power : divRoundUpUll size maxNents.toNat ≤ 2^63
  alignment : size+((guestPoolRound maxNents size).2-1) < 2^64

variable {maxNents : ℤ} {size : ℕ}

/-- Without an overflow `DIV_ROUND_UP_ULL` is the least quotient that reaches the number. -/
theorem divRoundUpUll_bounds {n d : ℕ} (hd : 0 < d) (h : n+(d-1) < 2^64) :
    n ≤ d*divRoundUpUll n d ∧ d*(divRoundUpUll n d-1) ≤ n-1 := by
  have hdiv := Nat.div_add_mod (n+(d-1)) d
  have hmod := Nat.mod_lt (n+(d-1)) hd
  rw [divRoundUpUll,wrap64_of_lt h,Nat.mul_sub]
  omega

lemma two_le_toNat (hmax : 0 < maxNents) (hone : maxNents ≠ 1) : 2 ≤ maxNents.toNat := by
  omega

/-- Unless the limit is one and the size is not a power of two, the limit times the minimum block size
reaches the size. -/
theorem guestPoolRound_reaches (hmax : 0 < maxNents) (hpage : PAGE_SIZE ∣ size) (hpos : 0 < size)
    (hfits : RoundFits maxNents size) (h : maxNents ≠ 1 ∨ ∃ k, size = 2^k) :
    size ≤ maxNents.toNat*(guestPoolRound maxNents size).2 := by
  have hn : 0 < maxNents.toNat := by omega
  have hlt : size < 2^64 := lt_of_le_of_lt (Nat.le_add_right _ _) hfits.ceiling
  have hle : PAGE_SIZE ≤ size := Nat.le_of_dvd hpos hpage
  obtain ⟨hreach,hceil⟩ := divRoundUpUll_bounds hn hfits.ceiling
  have hq : 0 < divRoundUpUll size maxNents.toNat := by
    by_contra h0
    rw [Nat.eq_zero_of_not_pos h0,Nat.mul_zero] at hreach
    omega
  obtain ⟨hup,hdouble⟩ := roundupPowOfTwo_bounds hq hfits.power
  have hbound : size ≤ maxNents.toNat*
      max PAGE_SIZE (roundupPowOfTwo (divRoundUpUll size maxNents.toNat)) :=
    hreach.trans (Nat.mul_le_mul_left _ (hup.trans (le_max_right _ _)))
  simp only [guestPoolRound,if_pos hmax,align_page_of_dvd hlt hpage]
  split_ifs with hcap
  · -- the cap applies only when the power of two above the ceiling exceeds the size
    exfalso
    have hover : size < roundupPowOfTwo (divRoundUpUll size maxNents.toNat) :=
      (lt_max_iff.mp hcap).resolve_left (not_lt.mpr hle)
    by_cases hone : maxNents = 1
    · obtain ⟨k,rfl⟩ := h.resolve_left (not_not.mpr hone)
      have hpower := hfits.power
      have hself : divRoundUpUll (2^k) maxNents.toNat = 2^k := by
        rw [hone] at hreach hceil ⊢
        simp only [Int.toNat_one,Nat.one_mul] at hreach hceil ⊢
        omega
      rw [hself] at hover hpower
      rw [roundupPowOfTwo_pow ((Nat.pow_le_pow_iff_right (by omega)).mp hpower)] at hover
      exact lt_irrefl _ hover
    · have hlimit : 2 ≤ maxNents.toNat := two_le_toNat hmax hone
      by_cases hq1 : divRoundUpUll size maxNents.toNat = 1
      · rw [hq1] at hover
        exact absurd hover (not_lt.mpr (le_trans (by decide) hle))
      · have hsmall := hdouble (lt_of_le_of_ne hq (Ne.symm hq1))
        have hless := hsmall.trans ((Nat.mul_le_mul_right _ hlimit).trans hceil)
        exact absurd (hover.trans_le hless) (not_lt.mpr (Nat.sub_le _ _))
  · exact hbound

section Bound
variable {σ β : Type} {H : PoolHost σ} {B : DrmBuddy β}

/-- In any state of the pool, the list of a served request has at most the limit of blocks. -/
theorem guestPoolAlloc_scatter (hB : B.Sound) (hS : B.Sized) {g : Guest σ β} (hmax : 0 < maxNents)
    (hpage : PAGE_SIZE ∣ size) (hpos : 0 < size) (hfits : RoundFits maxNents size)
    (h : maxNents ≠ 1 ∨ ∃ k, size = 2^k) (hok : (guestPoolAlloc H B maxNents size g).1 = 0) :
    (guestPoolAlloc H B maxNents size g).2.1.length ≤ maxNents.toNat := by
  have hlt : size < 2^64 := lt_of_le_of_lt (Nat.le_add_right _ _) hfits.ceiling
  have hreach := guestPoolRound_reaches hmax hpage hpos hfits h
  obtain ⟨g',mm',-,asked⟩ := guestPoolAlloc_served (H := H) hB hok
  obtain ⟨k,-,hk,hminBs,hsize⟩ := guestPoolRound_align maxNents size
  rw [align_page_of_dvd hlt hpage] at hsize
  rw [hminBs] at asked hreach
  have htotal := hS.total asked (hsize ▸ dvd_align_pow _ _)
  have hcount : (guestPoolAlloc H B maxNents size g).2.1.length*2^k ≤ align size (2^k) := by
    rw [← hsize,← htotal,← List.length_map (f := Extent.size)]
    refine List.card_nsmul_le_sum _ _ fun n hn => ?_
    obtain ⟨b,hb,rfl⟩ := List.mem_map.mp hn
    exact hS.block_le asked b hb
  have hbelow : (guestPoolAlloc H B maxNents size g).2.1.length*2^k < (maxNents.toNat+1)*2^k := by
    rw [Nat.succ_mul]
    exact (hcount.trans_lt (align_lt_add hk hlt)).trans_le (Nat.add_le_add_right hreach _)
  exact Nat.le_of_lt_succ (Nat.lt_of_mul_lt_mul_right hbelow)

end Bound

/-- In every reachable state of every accepted pool, over any allocator, a request of this size stays
within the limit, and the check in `virtio_gpu_guest_pool_create` does not find it exceeded. -/
def ScatterBounded (maxNents : ℤ) (size : ℕ) : Prop :=
  ∀ {σ β : Type} (H : PoolHost σ) (B : DrmBuddy β), B.Sound → B.Sized →
    ∀ reservedMemory ret p mm, guestPoolInit B reservedMemory = (ret,some (p,mm)) →
      ∀ (host : σ) (events : List PoolEvent),
        let g := ((PoolClient.start p mm host).run H B events).guest
        ((guestPoolAlloc H B maxNents size g).1 = 0 →
            ((guestPoolAlloc H B maxNents size g).2.1.length : ℤ) ≤ maxNents) ∧
          (guestPoolCreate H B maxNents maxNents .willing size g).1 ≠ -ENOSPC

lemma add_pred_div_eq_two {x m : ℕ} (hlow : m < x) (hhigh : x < 2*m) : (x+(m-1))/m = 2 := by
  apply Nat.div_eq_of_lt_le
  · omega
  · omega

/-- For a limit of one a size between two powers of two is rounded up to two blocks of the lower. -/
theorem guestPoolRound_one (hpage : PAGE_SIZE ∣ size) (hpos : 0 < size) (hfits : RoundFits 1 size)
    (hnot : ¬ ∃ k, size = 2^k) : guestPoolRound 1 size = (2*2^size.log2,2^size.log2) := by
  have hlt : size < 2^64 := lt_of_le_of_lt (Nat.le_add_right _ _) hfits.ceiling
  have hself : divRoundUpUll size 1 = size := by
    simp [divRoundUpUll,wrap64_of_lt hlt]
  have hpower : size ≤ 2^63 := by simpa [hself] using hfits.power
  have hover : size < max PAGE_SIZE (roundupPowOfTwo size) :=
    lt_max_of_lt_right (lt_of_le_of_ne (roundupPowOfTwo_bounds hpos hpower).1
      fun heq => hnot ⟨_,heq⟩)
  have hcap : (guestPoolRound 1 size).2 = 2^size.log2 := by
    simp only [guestPoolRound,Int.zero_lt_one,if_true,align_page_of_dvd hlt hpage,Int.toNat_one,hself,
      if_pos hover,rounddownPowOfTwo_eq hpos hlt]
  have hlow : 2^size.log2 < size :=
    lt_of_le_of_ne (Nat.log2_self_le hpos.ne') fun heq => hnot ⟨_,heq.symm⟩
  have hhigh : size < 2*2^size.log2 := by
    have := Nat.lt_log2_self (n := size)
    rwa [Nat.pow_succ'] at this
  have hfit : size+(2^size.log2-1) < 2^64 := hcap ▸ hfits.alignment
  have htwo : align size (2^size.log2) = 2*2^size.log2 := by
    rw [align,wrap64_of_lt hfit,alignDown_pow,add_pred_div_eq_two hlow hhigh]
  refine Prod.ext ?_ hcap
  rw [← htwo,← hcap]
  simp only [guestPoolRound,Int.zero_lt_one,if_true,align_page_of_dvd hlt hpage,Int.toNat_one,hself,
    if_pos hover]

/-- A node that carries only a `reg` of `n` bytes. -/
def regNode (n : ℕ) : DtNode := ⟨"gpu_guest",some (0x100000000,UInt64.ofNat n),none,none,none,none⟩

/-- Whole pages make a pool that is shared in full before boot. -/
theorem guestPoolInit_regNode {n : ℕ} (hpage : PAGE_SIZE ∣ n) (hpos : 0 < n) (hlt : n < 2^64) :
    guestPoolInit FirstFit.buddy (some [regNode n]) =
      (0,some (⟨0x100000000,n,0,n,n,0,true,false⟩,⟨n,[]⟩)) := by
  have hlayout : dtLayout [regNode n] = ⟨0x100000000,n,n,0,0⟩ := by
    have hn : (UInt64.ofNat n).toNat = n := UInt64.toNat_ofNat_of_lt' hlt
    have hprefix : "gpu_guest".toList.isPrefixOf (regNode n).name.toList = true :=
      show "gpu_guest".toList.isPrefixOf "gpu_guest".toList = true by decide
    simp only [dtLayout,if_pos hprefix]
    simp [regNode,DtNode.layout,hn]
  simp [guestPoolInit,hlayout,hpos.ne',(alignDown_page_eq_iff n).mpr hpage,
    (isAligned_page n).mpr hpage,FirstFit.buddy]

/-- Any other size is answered with two blocks by a fresh pool of just the rounded size. -/
theorem not_scatterBounded_one (hpage : PAGE_SIZE ∣ size) (hpos : 0 < size) (hfits : RoundFits 1 size)
    (hnot : ¬ ∃ k, size = 2^k) : ¬ ScatterBounded 1 size := by
  intro hbound
  have hlt : size < 2^64 := lt_of_le_of_lt (Nat.le_add_right _ _) hfits.ceiling
  have hround := guestPoolRound_one hpage hpos hfits hnot
  obtain ⟨k,hk,-,hminBs,hsize⟩ := guestPoolRound_align 1 size
  replace hminBs : 2^size.log2 = 2^k := by rwa [hround] at hminBs
  replace hsize : 2*2^size.log2 = align (align size PAGE_SIZE) (2^k) := by rwa [hround] at hsize
  have hpool : 2*2^size.log2 < 2^64 := hsize ▸ align_lt _ _
  have hpages : PAGE_SIZE ∣ 2*2^size.log2 := by
    refine Dvd.dvd.mul_left ?_ 2
    rw [hminBs,pageSize_eq]
    exact pow_dvd_pow 2 hk
  have hm : 0 < 2^size.log2 := Nat.two_pow_pos _
  have hinit := guestPoolInit_regNode hpages (Nat.mul_pos two_pos hm) hpool
  obtain ⟨-,-,-,hgranted⟩ := guestPoolAlloc_least FirstFit.buddy_sound FirstFit.buddy_complete hinit
    PoolHost.willing () [] 1 hpos.ne' (by rw [hround]; exact Nat.mul_pos two_pos hm)
  have hok := (hgranted _ PoolHost.willing_granting trivial).mpr
    ⟨_,mem_grid_self _ _,le_rfl,by
      rw [hround]
      exact capacity_of_avoids hm (dvd_zero _) (Nat.dvd_mul_left _ _) (by simp [PoolClient.run,
        PoolClient.start,FirstFit.buddy])⟩
  obtain ⟨g',mm',-,asked⟩ := guestPoolAlloc_served FirstFit.buddy_sound hok
  have hlen := FirstFit.alloc_length asked
  rw [hround,Nat.mul_div_cancel _ hm] at hlen
  have hle := (hbound PoolHost.willing FirstFit.buddy FirstFit.buddy_sound FirstFit.buddy_sized _ _ _ _
    hinit () []).1 hok
  rw [hlen] at hle
  exact absurd hle (by decide)

/-- For a positive limit and whole pages whose rounding stays in 64 bits, every allocation in every
reachable state keeps to the limit exactly when the limit is not one or the size is a power of
two. -/
theorem scatterBounded_iff (hmax : 0 < maxNents) (hpage : PAGE_SIZE ∣ size) (hpos : 0 < size)
    (hfits : RoundFits maxNents size) :
    ScatterBounded maxNents size ↔ maxNents ≠ 1 ∨ ∃ k, size = 2^k := by
  constructor
  · intro hbound
    by_contra hnot
    obtain ⟨hone,hpow⟩ := not_or.mp hnot
    obtain rfl := not_not.mp hone
    exact not_scatterBounded_one hpage hpos hfits hpow hbound
  · intro h σ β H B hB hS reservedMemory ret p mm hinit host events g
    have hlt : size < 2^64 := lt_of_le_of_lt (Nat.le_add_right _ _) hfits.ceiling
    have hscatter : (guestPoolAlloc H B maxNents size g).1 = 0 →
        ((guestPoolAlloc H B maxNents size g).2.1.length : ℤ) ≤ maxNents := by
      intro hok
      have hle := guestPoolAlloc_scatter hB hS hmax hpage hpos hfits h hok
      exact (Int.le_toNat hmax.le).mp hle
    refine ⟨hscatter,fun hfire => ?_⟩
    obtain ⟨hok,-,hexceeded⟩ := guestPoolCreate_enospc hfire
    rw [align_page_of_dvd hlt hpage] at hok hexceeded
    have hle : wrap32 (guestPoolAlloc H B maxNents size g).2.1.length ≤
        (guestPoolAlloc H B maxNents size g).2.1.length := Nat.mod_le _ _
    exact absurd (hexceeded.trans_le ((Int.ofNat_le.mpr hle).trans (hscatter hok))) (lt_irrefl _)

/-- With a limit of 3 entries, 5 pages. -/
theorem scatterBounded_three : ScatterBounded 3 0x5000 ↔ (3 : ℤ) ≠ 1 ∨ ∃ k, 0x5000 = 2^k :=
  scatterBounded_iff (by decide) (by decide) (by decide) ⟨by decide,by decide,by decide⟩

/-- In a pool of 8 pages the first and the fifth are taken. With a limit of one entry a request for three
pages is answered with two blocks of two pages, and the check in `virtio_gpu_guest_pool_create`
refuses them. -/
theorem guestPoolAlloc_two_blocks :
    let p : GuestPool := ⟨0x100000000,0x8000,0,0x8000,0x8000,0,true,false⟩
    let g := ((PoolClient.start p ⟨0x8000,[]⟩ ()).run PoolHost.willing FirstFit.buddy
      [.alloc 1 0x4000,.alloc 1 0x1000,.free 1,.alloc 1 0x1000]).guest
    let a := guestPoolAlloc PoolHost.willing FirstFit.buddy 1 0x3000 g
    guestPoolInit FirstFit.buddy (some [gpuGuestNode 0x8000 0x8000 0]) = (0,some (p,⟨0x8000,[]⟩)) ∧
      (0x3000+((1 : ℤ).toNat-1) < 2^64 ∧ divRoundUpUll 0x3000 (1 : ℤ).toNat ≤ 2^63 ∧
        0x3000+((guestPoolRound 1 0x3000).2-1) < 2^64) ∧
      a.1 = 0 ∧ ¬ (a.2.1.length : ℤ) ≤ 1 ∧
      (guestPoolCreate PoolHost.willing FirstFit.buddy 1 1 .willing 0x3000 g).1 = -ENOSPC := by
  decide +kernel

end GuestAdditions

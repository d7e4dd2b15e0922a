import GuestAdditions.GuestPool.Growth

/-! Which allocations succeed when the host grants every further grow, compared with the figure that
`virtio_gpu_guest_pool_stats` reports as the largest one. -/
namespace GuestAdditions

/-- The highest boundary that growing can still reach. -/
def GuestPool.top (p : GuestPool) : ℕ := p.backed+(p.size - p.backed)/p.step*p.step

namespace GuestPool
variable {p : GuestPool}

lemma top_le_size (h : p.backed ≤ p.size) : p.top ≤ p.size := by
  have := Nat.div_mul_le_self (p.size - p.backed) p.step
  unfold top
  omega

/-- No boundary of the grid inside the pool is higher. -/
theorem le_top {b : ℕ} (hb : b ∈ grid p.backed p.step) (hle : b ≤ p.size) : b ≤ p.top := by
  obtain ⟨k,rfl⟩ := hb
  refine Nat.add_le_add_left ?_ _
  rcases Nat.eq_zero_or_pos p.step with h0 | hpos
  · rw [h0,Nat.mul_zero]
    exact Nat.zero_le _
  · exact Nat.mul_le_mul_right _ ((Nat.le_div_iff_mul_le hpos).mpr (by omega))

end GuestPool

variable {σ β : Type} {H : PoolHost σ} {B : DrmBuddy β} {p₀ : GuestPool} {g : Guest σ β}
  {ok : σ → Prop}

/-- Some boundary is feasible exactly when the highest one is. -/
theorem Guest.Safe.feasible_iff_top (hg : g.Safe B p₀) {size m : ℕ} :
    (∃ b, g.Feasible B p₀ size m b) ↔ size ≤ capacity (B.live g.mm) m 0 g.pool.top := by
  have hsize := hg.bounded.size_eq
  constructor
  · intro ⟨b,hb,hle,hcap⟩
    exact hcap.trans (capacity_mono _ _ _ (GuestPool.le_top hb (hle.trans_eq hsize.symm)))
  · intro hcap
    exact ⟨g.pool.top,⟨_,rfl⟩,hsize ▸ GuestPool.top_le_size (hsize ▸ hg.bounded.ceiling),hcap⟩

/-- A request for nothing is made to the allocator at once, which refuses it. -/
theorem allocLoop_zero (hC : B.Complete) (minBs : ℕ) (g : Guest σ β) :
    (allocLoop H B 0 minBs g).1 = -EINVAL := by
  have hgrow : growTo H B 0 g = (0,g) := Loop.run_done _ (if_neg (Nat.not_lt_zero _))
  have hret := hC.alloc_zero g.mm 0 g.pool.backed minBs
  have hstop : (-EINVAL : ℤ) ≠ -ENOSPC := by decide
  have hdone : allocBody H B 0 minBs g = .inl (-EINVAL,
      (B.allocBlocks g.mm 0 g.pool.backed 0 minBs).2.1,
      { g with mm := (B.allocBlocks g.mm 0 g.pool.backed 0 minBs).2.2 }) := by
    rw [allocBody,hgrow]
    simp [hret,hstop]
  rw [allocLoop,Loop.run_done _ hdone]

lemma guestPoolAlloc_zero (hC : B.Complete) {maxNents : ℤ} {n : ℕ} (hn : n ≠ 0)
    (h : (guestPoolRound maxNents n).1 = 0) : (guestPoolAlloc H B maxNents n g).1 ≠ 0 := by
  simp only [guestPoolAlloc,guestPoolAllocLocked,h,allocLoop_zero hC,hn]
  split_ifs <;> simp

/-- In every reachable state from which the host grants every grow, a page-aligned size up to the
reported largest one can be allocated exactly when the size rounded for `guest_pool_max_nents` has
not wrapped to 0 and fits into the free blocks of the derived minimum size below the highest
boundary that the pool can still reach. -/
theorem guestPool_alloc_iff_capacity (hB : B.Sound) (hC : B.Complete)
    {reservedMemory : Option (List DtNode)} {ret : ℤ} {p : GuestPool} {mm : β}
    (hinit : guestPoolInit B reservedMemory = (ret,some (p,mm))) (H : PoolHost σ) (host : σ)
    (events : List PoolEvent) (hH : H.Granting ok)
    (hok : ok ((PoolClient.start p mm host).run H B events).guest.host) (maxNents : ℤ) :
    let g := ((PoolClient.start p mm host).run H B events).guest
    ∀ n, PAGE_SIZE ∣ n → 0 < n → n ≤ (guestPoolStats B g).2.2 →
      ((guestPoolAlloc H B maxNents n g).1 = 0 ↔
        0 < (guestPoolRound maxNents n).1 ∧ (guestPoolRound maxNents n).1 ≤
          capacity (B.live g.mm) (guestPoolRound maxNents n).2 0 g.pool.top) := by
  intro g n _ hpos _
  have hp := (guestPoolInit_accepted hinit).1
  have hready : g.Ready B p := PoolClient.run_ready hB hC hinit H host events
  rcases Nat.eq_zero_or_pos (guestPoolRound maxNents n).1 with h0 | hround
  · rw [h0]
    exact iff_of_false (guestPoolAlloc_zero hC hpos.ne' h0) fun h => absurd h.1 (lt_irrefl 0)
  · rw [guestPoolAlloc_granted hB hC hp hH ⟨hready.safe,hready.size,hok⟩ hpos.ne' hround,
      hready.safe.feasible_iff_top]
    exact (and_iff_right hround).symm

/-- One block is held and the rest of the pool, not granted yet, is asked for. -/
theorem guestPool_alloc_iff_capacity_grown :
    let p : GuestPool := ⟨0x100000000,2*SZ_2M,0,SZ_2M,SZ_2M,SZ_2M,true,false⟩
    let g := ((PoolClient.start p ⟨2*SZ_2M,[]⟩ ()).run PoolHost.willing FirstFit.buddy
      [.alloc 1 SZ_2M]).guest
    (guestPoolAlloc PoolHost.willing FirstFit.buddy 1 SZ_2M g).1 = 0 ↔
      0 < (guestPoolRound 1 SZ_2M).1 ∧ (guestPoolRound 1 SZ_2M).1 ≤
        capacity (FirstFit.buddy.live g.mm) (guestPoolRound 1 SZ_2M).2 0 g.pool.top :=
  guestPool_alloc_iff_capacity FirstFit.buddy_sound FirstFit.buddy_complete
    (show guestPoolInit _ (some [gpuGuestNode 0x200000 0x400000 0x200000]) = (0,_) by rfl)
    PoolHost.willing () _ PoolHost.willing_granting trivial 1 SZ_2M
    (by decide) (by decide) (by decide +kernel)

/-- A fresh pool of 65537 pages reports all of them, and with the default bound of 65536 entries a
request for them is rounded beyond the pool. -/
theorem guestPoolStats_rounding :
    let p : GuestPool := ⟨0x100000000,65537*4096,0,65537*4096,65537*4096,0,true,false⟩
    let g := (PoolClient.start p (⟨65537*4096,[]⟩ : FirstFit) ()).guest
    guestPoolInit FirstFit.buddy (some [gpuGuestNode 0x10001000 0x10001000 0]) =
      (0,some (p,⟨65537*4096,[]⟩)) ∧
    (guestPoolStats FirstFit.buddy g).2.2 = 65537*4096 ∧
    (guestPoolAlloc PoolHost.willing FirstFit.buddy 65536 (65537*4096) g).1 = -ENOMEM := by
  decide +kernel

end GuestAdditions

import GuestAdditions.GuestPool.Safety

/-! What `virtio_gpu_guest_pool_init` accepts. Its tests for multiples are bit masks, and it compares an
untrimmed floor with a trimmed size; the layouts for which this makes no difference are exactly those
that it validates as intended. -/
namespace GuestAdditions

/-- A mask for a multiple of 2 MiB has all the bits below. -/
theorem dvd_of_isAligned {x step k : ℕ} (hdvd : 2^k ∣ step) (hne : step ≠ 0)
    (h : isAligned x step = true) : 2^k ∣ x := by
  have hlow : (step-1) &&& (2^k-1) = 2^k-1 := by
    obtain ⟨c,rfl⟩ := hdvd
    have hp : 0 < 2^k := Nat.two_pow_pos k
    have hc : 0 < c := Nat.pos_of_ne_zero fun h0 => hne (by rw [h0,Nat.mul_zero])
    obtain ⟨d,rfl⟩ := Nat.exists_eq_add_of_lt hc
    have hsplit : 2^k*(0+d+1)-1 = (2^k-1)+2^k*d := by
      rw [Nat.zero_add,Nat.mul_succ]
      omega
    rw [and_pred_pow,hsplit,Nat.add_mul_mod_self_left]
    exact Nat.mod_eq_of_lt (by omega)
  have hzero : x &&& (step-1) = 0 := by simpa [isAligned] using h
  apply Nat.dvd_of_mod_eq_zero
  calc x % 2^k = x &&& (2^k-1) := (and_pred_pow x k).symm
    _ = x &&& ((step-1) &&& (2^k-1)) := by rw [hlow]
    _ = (x &&& (step-1)) &&& (2^k-1) := (Nat.land_assoc ..).symm
    _ = 0 := by rw [hzero,Nat.zero_and]

namespace DtLayout
variable (dt : DtLayout) (size : ℕ)

/-- A layout with a pool of the given size in whole pages that is as documented. -/
def Valid : Prop :=
  dt.step = 0 ∧ alignDown dt.prealloc PAGE_SIZE = size ∨
    dt.step ≠ 0 ∧ SZ_2M ∣ dt.step ∧ dt.step ∣ size ∧ dt.step ∣ dt.prealloc ∧ dt.prealloc ≤ size

/-- The tests of `virtio_gpu_guest_pool_init`. -/
def Passes : Prop :=
  dt.prealloc ≤ size ∧ PAGE_SIZE ∣ dt.prealloc ∧
    (dt.step ≠ 0 → SZ_2M ∣ dt.step ∧ isAligned size dt.step = true ∧
      isAligned dt.prealloc dt.step = true) ∧
    (dt.step = 0 → dt.prealloc = size)

/-- The masks say the same as the multiples, and trimming does not hide a difference. -/
def MasksAgree : Prop :=
  (dt.step = 0 → alignDown dt.prealloc PAGE_SIZE = size → PAGE_SIZE ∣ dt.prealloc) ∧
    (dt.step ≠ 0 → SZ_2M ∣ dt.step → dt.prealloc ≤ size →
      (isAligned size dt.step = true ∧ isAligned dt.prealloc dt.step = true ↔
        dt.step ∣ size ∧ dt.step ∣ dt.prealloc))

instance : Decidable (dt.Valid size) := inferInstanceAs (Decidable (_ ∨ _))

variable {dt size}

lemma passes_zero (h0 : dt.step = 0) (hsize : PAGE_SIZE ∣ size) :
    dt.Passes size ↔ dt.prealloc = size := by
  constructor
  · intro h
    exact h.2.2.2 h0
  · intro h
    exact ⟨h.le,h ▸ hsize,fun hne => absurd h0 hne,fun _ => h⟩

lemma passes_ne (hne : dt.step ≠ 0) : dt.Passes size ↔ SZ_2M ∣ dt.step ∧ dt.prealloc ≤ size ∧
    isAligned size dt.step = true ∧ isAligned dt.prealloc dt.step = true := by
  constructor
  · intro ⟨hle,_,hmask,_⟩
    exact ⟨(hmask hne).1,hle,(hmask hne).2⟩
  · intro ⟨hfolio,hle,hmask⟩
    refine ⟨hle,?_,fun _ => ⟨hfolio,hmask⟩,fun h0 => absurd h0 hne⟩
    have hdvd : SZ_2M ∣ dt.prealloc := sz2M_eq ▸ dvd_of_isAligned (sz2M_eq ▸ hfolio) hne hmask.2
    exact Nat.dvd_trans (by decide) hdvd

/-- The tests decide validity exactly where the masks agree. -/
theorem passes_iff_valid (hsize : PAGE_SIZE ∣ size) :
    (dt.Passes size ↔ dt.Valid size) ↔ dt.MasksAgree size := by
  by_cases h0 : dt.step = 0
  · have hvalid : dt.Valid size ↔ alignDown dt.prealloc PAGE_SIZE = size := by
      simp [Valid,h0]
    have hmasks : dt.MasksAgree size ↔
        (alignDown dt.prealloc PAGE_SIZE = size → PAGE_SIZE ∣ dt.prealloc) := by
      simp [MasksAgree,h0]
    rw [passes_zero h0 hsize,hvalid,hmasks]
    constructor
    · intro h htrim
      exact (h.mpr htrim) ▸ hsize
    · intro h
      constructor
      · intro heq
        rw [heq]
        exact (alignDown_page_eq_iff size).mpr hsize
      · intro htrim
        exact ((alignDown_page_eq_iff dt.prealloc).mpr (h htrim)).symm.trans htrim
  · have hvalid : dt.Valid size ↔ SZ_2M ∣ dt.step ∧ dt.step ∣ size ∧ dt.step ∣ dt.prealloc ∧
        dt.prealloc ≤ size := by
      simp [Valid,h0]
    have hmasks : dt.MasksAgree size ↔ (SZ_2M ∣ dt.step → dt.prealloc ≤ size →
        (isAligned size dt.step = true ∧ isAligned dt.prealloc dt.step = true ↔
          dt.step ∣ size ∧ dt.step ∣ dt.prealloc)) := by
      simp [MasksAgree,h0]
    rw [passes_ne h0,hvalid,hmasks]
    constructor
    · intro h hfolio hle
      constructor
      · intro ⟨hs,hp⟩
        obtain ⟨-,hs',hp',-⟩ := h.mp ⟨hfolio,hle,hs,hp⟩
        exact ⟨hs',hp'⟩
      · intro ⟨hs,hp⟩
        exact (h.mpr ⟨hfolio,hs,hp,hle⟩).2.2
    · intro h
      constructor
      · intro ⟨hfolio,hle,hmask⟩
        obtain ⟨hs,hp⟩ := (h hfolio hle).mp hmask
        exact ⟨hfolio,hs,hp,hle⟩
      · intro ⟨hfolio,hs,hp,hle⟩
        exact ⟨hfolio,hle,(h hfolio hle).mpr ⟨hs,hp⟩⟩

/-- For a power of two a mask and a multiple are the same. -/
theorem masksAgree_pow {k : ℕ} (h : dt.step = 2^k) : dt.MasksAgree size := by
  refine ⟨fun h0 => absurd (h0.symm.trans h) (Nat.two_pow_pos k).ne,fun _ _ _ => ?_⟩
  rw [h,isAligned_pow,isAligned_pow]

end DtLayout

variable {β : Type} {B : DrmBuddy β}

/-- An enabled pool has the sizes of its layout, which passed the tests. -/
theorem guestPoolInit_layout {children : List DtNode} {ret : ℤ} {p : GuestPool} {mm : β}
    (h : guestPoolInit B (some children) = (ret,some (p,mm))) :
    p.size = alignDown (dtLayout children).size PAGE_SIZE ∧
      p.prealloc = (dtLayout children).prealloc ∧ p.step = (dtLayout children).step ∧
      (dtLayout children).Passes p.size := by
  simp only [guestPoolInit] at h
  split_ifs at h with h₁ h₂ h₃ h₄ h₅ <;>
    simp only [Prod.mk.injEq,Option.some.injEq,reduceCtorEq,and_false] at h
  obtain ⟨-,rfl,-⟩ := h
  simp only [not_or,not_and,not_not,not_lt,Bool.not_eq_false] at h₃ h₄ h₅
  exact ⟨rfl,rfl,rfl,h₃.1,(isAligned_page _).mp h₃.2,
    fun hne => ⟨Nat.dvd_of_mod_eq_zero (h₄ hne).1,(h₄ hne).2⟩,h₅⟩

/-- With a base, a size and an allocator, the pool is enabled exactly when the tests pass. -/
theorem guestPoolInit_enabled_iff {children : List DtNode}
    (hbase : (dtLayout children).base ≠ 0)
    (hsize : alignDown (dtLayout children).size PAGE_SIZE ≠ 0)
    (hmm : (B.init (alignDown (dtLayout children).size PAGE_SIZE) PAGE_SIZE).1 = 0) :
    (∃ ret p mm, guestPoolInit B (some children) = (ret,some (p,mm))) ↔
      (dtLayout children).Passes (alignDown (dtLayout children).size PAGE_SIZE) := by
  have hraw : (dtLayout children).size ≠ 0 := fun h0 => hsize (by rw [h0]; rfl)
  constructor
  · rintro ⟨ret,p,mm,h⟩
    obtain ⟨hsz,-,-,hpasses⟩ := guestPoolInit_layout h
    exact hsz ▸ hpasses
  · rintro ⟨hle,hpage,hmask,hfixed⟩
    simp only [guestPoolInit]
    rw [if_neg (not_or.mpr ⟨hbase,hraw⟩),if_neg hsize,if_neg ?h₁,if_neg ?h₂,if_neg ?h₃,
      if_neg (not_not.mpr hmm)]
    case h₁ => simp [hle,(isAligned_page _).mpr hpage]
    case h₂ =>
      rintro ⟨hne,hbad⟩
      obtain ⟨hfolio,hs,hp⟩ := hmask hne
      simp [hs,hp,Nat.mod_eq_zero_of_dvd hfolio] at hbad
    case h₃ => exact fun h => h.2 (hfixed h.1)
    exact ⟨_,_,_,rfl⟩

/-- Where the step is a power of two, the floor and the size are multiples of it. -/
theorem guestPoolInit_dvd {reservedMemory : Option (List DtNode)} {ret : ℤ} {p : GuestPool}
    {mm : β} (h : guestPoolInit B reservedMemory = (ret,some (p,mm))) {k : ℕ}
    (hstep : p.step = 2^k) : p.step ∣ p.prealloc ∧ p.step ∣ p.size := by
  cases reservedMemory with
  | none => simp [guestPoolInit] at h
  | some children =>
    obtain ⟨-,hpre,hdt,-,-,hmask,-⟩ := guestPoolInit_layout h
    have hne : (dtLayout children).step ≠ 0 := by
      rw [← hdt,hstep]
      exact (Nat.two_pow_pos k).ne'
    obtain ⟨-,hs,hp⟩ := hmask hne
    rw [← hdt,hstep,isAligned_pow] at hs hp
    rw [hpre,hstep]
    exact ⟨hp,hs⟩

/-- Whatever happens to the pool and whatever the host answers, each grow request is for multiples
of the step, and where no further step fits the boundary is the size. -/
def GuestPool.GrowsWhole (B : DrmBuddy β) (p : GuestPool) (mm : β) : Prop :=
  ∀ {σ : Type} (H : PoolHost σ) (host : σ) (events : List PoolEvent),
    let s := (PoolClient.start p mm host).run H B events
    (∀ c ∈ s.guest.calls, c.op = .share → p.step ∣ c.offset ∧ p.step ∣ c.len) ∧
      (s.guest.pool.step ≠ 0 → ¬ s.guest.pool.CanGrow → s.guest.pool.backed = p.size)

/-- Every grow request so far was at a multiple of the step. -/
def Guest.OnGrid {σ β : Type} (step : ℕ) (g : Guest σ β) : Prop :=
  ∀ c ∈ g.calls, c.op = .share → step ∣ c.offset

section Grid
variable {σ : Type} {H : PoolHost σ} {p₀ : GuestPool} {g : Guest σ β}

/-- With a floor on the grid, so is every boundary. -/
theorem GuestPool.Bounded.dvd_backed {p : GuestPool} (h : GuestPool.Bounded p₀ p)
    (hfloor : p₀.step ∣ p₀.prealloc) : p₀.step ∣ p.backed := by
  obtain ⟨k,hk⟩ := h.exists_step
  rw [hk,GuestPool.stepOffset]
  exact Nat.dvd_add hfloor (Nat.dvd_mul_left _ _)

lemma Guest.OnGrid.grow (hg : g.Safe B p₀) (hfloor : p₀.step ∣ p₀.prealloc)
    (h : g.OnGrid p₀.step) : (guestPoolGrowOneLocked H B g).2.OnGrid p₀.step := by
  have hcalls : (growRequest H B g).2.OnGrid p₀.step := by
    intro c hc hop
    cases growRequest_calls hc with
    | inl hnew =>
      rw [hnew.2.1]
      exact hg.bounded.dvd_backed hfloor
    | inr hold => exact h c hold hop
  have hout := guestPoolGrowOneLocked_outcome H B g
  generalize guestPoolGrowOneLocked H B g = r at hout ⊢
  cases hout with
  | refused => exact h
  | failed | raised => exact hcalls

/-- A shrink makes no grow request. -/
theorem Guest.OnGrid.shrink {step : ℕ} (h : g.OnGrid step) :
    (guestPoolShrinkOneLocked H B g).2.OnGrid step := by
  have hcalls : (shrinkRequest H B g).2.OnGrid step := by
    intro c hc hop
    cases shrinkRequest_calls hc with
    | inl hnew => rcases hnew.1 with h | h <;> simp [hop] at h
    | inr hold => exact h c hold hop
  have hout := guestPoolShrinkOneLocked_outcome H B g
  generalize guestPoolShrinkOneLocked H B g = r at hout ⊢
  cases hout with
  | refused => exact h
  | stopped | lowered | failed => exact hcalls

/-- A boundary on the grid below a size on the grid is the size, or leaves room for a step. -/
theorem GuestPool.Bounded.backed_eq_of_stuck {p : GuestPool} (h : GuestPool.Bounded p₀ p)
    (hfloor : p₀.step ∣ p₀.prealloc) (hsize : p₀.step ∣ p₀.size) (hne : p.step ≠ 0)
    (stuck : ¬ p.CanGrow) : p.backed = p₀.size := by
  have hroom := Nat.dvd_sub hsize (h.dvd_backed hfloor)
  have hceil := h.ceiling
  have hstep := h.step_of_ne hne
  have hp := h.size_eq
  by_contra hlt
  apply stuck
  have hle := Nat.le_of_dvd (by omega) hroom
  exact ⟨hne,by omega,by omega⟩

end Grid

/-- A pool whose floor and size are multiples of the step grows by whole steps up to its size. -/
theorem GuestPool.Accepted.growsWhole (hB : B.Sound) {p : GuestPool} {mm : β} (hp : p.Accepted)
    (hmm : B.init p.size PAGE_SIZE = (0,mm)) (hfloor : p.step ∣ p.prealloc)
    (hsize : p.step ∣ p.size) : p.GrowsWhole B mm := by
  intro σ H host events
  have hstart := PoolClient.start_safe hB hp hmm host
  have hsafe := (hstart.run (H := H) hB events).guest
  have hgrid := PoolClient.run_guest (H := H) (I := Guest.OnGrid p.step) hB
    (fun _ _ h => h) (fun _ _ h => h) (fun _ hg h => h.grow hg hfloor) (fun _ _ h => h.shrink)
    hstart (fun c hc => absurd hc (List.not_mem_nil)) events
  refine ⟨fun c hc hop => ⟨hgrid c hc hop,?_⟩,fun hne stuck => ?_⟩
  · rw [(hsafe.proper c hc).len_eq]
  · exact hsafe.bounded.backed_eq_of_stuck hfloor hsize hne stuck

/-- `virtio_gpu_guest_pool_init` enables the pool exactly for the layouts that are valid, and then
the pool grows by whole steps up to its size, just when the masks agree with the multiples. -/
theorem guestPoolInit_exact_iff (hB : B.Sound) {children : List DtNode}
    (hbase : (dtLayout children).base ≠ 0)
    (hsize : alignDown (dtLayout children).size PAGE_SIZE ≠ 0)
    (hmm : (B.init (alignDown (dtLayout children).size PAGE_SIZE) PAGE_SIZE).1 = 0) :
    (((∃ ret p mm, guestPoolInit B (some children) = (ret,some (p,mm))) ↔
          (dtLayout children).Valid (alignDown (dtLayout children).size PAGE_SIZE)) ∧
        ∀ ret p mm, guestPoolInit B (some children) = (ret,some (p,mm)) → p.step ≠ 0 →
          p.GrowsWhole B mm) ↔
      (dtLayout children).MasksAgree (alignDown (dtLayout children).size PAGE_SIZE) := by
  rw [← DtLayout.passes_iff_valid (dvd_alignDown_page _)]
  have henabled := guestPoolInit_enabled_iff hbase hsize hmm
  constructor
  · intro ⟨hvalid,_⟩
    exact henabled.symm.trans hvalid
  · intro hpasses
    have hvalid := henabled.trans hpasses
    refine ⟨hvalid,fun ret p mm h hne => ?_⟩
    obtain ⟨hsz,hpre,hstep,-⟩ := guestPoolInit_layout h
    obtain ⟨hp,hinit⟩ := guestPoolInit_accepted h
    cases hvalid.mp ⟨ret,p,mm,h⟩ with
    | inl h0 => exact absurd (hstep.trans h0.1) hne
    | inr hok =>
      obtain ⟨-,-,hdvd,hfloor,-⟩ := hok
      refine hp.growsWhole hB hinit ?_ ?_
      · rwa [hstep,hpre]
      · rwa [hstep,hsz]

/-- A growable pool of 8 MiB with 2 MiB steps. -/
theorem guestPoolInit_exact_folio :
    let children := [gpuGuestNode 0x200000 0x800000 0x200000]
    (((∃ ret p mm, guestPoolInit FirstFit.buddy (some children) = (ret,some (p,mm))) ↔
          (dtLayout children).Valid (alignDown (dtLayout children).size PAGE_SIZE)) ∧
        ∀ ret p mm, guestPoolInit FirstFit.buddy (some children) = (ret,some (p,mm)) →
          p.step ≠ 0 → p.GrowsWhole FirstFit.buddy mm) ↔
      (dtLayout children).MasksAgree (alignDown (dtLayout children).size PAGE_SIZE) :=
  guestPoolInit_exact_iff FirstFit.buddy_sound (by decide) (by decide) (by decide)

/-- With steps of 6 MiB a pool of 8 MiB over a floor of 2 MiB is enabled although neither is a
multiple, and one of 12 MiB over a floor of 6 MiB is refused although both are. A node that carries
only a `reg` of one and a half pages is refused as well. -/
theorem guestPoolInit_masks_differ :
    let enabled (child : DtNode) := (guestPoolInit FirstFit.buddy (some [child])).2.isSome
    let valid (child : DtNode) := (dtLayout [child]).Valid
      (alignDown (dtLayout [child]).size PAGE_SIZE)
    let regOnly : DtNode := ⟨"gpu_guest",some (0x100000000,0x1800),none,none,none,none⟩
    (enabled (gpuGuestNode 0x200000 0x800000 0x600000) = true ∧
        ¬ valid (gpuGuestNode 0x200000 0x800000 0x600000)) ∧
      (enabled (gpuGuestNode 0x600000 0xC00000 0x600000) = false ∧
        valid (gpuGuestNode 0x600000 0xC00000 0x600000)) ∧
      enabled regOnly = false ∧ valid regOnly := by
  decide +kernel

end GuestAdditions

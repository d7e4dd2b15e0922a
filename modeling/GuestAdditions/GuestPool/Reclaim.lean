import GuestAdditions.GuestPool.Growth
import GuestAdditions.GuestPool.LayoutCheck
import GuestAdditions.Library.Grid

/-! How far `virtio_gpu_guest_pool_reclaim_locked` lowers the boundary. The probe passes the step to the
allocator as the minimum block size, so what it finds depends on the step being a power of two. -/
namespace GuestAdditions

/-- In a state that satisfies `ok` the host accepts a shrink, and again ends in such a state. -/
def PoolHost.Yielding {σ : Type} (H : PoolHost σ) (ok : σ → Prop) : Prop :=
  ∀ s id offset len, ok s → (H.shrink s id offset len).1 = 0 ∧ ok (H.shrink s id offset len).2

lemma PoolHost.willing_yielding : PoolHost.willing.Yielding (fun _ => True) :=
  fun _ _ _ _ _ => ⟨rfl,trivial⟩

section Model
variable {σ β : Type} (H : PoolHost σ) (B : DrmBuddy β)

/-- The number of UNSHARE requests made so far. -/
def Guest.shrinks (g : Guest σ β) : ℕ := g.calls.countP (fun c => c.op = .unshare)

/-- The operations that call `virtio_gpu_guest_pool_reclaim_locked`, each with the guest at the call. A
failed create is an allocation and a free. -/
inductive ReclaimCall (s : PoolClient σ β) : PoolEvent → Guest σ β → Prop
  | alloc {maxNents size} (nonzero : size ≠ 0)
      (fits : (guestPoolRound maxNents size).1 ≤ s.guest.pool.size)
      (failed : (allocLoop H B (guestPoolRound maxNents size).1 (guestPoolRound maxNents size).2
        s.guest).1 ≠ 0) :
      ReclaimCall s (.alloc maxNents size) (allocLoop H B (guestPoolRound maxNents size).1
        (guestPoolRound maxNents size).2 s.guest).2.2
  | free {i bs} (held : s.held[i]? = some bs) (ne : bs ≠ []) :
      ReclaimCall s (.free i) { s.guest with mm := B.freeList s.guest.mm bs }
  | work : ReclaimCall s .reclaimWork
      { s.guest with pool := { s.guest.pool with reclaimArmed := false } }

/-- The boundary is at the floor, or a live block reaches into the step below it. -/
def Guest.Tight (p₀ : GuestPool) (g : Guest σ β) : Prop :=
  g.pool.backed = p₀.prealloc ∨ ∃ l ∈ B.live g.mm, g.pool.backed - p₀.step < l.stop

end Model

variable {σ β : Type} {H : PoolHost σ} {B : DrmBuddy β} {p₀ : GuestPool} {g g' : Guest σ β}
  {ok : σ → Prop}

/-- The operation is the reclaim, followed by arming the delayed work. -/
theorem ReclaimCall.step {s : PoolClient σ β} {e : PoolEvent} (hready : s.guest.pool.ready = true)
    (h : ReclaimCall H B s e g) : (s.step H B e).guest =
      (guestPoolReclaimLocked H B g).2.armReclaim (guestPoolReclaimLocked H B g).1 := by
  cases h with
  | alloc nonzero fits failed =>
    simp [PoolClient.step,PoolClient.alloc,guestPoolAlloc,guestPoolAllocLocked,hready,nonzero,failed,
      not_lt.mpr fits]
  | free held ne =>
    simp [PoolClient.step,PoolClient.free,guestPoolFree,guestPoolFreeLocked,hready,held,ne]
  | work => simp [PoolClient.step,guestPoolReclaimWork,hready]

/-- An allocation that fails has only grown and asked in vain. -/
theorem allocLoop_rises (hB : B.Sound) {size minBs : ℕ} (h : (allocLoop H B size minBs g).1 ≠ 0) :
    Rises H B g (allocLoop H B size minBs g).2.2 := by
  have hout := allocLoop_outcome (H := H) hB size minBs g
  generalize allocLoop H B size minBs g = a at hout h ⊢
  cases hout with
  | failed ne rises => exact rises
  | served => exact absurd rfl h

/-- A call finds the invariant of the pool intact. -/
theorem ReclaimCall.safe (hB : B.Sound) {s : PoolClient σ β} {e : PoolEvent} (hs : s.Safe B p₀)
    (h : ReclaimCall H B s e g) : g.Safe B p₀ := by
  cases h with
  | alloc _ _ failed => exact (allocLoop_rises hB failed).moves.safe hB hs.guest
  | @free i bs held =>
    obtain ⟨hlt,rfl⟩ := List.getElem?_eq_some_iff.mp held
    have hperm := hs.held.trans (List.getElem_cons_eraseIdx_perm hlt).symm.flatten
    rw [List.flatten_cons] at hperm
    exact hs.guest.give hB hperm
  | work => exact hs.guest.arm false

/-- It also finds the allocator at its size. -/
theorem ReclaimCall.size (hB : B.Sound) (hE : B.Exact) {s : PoolClient σ β} {e : PoolEvent} {n : ℕ}
    (hs : B.size s.guest.mm = n) (h : ReclaimCall H B s e g) : B.size g.mm = n := by
  cases h with
  | alloc _ _ failed =>
    exact (allocLoop_rises hB failed).moves.mm (J := fun mm => B.size mm = n)
      (fun h hmm => (hE.alloc_size h).trans hmm) (fun bs hmm => (hE.free_size _ bs).trans hmm) hs
  | free => exact (hE.free_size _ _).trans hs
  | work => exact hs

lemma Guest.Safe.mem_grid (hg : g.Safe B p₀) : g.pool.backed ∈ grid p₀.prealloc p₀.step :=
  hg.bounded.exists_step

/-- The boundary is the least one above the live blocks exactly when it is tight. -/
theorem Guest.Safe.isLeast_iff (hg : g.Safe B p₀) (hstep : 0 < p₀.step) :
    IsLeast {b | b ∈ grid p₀.prealloc p₀.step ∧ ∀ l ∈ B.live g.mm, l.stop ≤ b} g.pool.backed ↔
      g.Tight B p₀ := by
  rw [isLeast_grid_iff hstep (fun x y hxy h l hl => (h l hl).trans hxy) hg.mem_grid hg.below]
  simp only [Guest.Tight,not_forall,not_le,exists_prop]

/-- Only the boundary and the ledger matter. -/
theorem Guest.Tight.congr (hbacked : g'.pool.backed = g.pool.backed)
    (hlive : (B.live g'.mm).Perm (B.live g.mm)) : g'.Tight B p₀ ↔ g.Tight B p₀ := by
  simp only [Guest.Tight,hbacked,hlive.mem_iff]

lemma shrinkRequest_shrinks (g : Guest σ β) : (shrinkRequest H B g).2.shrinks = g.shrinks+1 := by
  have hans := shrinkRequest_answer H B g
  generalize shrinkRequest H B g = r at hans ⊢
  cases hans <;> simp [Guest.shrinks,Guest.call]

@[simp] lemma guestPoolStepFreeLocked_calls (g : Guest σ β) :
    (guestPoolStepFreeLocked B g).2.calls = g.calls := by
  have hout := guestPoolStepFreeLocked_outcome B g
  generalize guestPoolStepFreeLocked B g = r at hout ⊢
  cases hout <;> rfl

@[simp] lemma guestPoolStepFreeLocked_host (g : Guest σ β) :
    (guestPoolStepFreeLocked B g).2.host = g.host := by
  have hout := guestPoolStepFreeLocked_outcome B g
  generalize guestPoolStepFreeLocked B g = r at hout ⊢
  cases hout <;> rfl

/-- A probe that succeeds has found a step above the floor. -/
theorem guestPoolStepFreeLocked_can (h : (guestPoolStepFreeLocked B g).1 = true) :
    g.pool.CanShrink := by
  have hout := guestPoolStepFreeLocked_outcome B g
  generalize guestPoolStepFreeLocked B g = r at hout h
  cases hout with
  | refused => simp at h
  | busy => simp at h
  | free can => exact can

/-- A shrink makes one request, and only with a step left above the floor. -/
theorem guestPoolShrinkOneLocked_shrinks (g : Guest σ β) :
    ((guestPoolShrinkOneLocked H B g).1 ≠ 0 ∧
        (guestPoolShrinkOneLocked H B g).2.shrinks = g.shrinks) ∨
      (g.pool.CanShrink ∧ (guestPoolShrinkOneLocked H B g).2.shrinks = g.shrinks+1 ∧
        ((guestPoolShrinkOneLocked H B g).1 = 0 →
          (guestPoolShrinkOneLocked H B g).2.pool.backed = g.pool.backed - g.pool.step)) := by
  have hcount := shrinkRequest_shrinks (H := H) (B := B) g
  have hout := guestPoolShrinkOneLocked_outcome H B g
  generalize guestPoolShrinkOneLocked H B g = r at hout ⊢
  cases hout with
  | refused => exact .inl ⟨show -ENOSPC ≠ 0 by decide,rfl⟩
  | stopped can => exact .inr ⟨can,hcount,fun _ => rfl⟩
  | lowered can => exact .inr ⟨can,hcount,fun _ => rfl⟩
  | failed can _ ne => exact .inr ⟨can,hcount,fun h => absurd h ne⟩

/-- Each step below the boundary accounts for one request. -/
theorem GuestPool.Bounded.steps_succ {p : GuestPool} (h : GuestPool.Bounded p₀ p)
    (can : p.CanShrink) : (p.backed - p₀.prealloc)/p₀.step =
      (p.backed - p.step - p₀.prealloc)/p₀.step+1 := by
  have hle := h.floor_add_step_le can
  have hstep := h.step_of_ne can.1
  have hpos : 0 < p₀.step := hstep ▸ Nat.pos_of_ne_zero can.1
  have hsub : p.backed - p₀.prealloc = p.backed - p.step - p₀.prealloc+p₀.step := by omega
  rw [hsub,Nat.add_div_right _ hpos]

lemma Guest.Safe.probe (hB : B.Sound) (hg : g.Safe B p₀) :
    (guestPoolStepFreeLocked B g).2.Safe B p₀ :=
  hg.of_live (by simp) (by simp) (guestPoolStepFreeLocked_live hB g)

/-- A probe that succeeds allows the shrink. -/
theorem Guest.Safe.reclaim (hB : B.Sound) (hg : g.Safe B p₀)
    (h : (guestPoolStepFreeLocked B g).1 = true) :
    (guestPoolShrinkOneLocked H B (guestPoolStepFreeLocked B g).2).2.Safe B p₀ := by
  apply (hg.probe hB).shrink
  simpa using guestPoolStepFreeLocked_avoids hB h

/-- Whatever the host answers, there is at most one request for each step above the floor. -/
theorem guestPoolReclaimLocked_shrinks (hB : B.Sound) (hg : g.Safe B p₀) :
    (guestPoolReclaimLocked H B g).2.shrinks ≤
      g.shrinks+(g.pool.backed - p₀.prealloc)/p₀.step := by
  refine Loop.run_induct (reclaimBody_decreases H B) (motive := fun g r => g.Safe B p₀ →
    r.2.shrinks ≤ g.shrinks+(g.pool.backed - p₀.prealloc)/p₀.step) ?_ ?_ g hg
  · intro g r h hg
    have hprobe : (guestPoolStepFreeLocked B g).2.shrinks = g.shrinks := by simp [Guest.shrinks]
    have hone := guestPoolShrinkOneLocked_shrinks (H := H) (B := B) (guestPoolStepFreeLocked B g).2
    rw [guestPoolStepFreeLocked_pool,hprobe] at hone
    simp only [reclaimBody] at h
    split_ifs at h with h₁ h₂
    · cases h
      exact hprobe.trans_le (Nat.le_add_right _ _)
    · cases h
      rcases hone with ⟨-,heq⟩ | ⟨can,heq,-⟩
      · exact heq.trans_le (Nat.le_add_right _ _)
      · rw [heq,hg.bounded.steps_succ can]
        exact Nat.add_le_add_left (Nat.le_add_left _ _) _
  · intro g g' r h ih hg
    have hprobe : (guestPoolStepFreeLocked B g).2.shrinks = g.shrinks := by simp [Guest.shrinks]
    have hone := guestPoolShrinkOneLocked_shrinks (H := H) (B := B) (guestPoolStepFreeLocked B g).2
    rw [guestPoolStepFreeLocked_pool,hprobe] at hone
    simp only [reclaimBody] at h
    split_ifs at h with h₁ h₂
    cases h
    have hrest := ih (hg.reclaim hB (by simpa using h₁))
    rcases hone with ⟨hne,-⟩ | ⟨can,heq,hbacked⟩
    · exact absurd h₂ hne
    · have hsteps := hg.bounded.steps_succ can
      rw [heq,hbacked h₂] at hrest
      omega

lemma shrinkRequest_yielded (hH : H.Yielding ok) (hg : ok g.host) :
    (shrinkRequest H B g).1 = 0 ∧ ok (shrinkRequest H B g).2.host := by
  have hyield := hH g.host g.pool.poolId (g.pool.backed - g.pool.step) g.pool.step hg
  have hans := shrinkRequest_answer H B g
  generalize shrinkRequest H B g = r at hans ⊢
  cases hans with
  | clear asked => rwa [asked] at hyield
  | released asked ne | kept asked ne =>
    rw [asked] at hyield
    exact absurd hyield.1 ne

/-- With a step above the floor, a shrink lowers the boundary and keeps the step. -/
theorem guestPoolShrinkOneLocked_yielded (hH : H.Yielding ok) (hg : ok g.host)
    (can : g.pool.CanShrink) : (guestPoolShrinkOneLocked H B g).1 = 0 ∧
      (guestPoolShrinkOneLocked H B g).2.pool.step = g.pool.step ∧
      ok (guestPoolShrinkOneLocked H B g).2.host := by
  obtain ⟨hok,hhost⟩ := shrinkRequest_yielded (B := B) hH hg
  have hout := guestPoolShrinkOneLocked_outcome H B g
  generalize guestPoolShrinkOneLocked H B g = r at hout ⊢
  cases hout with
  | refused stuck => exact absurd can stuck
  | stopped _ unclean => simp [hok] at unclean
  | lowered => exact ⟨rfl,rfl,hhost⟩
  | failed _ _ ne => exact absurd hok ne

/-- With a step that is a power of two the probe decides whether the last step is free. -/
theorem guestPoolStepFreeLocked_tight (hE : B.Exact) (hp : p₀.Accepted) {k : ℕ}
    (hpow : p₀.step = 2^k) (hfloor : p₀.step ∣ p₀.prealloc) (hg : g.Open B p₀ ok)
    (hne : g.pool.step ≠ 0) (h : (guestPoolStepFreeLocked B g).1 = false) : g.Tight B p₀ := by
  have hout := guestPoolStepFreeLocked_outcome B g
  generalize guestPoolStepFreeLocked B g = r at hout h
  cases hout with
  | refused stuck =>
    have hfl := hg.safe.bounded.floor
    have hpre := hg.safe.bounded.prealloc_eq
    exact .inl (Nat.le_antisymm (not_lt.mp fun hlt => stuck ⟨hne,hpre ▸ hlt⟩) hfl)
  | @busy ret bs mm' can ne asked =>
    have hstep := hg.safe.bounded.step_of_ne hne
    have hle := hg.safe.bounded.floor_add_step_le can
    have hk : 12 ≤ k := by
      have hfolio := hp.step_folio
      rw [hpow,sz2M_eq] at hfolio
      exact le_trans (by omega) ((Nat.pow_dvd_pow_iff_le_right (by omega)).mp hfolio)
    have hlo : 2^k ∣ g.pool.backed - g.pool.step := by
      rw [hstep,← hpow]
      exact Nat.dvd_sub (hg.safe.bounded.dvd_backed hfloor) dvd_rfl
    have hroom : g.pool.backed - g.pool.step+g.pool.step ≤ B.size g.mm := by
      have hceil := hg.safe.bounded.ceiling
      rw [hg.size]
      omega
    have hanswer := hE.alloc_range (Nat.pos_of_ne_zero hne) hk hlo
      (by rw [hstep,hpow]) hroom
    rw [← hpow,← hstep,asked] at hanswer
    have hmeets : ¬ ∀ l ∈ B.live g.mm,
        l.Avoids (g.pool.backed - g.pool.step) (g.pool.backed - g.pool.step+g.pool.step) :=
      fun hfree => ne (hanswer.mpr hfree)
    simp only [not_forall,Extent.Avoids,not_or,not_le] at hmeets
    obtain ⟨l,hl,hstop,-⟩ := hmeets
    exact .inr ⟨l,hl,hstep ▸ hstop⟩
  | free => simp at h

/-- So the loop runs until the boundary is tight. -/
theorem guestPoolReclaimLocked_tight (hB : B.Sound) (hE : B.Exact) (hp : p₀.Accepted)
    (hH : H.Yielding ok) {k : ℕ} (hpow : p₀.step = 2^k) (hfloor : p₀.step ∣ p₀.prealloc)
    (hg : g.Open B p₀ ok) (hne : g.pool.step ≠ 0) :
    (guestPoolReclaimLocked H B g).2.Tight B p₀ := by
  refine Loop.run_induct (reclaimBody_decreases H B) (motive := fun g r =>
    g.Open B p₀ ok → g.pool.step ≠ 0 → r.2.Tight B p₀) ?_ ?_ g hg hne
  · intro g r h hg hne
    simp only [reclaimBody] at h
    split_ifs at h with h₁ h₂
    · cases h
      have htight := guestPoolStepFreeLocked_tight hE hp hpow hfloor hg hne h₁
      exact (Guest.Tight.congr (by simp) (guestPoolStepFreeLocked_live hB g)).mpr htight
    · have hcan := guestPoolStepFreeLocked_can (by simpa using h₁)
      have hyield := guestPoolShrinkOneLocked_yielded (B := B) (g := (guestPoolStepFreeLocked B g).2)
        hH (by simpa using hg.host) (by simpa using hcan)
      exact absurd hyield.1 h₂
  · intro g g' r h ih hg hne
    simp only [reclaimBody] at h
    split_ifs at h with h₁ h₂
    cases h
    have hfree : (guestPoolStepFreeLocked B g).1 = true := by simpa using h₁
    have hcan := guestPoolStepFreeLocked_can hfree
    obtain ⟨-,hstep,hhost⟩ := guestPoolShrinkOneLocked_yielded (B := B)
      (g := (guestPoolStepFreeLocked B g).2) hH (by simpa using hg.host) (by simpa using hcan)
    refine ih ⟨hg.safe.reclaim hB hfree,?_,hhost⟩ ?_
    · have hout := guestPoolStepFreeLocked_outcome B g
      generalize guestPoolStepFreeLocked B g = t at hout hfree ⊢
      rw [guestPoolShrinkOneLocked_mm]
      cases hout with
      | refused => simp at hfree
      | busy => simp at hfree
      | free _ asked => exact (hE.free_size _ _).trans ((hE.alloc_size asked).trans hg.size)
    · rw [hstep,guestPoolStepFreeLocked_pool]
      exact hne

/-- With any other step the probe always fails, and the loop ends where it began. -/
theorem guestPoolReclaimLocked_stuck (hE : B.Exact) (hnot : ∀ k, p₀.step ≠ 2^k)
    (hg : g.Safe B p₀) (hne : g.pool.step ≠ 0) :
    (guestPoolReclaimLocked H B g).2.pool = g.pool := by
  have hprobe : (guestPoolStepFreeLocked B g).1 = false := by
    have hstep := hg.bounded.step_of_ne hne
    have hout := guestPoolStepFreeLocked_outcome B g
    generalize guestPoolStepFreeLocked B g = r at hout ⊢
    cases hout with
    | refused => rfl
    | busy => rfl
    | free _ asked =>
      have hanswer := hE.alloc_not_pow g.mm (g.pool.backed - g.pool.step)
        (g.pool.backed - g.pool.step+g.pool.step) g.pool.step (hstep ▸ hnot)
      simp [asked] at hanswer
  have hdone : reclaimBody H B g = .inl (false,(guestPoolStepFreeLocked B g).2) := by
    simp only [reclaimBody,hprobe,if_true]
  rw [guestPoolReclaimLocked,Loop.run_done _ hdone]
  exact guestPoolStepFreeLocked_pool B g

/-- Whenever a free, a failed allocation or the delayed work reclaims, in any run of any accepted pool
with growth still enabled: whatever the host answers there is at most one shrink request for each
step above the floor and the live blocks stay; and if the host accepts every shrink, the boundary
ends as the least one above the live blocks exactly when the step is a power of two or there was
nothing to give back. -/
theorem guestPoolReclaimLocked_least_iff (hB : B.Sound) (hE : B.Exact)
    {reservedMemory : Option (List DtNode)} {ret : ℤ} {p : GuestPool} {mm : β}
    (hinit : guestPoolInit B reservedMemory = (ret,some (p,mm))) (H : PoolHost σ) (host : σ)
    (events : List PoolEvent) (e : PoolEvent) (g : Guest σ β) :
    let s := (PoolClient.start p mm host).run H B events
    let r := guestPoolReclaimLocked H B g
    ReclaimCall H B s e g → g.pool.step ≠ 0 →
      (s.step H B e).guest = r.2.armReclaim r.1 ∧
      r.2.shrinks ≤ g.shrinks+(g.pool.backed - p.prealloc)/p.step ∧
      (B.live r.2.mm).Perm (B.live g.mm) ∧
      ∀ ok, H.Yielding ok → ok g.host →
        (IsLeast {b | b ∈ grid p.prealloc p.step ∧ ∀ l ∈ B.live g.mm, l.stop ≤ b} r.2.pool.backed ↔
          (∃ k, p.step = 2^k) ∨ g.Tight B p) := by
  intro s r hcall hne
  obtain ⟨hp,hmm⟩ := guestPoolInit_accepted hinit
  have hstart := PoolClient.start_safe hB hp hmm host
  have hs : s.Safe B p := hstart.run hB events
  have hsize : B.size s.guest.mm = p.size :=
    PoolClient.run_mm (J := fun mm => B.size mm = p.size) (fun h hmm => (hE.alloc_size h).trans hmm)
      (fun bs hmm => (hE.free_size _ bs).trans hmm) hB hstart (hE.init_size hmm) events
  have hg := hcall.safe hB hs
  have hfalls : Falls H B g r.2 := guestPoolReclaimLocked_falls hB g
  have hlive := hfalls.moves.live hB
  have hr := hfalls.moves.safe hB hg
  refine ⟨hcall.step hs.guest.bounded.ready,guestPoolReclaimLocked_shrinks hB hg,hlive,
    fun ok hH hok => ?_⟩
  have hopen : g.Open B p ok := ⟨hg,hcall.size hB hE hsize,hok⟩
  have hpos : 0 < p.step := hg.bounded.step_of_ne hne ▸ Nat.pos_of_ne_zero hne
  have hsame := hr.isLeast_iff hpos
  simp only [hlive.mem_iff] at hsame
  rw [hsame]
  by_cases hpow : ∃ k, p.step = 2^k
  · obtain ⟨k,hk⟩ := hpow
    have htight := guestPoolReclaimLocked_tight hB hE hp hH hk (guestPoolInit_dvd hinit hk).1 hopen hne
    exact ⟨fun _ => .inl ⟨k,hk⟩,fun _ => htight⟩
  · have hpool := guestPoolReclaimLocked_stuck (H := H) hE (fun k hk => hpow ⟨k,hk⟩) hg hne
    rw [Guest.Tight.congr (congrArg GuestPool.backed hpool) hlive]
    exact ⟨.inr,fun h => h.resolve_left hpow⟩

/-- A pool of 6 MiB with 2 MiB steps grows for a block of 4 MiB, and its free gives the step back. -/
theorem guestPoolReclaimLocked_least_free :
    let p : GuestPool := ⟨0x100000000,0x600000,0,0x200000,0x200000,0x200000,true,false⟩
    let s := (PoolClient.start p ⟨0x600000,[]⟩ ()).run PoolHost.willing FirstFit.buddy
      [.alloc 1 0x400000]
    let g : Guest Unit FirstFit :=
      { s.guest with mm := FirstFit.buddy.freeList s.guest.mm [FirstFit.slot 22 0] }
    let r := guestPoolReclaimLocked PoolHost.willing FirstFit.buddy g
    (s.step PoolHost.willing FirstFit.buddy (.free 0)).guest = r.2.armReclaim r.1 ∧
      r.2.shrinks ≤ g.shrinks+(g.pool.backed - p.prealloc)/p.step ∧
      (FirstFit.buddy.live r.2.mm).Perm (FirstFit.buddy.live g.mm) ∧
      ∀ ok, PoolHost.willing.Yielding ok → ok g.host →
        (IsLeast {b | b ∈ grid p.prealloc p.step ∧ ∀ l ∈ FirstFit.buddy.live g.mm, l.stop ≤ b}
            r.2.pool.backed ↔
          (∃ k, p.step = 2^k) ∨ g.Tight FirstFit.buddy p) :=
  guestPoolReclaimLocked_least_iff FirstFit.buddy_sound FirstFit.buddy_exact
    (show guestPoolInit _ (some [gpuGuestNode 0x200000 0x600000 0x200000]) = (0,_) by rfl) _ _ _ _ _
    (.free (by decide +kernel) (by decide)) (by decide +kernel)

/-- A pool of 48 MiB with a floor of 24 MiB and steps of 6 MiB grows by two steps for a block of
32 MiB. After its free no block is live and the host accepts everything, but both steps stay
shared. -/
theorem guestPoolReclaimLocked_six_mib :
    let p : GuestPool := ⟨0x100000000,0x3000000,0,0x1800000,0x1800000,0x600000,true,false⟩
    let s := (PoolClient.start p ⟨0x3000000,[]⟩ ()).run PoolHost.willing FirstFit.buddy
      [.alloc 1 0x2000000]
    let g : Guest Unit FirstFit :=
      { s.guest with mm := FirstFit.buddy.freeList s.guest.mm [FirstFit.slot 25 0] }
    let r := guestPoolReclaimLocked PoolHost.willing FirstFit.buddy g
    guestPoolInit FirstFit.buddy (some [gpuGuestNode 0x1800000 0x3000000 0x600000]) =
        (0,some (p,⟨0x3000000,[]⟩)) ∧
      ReclaimCall PoolHost.willing FirstFit.buddy s (.free 0) g ∧ g.pool.step = p.step ∧
      PoolHost.willing.Yielding (fun _ => True) ∧ FirstFit.buddy.live g.mm = [] ∧
      r.2.pool.backed = p.prealloc+2*p.step ∧
      ¬ IsLeast {b | b ∈ grid p.prealloc p.step ∧ ∀ l ∈ FirstFit.buddy.live g.mm, l.stop ≤ b}
        r.2.pool.backed := by
  intro p s g r
  have hlive : FirstFit.buddy.live g.mm = [] := by decide +kernel
  have hbacked : r.2.pool.backed = p.prealloc+2*p.step := by decide +kernel
  refine ⟨by decide +kernel,.free (by decide +kernel) (by decide),by decide +kernel,
    PoolHost.willing_yielding,hlive,hbacked,fun hleast => ?_⟩
  have hle := hleast.2 ⟨mem_grid_self _ _,by simp [hlive]⟩
  rw [hbacked] at hle
  exact absurd hle (by decide)

end GuestAdditions

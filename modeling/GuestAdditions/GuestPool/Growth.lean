import GuestAdditions.GuestPool.FirstFit
import GuestAdditions.GuestPool.Safety
import GuestAdditions.Library.Grid
import Mathlib.Order.Lattice.Nat

/-! How far `virtio_gpu_guest_pool_alloc` raises the boundary. Its two nested loops grow towards one
goal, the least boundary with room for the request, and a grow that the host refuses is the only thing
between the loops and that goal. -/
namespace GuestAdditions

section Model
variable {σ β : Type} (H : PoolHost σ) (B : DrmBuddy β)

/-- A guest against a host that grants every further grow, with an allocator for the whole pool. -/
structure Guest.Open (p₀ : GuestPool) (ok : σ → Prop) (g : Guest σ β) : Prop where
  safe : g.Safe B p₀
  size : B.size g.mm = p₀.size
  host : ok g.host

/-- The host grants every grow from here until the boundary has reached `b`. -/
inductive Guest.Granted (b : ℕ) : Guest σ β → Prop
  | reached {g} (le : b ≤ g.pool.backed) : Granted b g
  | grow {g} (lt : g.pool.backed < b) (ok : (guestPoolGrowOneLocked H B g).1 = 0)
      (rest : Granted b (guestPoolGrowOneLocked H B g).2) : Granted b g

/-- A boundary that growing can reach with room below it for a request of `size` bytes in blocks of `m`. -/
def Guest.Feasible (p₀ : GuestPool) (size m : ℕ) (g : Guest σ β) (b : ℕ) : Prop :=
  b ∈ grid g.pool.backed g.pool.step ∧ b ≤ p₀.size ∧ size ≤ capacity (B.live g.mm) m 0 b

/-- The least feasible boundary, and the host lets the guest reach it. -/
def Guest.Goal (p₀ : GuestPool) (size m : ℕ) (g : Guest σ β) (b : ℕ) : Prop :=
  IsLeast {x | g.Feasible B p₀ size m x} b ∧ g.Granted H B b

end Model

variable {σ β : Type} {H : PoolHost σ} {B : DrmBuddy β} {p₀ : GuestPool} {g g' : Guest σ β}
  {ok : σ → Prop} {size m k b : ℕ}

lemma growRequest_congr (hpool : g'.pool = g.pool) (hhost : g'.host = g.host) :
    (growRequest H B g').1 = (growRequest H B g).1 ∧
      (growRequest H B g').2.host = (growRequest H B g).2.host := by
  obtain ⟨pool,mm,host,calls⟩ := g
  obtain ⟨pool',mm',host',calls'⟩ := g'
  obtain rfl : pool' = pool := hpool
  obtain rfl : host' = host := hhost
  unfold growRequest gunyahPoolGrow gunyahPoolQueryRange
  dsimp only
  split
  · constructor <;> split_ifs <;> rfl
  · exact ⟨rfl,rfl⟩

/-- What a grow does depends on the pool and the host only. -/
theorem guestPoolGrowOneLocked_congr (hpool : g'.pool = g.pool) (hhost : g'.host = g.host) :
    (guestPoolGrowOneLocked H B g').1 = (guestPoolGrowOneLocked H B g).1 ∧
      (guestPoolGrowOneLocked H B g').2.pool = (guestPoolGrowOneLocked H B g).2.pool ∧
      (guestPoolGrowOneLocked H B g').2.host = (guestPoolGrowOneLocked H B g).2.host := by
  obtain ⟨hret,hh⟩ := growRequest_congr (H := H) (B := B) hpool hhost
  simp only [guestPoolGrowOneLocked,growRequest_pool,hpool,hret]
  split_ifs
  · exact ⟨rfl,hpool,hhost⟩
  · exact ⟨rfl,hpool,hhost⟩
  · exact ⟨rfl,rfl,hh⟩
  · exact ⟨hret,by simp [hpool],hh⟩

lemma Guest.Granted.congr (h : g.Granted H B b) (hpool : g'.pool = g.pool)
    (hhost : g'.host = g.host) : g'.Granted H B b := by
  induction h generalizing g' with
  | reached le => exact .reached (hpool ▸ le)
  | grow lt ok _ ih =>
    obtain ⟨hret,hp,hh⟩ := guestPoolGrowOneLocked_congr (H := H) (B := B) hpool hhost
    exact .grow (hpool ▸ lt) (hret.trans ok) (ih hp hh)

/-- Below `b`, the next grow must be granted. -/
theorem Guest.granted_iff (h : g.pool.backed < b) : g.Granted H B b ↔
    (guestPoolGrowOneLocked H B g).1 = 0 ∧ (guestPoolGrowOneLocked H B g).2.Granted H B b := by
  constructor
  · intro hg
    cases hg with
    | reached le => exact absurd h (not_lt.mpr le)
    | grow _ ok rest => exact ⟨ok,rest⟩
  · exact fun ⟨ok,rest⟩ => .grow h ok rest

/-- A grow that succeeds raises the boundary by a step, and leaves the step and the ledger. -/
theorem guestPoolGrowOneLocked_raised (h : (guestPoolGrowOneLocked H B g).1 = 0) :
    (guestPoolGrowOneLocked H B g).2.pool.backed = g.pool.backed+g.pool.step ∧
      (guestPoolGrowOneLocked H B g).2.pool.step = g.pool.step := by
  have hout := guestPoolGrowOneLocked_outcome H B g
  generalize guestPoolGrowOneLocked H B g = r at hout h ⊢
  cases hout with
  | refused ne => exact absurd h ne
  | failed _ ne => exact absurd h ne
  | raised => exact ⟨rfl,rfl⟩

lemma growRequest_granted (hH : H.Granting ok) (hg : ok g.host) :
    (growRequest H B g).1 = 0 ∧ ok (growRequest H B g).2.host := by
  have hgrant := hH g.host g.pool.poolId g.pool.backed g.pool.step hg
  have hans := growRequest_answer H B g
  generalize growRequest H B g = r at hans ⊢
  cases hans with
  | clear asked => rwa [asked] at hgrant
  | confirmed asked doubt | unconfirmed asked doubt =>
    rw [asked] at hgrant
    rcases doubt with h | h <;> simp [h] at hgrant

/-- A grow keeps the guest open. -/
theorem Guest.Open.grow (hH : H.Granting ok) (hg : g.Open B p₀ ok) :
    (guestPoolGrowOneLocked H B g).2.Open B p₀ ok := by
  have hhost := (growRequest_granted (B := B) hH hg.host).2
  have hsafe := hg.safe.grow (H := H)
  have hout := guestPoolGrowOneLocked_outcome H B g
  generalize guestPoolGrowOneLocked H B g = r at hsafe hout ⊢
  cases hout with
  | refused => exact hg
  | failed | raised => exact ⟨hsafe,by simpa using hg.size,hhost⟩

/-- A host that grants every grow lets the guest reach every boundary of the grid inside the pool. -/
theorem Guest.Open.granted (hH : H.Granting ok) (hg : g.Open B p₀ ok)
    (hb : b ∈ grid g.pool.backed g.pool.step) (hle : b ≤ p₀.size) : g.Granted H B b := by
  obtain ⟨n,hn⟩ := hb
  induction n generalizing g with
  | zero => exact .reached (by omega)
  | succ n ih =>
    by_cases hlt : g.pool.backed < b
    · have hopen := hg.grow (H := H) hH
      have hsize := hg.safe.bounded.size_eq
      have can : g.pool.CanGrow := by
        rw [Nat.succ_mul] at hn
        refine ⟨fun h0 => ?_,by omega,by omega⟩
        rw [h0] at hn
        omega
      have hok : (guestPoolGrowOneLocked H B g).1 = 0 := by
        have hreq := (growRequest_granted (B := B) hH hg.host).1
        have hout := guestPoolGrowOneLocked_outcome H B g
        generalize guestPoolGrowOneLocked H B g = r at hout ⊢
        cases hout with
        | refused _ stuck => exact absurd can stuck
        | failed _ ne => exact absurd hreq ne
        | raised => rfl
      obtain ⟨hbacked,hstep⟩ := guestPoolGrowOneLocked_raised hok
      refine .grow hlt hok (ih hopen ?_)
      rw [hbacked,hstep,hn,Nat.succ_mul]
      omega
    · exact .reached (not_lt.mp hlt)

lemma Guest.Open.attempt (hB : B.Sound) (hC : B.Complete) (hg : g.Open B p₀ ok) {ret : ℤ}
    {bs : List Block} {mm' : β} {size minBs : ℕ} (ne : ret ≠ 0)
    (asked : B.allocBlocks g.mm 0 g.pool.backed size minBs = (ret,bs,mm')) :
    ({ g with mm := mm' } : Guest σ β).Open B p₀ ok where
  safe := hg.safe.of_live rfl rfl (hB.alloc_failed asked ne).2
  size := (hC.alloc_size asked).trans hg.size
  host := hg.host

/-- The boundary of an accepted pool lies between pages. -/
theorem GuestPool.Accepted.backed_page {p : GuestPool} (hp : p₀.Accepted)
    (h : GuestPool.Bounded p₀ p) : PAGE_SIZE ∣ p.backed := by
  obtain ⟨k,hk⟩ := h.exists_step
  have hfolio : PAGE_SIZE ∣ SZ_2M := by decide
  rw [hk, GuestPool.stepOffset]
  exact Nat.dvd_add hp.prealloc_page ((hfolio.trans hp.step_folio).mul_left k)

/-- What the allocator answers for the backed prefix. -/
theorem Guest.Open.answer (hC : B.Complete) (hp : p₀.Accepted) (hg : g.Open B p₀ ok) (hk : 12 ≤ k)
    (hdvd : 2^k ∣ size) (hpos : 0 < size) (hsize : size ≤ p₀.size) {ret : ℤ} {bs : List Block} {mm' : β}
    (asked : B.allocBlocks g.mm 0 g.pool.backed size (2^k) = (ret,bs,mm')) :
    ret = if size ≤ capacity (B.live g.mm) (2^k) 0 g.pool.backed then 0 else -ENOSPC := by
  have hanswer := hC.alloc_prefix hpos (hg.size ▸ hsize) hk hdvd (hp.backed_page hg.safe.bounded)
    (hg.size ▸ hg.safe.bounded.ceiling)
  simpa [asked] using hanswer

/-- The backed prefix has room for the request. -/
def Guest.Fits (B : DrmBuddy β) (size m : ℕ) (g : Guest σ β) : Prop :=
  size ≤ capacity (B.live g.mm) m 0 g.pool.backed

lemma Guest.Goal.reached (hg : g.Safe B p₀) (h : g.Fits B size m) :
    g.Goal H B p₀ size m g.pool.backed :=
  ⟨isLeast_grid_self ⟨hg.bounded.ceiling,h⟩,.reached le_rfl⟩

/-- Where the backed prefix has no room, every feasible boundary is above it. -/
theorem Guest.Feasible.lt (h : g.Feasible B p₀ size m b) (hfits : ¬ g.Fits B size m) :
    g.pool.backed < b := by
  obtain ⟨hgrid,-,hcap⟩ := h
  refine lt_of_le_of_ne (le_of_mem_grid hgrid) fun heq => hfits ?_
  subst heq
  exact hcap

/-- A needed grow that succeeds keeps the goal. -/
theorem Guest.goal_grow (hfits : ¬ g.Fits B size m) (hok : (guestPoolGrowOneLocked H B g).1 = 0) :
    (guestPoolGrowOneLocked H B g).2.Goal H B p₀ size m b ↔ g.Goal H B p₀ size m b := by
  obtain ⟨hbacked,hstep⟩ := guestPoolGrowOneLocked_raised hok
  have hleast : IsLeast {x | g.Feasible B p₀ size m x} b ↔
      IsLeast {x | (guestPoolGrowOneLocked H B g).2.Feasible B p₀ size m x} b := by
    simp only [Guest.Feasible,hbacked,hstep,guestPoolGrowOneLocked_mm]
    exact isLeast_grid_next fun h => hfits h.2
  constructor
  · intro ⟨hb,hgrant⟩
    have hgoal := hleast.mpr hb
    exact ⟨hgoal,(Guest.granted_iff (hgoal.1.lt hfits)).mpr ⟨hok,hgrant⟩⟩
  · intro h
    exact ⟨hleast.mp h.1,((Guest.granted_iff (h.1.1.lt hfits)).mp h.2).2⟩

/-- A needed grow that fails leaves no goal. -/
theorem Guest.not_goal (hfits : ¬ g.Fits B size m) (hne : (guestPoolGrowOneLocked H B g).1 ≠ 0) :
    ¬ g.Goal H B p₀ size m b :=
  fun h => hne ((Guest.granted_iff (h.1.1.lt hfits)).mp h.2).1

/-- A failed attempt to allocate keeps the goal. -/
theorem Guest.goal_attempt {mm' : β} (hlive : (B.live mm').Perm (B.live g.mm)) :
    ({ g with mm := mm' } : Guest σ β).Goal H B p₀ size m b ↔ g.Goal H B p₀ size m b := by
  have hset : {x | ({ g with mm := mm' } : Guest σ β).Feasible B p₀ size m x} =
      {x | g.Feasible B p₀ size m x} := by
    ext x
    simp only [Guest.Feasible,capacity_perm hlive]
  unfold Guest.Goal
  rw [hset]
  exact and_congr_right' ⟨fun h => h.congr rfl rfl,fun h => h.congr rfl rfl⟩

lemma Guest.not_fits_attempt {mm' : β} (hlive : (B.live mm').Perm (B.live g.mm))
    (hfits : ¬ g.Fits B size m) : ¬ ({ g with mm := mm' } : Guest σ β).Fits B size m := by
  unfold Guest.Fits
  rwa [capacity_perm hlive]

/-- A pool with its allocator at its size, whatever the host does. -/
abbrev Guest.Ready (B : DrmBuddy β) (p₀ : GuestPool) (g : Guest σ β) : Prop :=
  g.Open B p₀ (fun _ => True)

lemma Guest.Ready.grow (hg : g.Ready B p₀) : (guestPoolGrowOneLocked H B g).2.Ready B p₀ :=
  ⟨hg.safe.grow,by simpa using hg.size,trivial⟩

/-- The backed prefix is too short for a request beyond it. -/
theorem Guest.not_fits_of_lt (h : g.pool.backed < size) : ¬ g.Fits B size m :=
  fun hfits => absurd (hfits.trans (capacity_le _ _ _ _)) (not_le.mpr h)

/-- Where no step fits no grow succeeds. -/
theorem guestPoolGrowOneLocked_ne_of_stuck (stuck : ¬ g.pool.CanGrow) :
    (guestPoolGrowOneLocked H B g).1 ≠ 0 := by
  have hout := guestPoolGrowOneLocked_outcome H B g
  generalize guestPoolGrowOneLocked H B g = r at hout ⊢
  cases hout with
  | refused ne => exact ne
  | failed can | raised can => exact absurd can stuck

/-- Growing to the size of the request keeps the goal, or fails without one. -/
theorem growTo_goal (m : ℕ) (hg : g.Ready B p₀) :
    (growTo H B size g).2.Ready B p₀ ∧
      ((growTo H B size g).1 = 0 → ∀ b,
        (growTo H B size g).2.Goal H B p₀ size m b ↔ g.Goal H B p₀ size m b) ∧
      ((growTo H B size g).1 ≠ 0 → ∀ b, ¬ g.Goal H B p₀ size m b) := by
  refine Loop.run_induct (growToBody_decreases H B size) (motive := fun g r => g.Ready B p₀ →
    r.2.Ready B p₀ ∧ (r.1 = 0 → ∀ b, r.2.Goal H B p₀ size m b ↔ g.Goal H B p₀ size m b) ∧
      (r.1 ≠ 0 → ∀ b, ¬ g.Goal H B p₀ size m b)) ?_ ?_ g hg
  · intro g r h hg
    simp only [growToBody] at h
    split_ifs at h with h₁ h₂ h₃
    · cases h
      refine ⟨hg,by simp,fun _ b => ?_⟩
      exact Guest.not_goal (Guest.not_fits_of_lt h₁)
        (guestPoolGrowOneLocked_ne_of_stuck fun can => can.1 h₂)
    · cases h
      exact ⟨hg.grow,fun h0 => absurd h0 h₃,fun _ b => Guest.not_goal (Guest.not_fits_of_lt h₁) h₃⟩
    · cases h
      exact ⟨hg,fun _ b => .rfl,fun h0 => absurd rfl h0⟩
  · intro g g' r h ih hg
    simp only [growToBody] at h
    split_ifs at h with h₁ h₂ h₃
    cases h
    obtain ⟨hready,hkeep,hfail⟩ := ih hg.grow
    have hgoal : ∀ b, (guestPoolGrowOneLocked H B g).2.Goal H B p₀ size m b ↔
        g.Goal H B p₀ size m b :=
      fun b => Guest.goal_grow (Guest.not_fits_of_lt h₁) (not_not.mp h₃)
    exact ⟨hready,fun h0 b => (hkeep h0 b).trans (hgoal b),
      fun h0 b hb => hfail h0 b ((hgoal b).mpr hb)⟩

/-- Where the loop ends, it has reached the goal, or there is none. -/
theorem allocBody_done (hB : B.Sound) (hC : B.Complete) (hp : p₀.Accepted) (hk : 12 ≤ k)
    (hdvd : 2^k ∣ size) (hpos : 0 < size) (hsize : size ≤ p₀.size) (hg : g.Ready B p₀)
    {r : ℤ × List Block × Guest σ β} (h : allocBody H B size (2^k) g = .inl r) :
    (r.1 = 0 → g.Goal H B p₀ size (2^k) r.2.2.pool.backed) ∧
      (r.1 ≠ 0 → ∀ b, ¬ g.Goal H B p₀ size (2^k) b) := by
  obtain ⟨hready,hkeep,hfail⟩ := growTo_goal (H := H) (2^k) hg
  simp only [allocBody] at h
  generalize growTo H B size g = t at h hready hkeep hfail
  rcases ha : B.allocBlocks t.2.mm 0 t.2.pool.backed size (2^k) with ⟨ret,bs,mm'⟩
  have hret := hready.answer hC hp hk hdvd hpos hsize ha
  simp only [ha] at h
  split_ifs at h with h₁ h₂ h₃
  · cases h
    exact ⟨fun h0 => absurd h0 h₁,fun _ => hfail h₁⟩
  · cases h
    have hkeep := hkeep (not_not.mp h₁)
    split_ifs at hret with hfits
    · exact ⟨fun _ => (hkeep _).mp (Guest.Goal.reached hready.safe hfits),fun h0 => absurd hret h0⟩
    · refine ⟨fun h0 => by simp [hret] at h0,fun _ b hb => ?_⟩
      have hstuck : ¬ t.2.pool.CanGrow := by
        intro can
        rcases h₂ with h | h | h | h
        · simp [hret] at h
        · exact h hret
        · exact can.1 h
        · exact absurd can.2.1 (not_lt.mpr h)
      exact Guest.not_goal hfits (guestPoolGrowOneLocked_ne_of_stuck hstuck) ((hkeep b).mpr hb)
  · cases h
    simp only [not_or] at h₂
    have hkeep := hkeep (not_not.mp h₁)
    have hlive := (hB.alloc_failed ha h₂.1).2
    have hfits := Guest.not_fits_attempt hlive fun hfits => h₂.1 (hret.trans (if_pos hfits))
    exact ⟨fun h0 => absurd h0 h₃,fun _ b hb => Guest.not_goal hfits h₃
      ((Guest.goal_attempt hlive).mpr ((hkeep b).mpr hb))⟩

/-- Where the loop goes on, it keeps the goal. -/
theorem allocBody_next (hB : B.Sound) (hC : B.Complete) (hp : p₀.Accepted) (hk : 12 ≤ k)
    (hdvd : 2^k ∣ size) (hpos : 0 < size) (hsize : size ≤ p₀.size) (hg : g.Ready B p₀)
    (h : allocBody H B size (2^k) g = .inr g') :
    g'.Ready B p₀ ∧ ∀ b, g'.Goal H B p₀ size (2^k) b ↔ g.Goal H B p₀ size (2^k) b := by
  obtain ⟨hready,hkeep,-⟩ := growTo_goal (H := H) (2^k) hg
  simp only [allocBody] at h
  generalize growTo H B size g = t at h hready hkeep
  rcases ha : B.allocBlocks t.2.mm 0 t.2.pool.backed size (2^k) with ⟨ret,bs,mm'⟩
  have hret := hready.answer hC hp hk hdvd hpos hsize ha
  simp only [ha] at h
  split_ifs at h with h₁ h₂ h₃
  cases h
  simp only [not_or] at h₂
  have hlive := (hB.alloc_failed ha h₂.1).2
  have hfits := Guest.not_fits_attempt hlive fun hfits => h₂.1 (hret.trans (if_pos hfits))
  have hnext : Guest.Ready B p₀ { t.2 with mm := mm' } := hready.attempt hB hC h₂.1 ha
  refine ⟨hnext.grow,fun b => ?_⟩
  calc (guestPoolGrowOneLocked H B { t.2 with mm := mm' }).2.Goal H B p₀ size (2^k) b
      ↔ Guest.Goal H B p₀ size (2^k) { t.2 with mm := mm' } b :=
        Guest.goal_grow hfits (not_not.mp h₃)
    _ ↔ t.2.Goal H B p₀ size (2^k) b := Guest.goal_attempt hlive
    _ ↔ g.Goal H B p₀ size (2^k) b := hkeep (not_not.mp h₁) b

/-- The allocation loop ends at the goal, or fails without one. -/
theorem allocLoop_goal (hB : B.Sound) (hC : B.Complete) (hp : p₀.Accepted) (hk : 12 ≤ k)
    (hdvd : 2^k ∣ size) (hpos : 0 < size) (hsize : size ≤ p₀.size) (hg : g.Ready B p₀) :
    ((allocLoop H B size (2^k) g).1 = 0 →
        g.Goal H B p₀ size (2^k) (allocLoop H B size (2^k) g).2.2.pool.backed) ∧
      ((allocLoop H B size (2^k) g).1 ≠ 0 → ∀ b, ¬ g.Goal H B p₀ size (2^k) b) := by
  refine Loop.run_induct (allocBody_decreases H B size (2^k)) (motive := fun g r => g.Ready B p₀ →
    (r.1 = 0 → g.Goal H B p₀ size (2^k) r.2.2.pool.backed) ∧
      (r.1 ≠ 0 → ∀ b, ¬ g.Goal H B p₀ size (2^k) b)) ?_ ?_ g hg
  · intro g r h hg
    exact allocBody_done hB hC hp hk hdvd hpos hsize hg h
  · intro g g' r h ih hg
    obtain ⟨hready,hgoal⟩ := allocBody_next hB hC hp hk hdvd hpos hsize hg h
    obtain ⟨hserved,hnone⟩ := ih hready
    exact ⟨fun h0 => (hgoal _).mp (hserved h0),fun h0 b hb => hnone h0 b ((hgoal b).mpr hb)⟩

/-- A request with a rounded size above zero ends at its goal, or fails without one. -/
theorem guestPoolAlloc_goal (hB : B.Sound) (hC : B.Complete) (hp : p₀.Accepted)
    (hg : g.Ready B p₀) {maxNents : ℤ} (hsize : size ≠ 0)
    (hround : 0 < (guestPoolRound maxNents size).1) :
    let a := guestPoolAlloc H B maxNents size g
    let need := (guestPoolRound maxNents size).1
    let minBs := (guestPoolRound maxNents size).2
    (a.1 = 0 → g.Goal H B p₀ need minBs a.2.2.pool.backed) ∧
      (a.1 ≠ 0 → ∀ b, ¬ g.Goal H B p₀ need minBs b) := by
  obtain ⟨k,hk,hminBs,hdvd⟩ := guestPoolRound_pow maxNents size
  have hready := hg.safe.bounded.ready
  have hsz := hg.safe.bounded.size_eq
  simp only [guestPoolAlloc,hready,hsize,Bool.true_eq_false,or_self,if_false,hsz]
  split_ifs with hbig
  · refine ⟨fun h => by simp at h,fun _ b hb => ?_⟩
    obtain ⟨-,hle,hcap⟩ := hb.1.1
    have hroom := hcap.trans (capacity_le _ _ _ _)
    omega
  · have hgoal := allocLoop_goal (H := H) hB hC hp hk hdvd hround (not_lt.mp hbig) hg
    rw [← hminBs] at hgoal
    simp only [guestPoolAllocLocked,hready,Bool.true_eq_false,if_false]
    split_ifs with hfail
    · exact ⟨fun h0 => absurd h0 hfail,fun _ => hgoal.2 hfail⟩
    · exact ⟨fun _ => hgoal.1 (not_not.mp hfail),fun h0 => absurd h0 hfail⟩

/-- Against a host that grants every grow, it succeeds exactly when some boundary is feasible. -/
theorem guestPoolAlloc_granted (hB : B.Sound) (hC : B.Complete) (hp : p₀.Accepted)
    (hH : H.Granting ok) (hg : g.Open B p₀ ok) {maxNents : ℤ} (hsize : size ≠ 0)
    (hround : 0 < (guestPoolRound maxNents size).1) :
    (guestPoolAlloc H B maxNents size g).1 = 0 ↔
      ∃ b, g.Feasible B p₀ (guestPoolRound maxNents size).1 (guestPoolRound maxNents size).2 b := by
  obtain ⟨hserved,hnone⟩ :=
    guestPoolAlloc_goal (H := H) hB hC hp ⟨hg.safe,hg.size,trivial⟩ hsize hround
  constructor
  · exact fun h0 => ⟨_,(hserved h0).1.1⟩
  · intro hne
    have hleast : IsLeast {x | g.Feasible B p₀ _ _ x} _ := isLeast_csInf hne
    by_contra h0
    exact hnone h0 _ ⟨hleast,hg.granted hH hleast.1.1 hleast.1.2.1⟩

/-- In every reachable state the allocator has the size of the pool. -/
theorem PoolClient.run_ready (hB : B.Sound) (hC : B.Complete)
    {reservedMemory : Option (List DtNode)} {ret : ℤ} {p : GuestPool} {mm : β}
    (hinit : guestPoolInit B reservedMemory = (ret,some (p,mm))) (H : PoolHost σ) (host : σ)
    (events : List PoolEvent) : ((PoolClient.start p mm host).run H B events).guest.Ready B p := by
  obtain ⟨hp,hmm⟩ := guestPoolInit_accepted hinit
  have hstart := PoolClient.start_safe hB hp hmm host
  have hsize : B.size ((PoolClient.start p mm host).run H B events).guest.mm = p.size :=
    PoolClient.run_mm (J := fun mm => B.size mm = p.size) (fun h hmm => (hC.alloc_size h).trans hmm)
      (fun bs hmm => (hC.free_size _ bs).trans hmm) hB hstart (hC.init_size hmm) events
  exact ⟨(hstart.run hB events).guest,hsize,trivial⟩

/-- In any run of any accepted pool and whatever the host answers, an allocation whose rounding does not
wrap to zero succeeds exactly when some boundary on the grid is feasible and the host grants the
grows up to the least one, which is where the boundary then is. Otherwise it returns no block and
leaves the live blocks. Against a host that grants every grow it succeeds exactly when some boundary
is feasible. -/
theorem guestPoolAlloc_least (hB : B.Sound) (hC : B.Complete)
    {reservedMemory : Option (List DtNode)} {ret : ℤ} {p : GuestPool} {mm : β}
    (hinit : guestPoolInit B reservedMemory = (ret,some (p,mm))) (H : PoolHost σ) (host : σ)
    (events : List PoolEvent) (maxNents : ℤ) {size : ℕ} (hsize : size ≠ 0)
    (hround : 0 < (guestPoolRound maxNents size).1) :
    let g := ((PoolClient.start p mm host).run H B events).guest
    let a := guestPoolAlloc H B maxNents size g
    let feasible : Set ℕ := {b | b ∈ grid g.pool.backed g.pool.step ∧ b ≤ p.size ∧
      (guestPoolRound maxNents size).1 ≤
        capacity (B.live g.mm) (guestPoolRound maxNents size).2 0 b}
    (a.1 = 0 ↔ ∃ b, IsLeast feasible b ∧ g.Granted H B b) ∧
      (a.1 = 0 → IsLeast feasible a.2.2.pool.backed) ∧
      (a.1 ≠ 0 → a.2.1 = [] ∧ (B.live a.2.2.mm).Perm (B.live g.mm)) ∧
      ∀ ok, H.Granting ok → ok g.host → (a.1 = 0 ↔ feasible.Nonempty) := by
  intro g a feasible
  have hp := (guestPoolInit_accepted hinit).1
  have hready : g.Ready B p := PoolClient.run_ready hB hC hinit H host events
  obtain ⟨hserved,hnone⟩ : (a.1 = 0 → IsLeast feasible a.2.2.pool.backed ∧
      g.Granted H B a.2.2.pool.backed) ∧
      (a.1 ≠ 0 → ∀ b, ¬ (IsLeast feasible b ∧ g.Granted H B b)) :=
    guestPoolAlloc_goal hB hC hp hready hsize hround
  have hiff : a.1 = 0 ↔ ∃ b, IsLeast feasible b ∧ g.Granted H B b :=
    ⟨fun h0 => ⟨_,hserved h0⟩,fun ⟨b,hb⟩ => by_contra fun h0 => hnone h0 b hb⟩
  refine ⟨hiff,fun h0 => (hserved h0).1,fun h0 => ?_,fun ok hH hok => ?_⟩
  · rcases guestPoolAlloc_outcome (H := H) hB maxNents size g with
      ⟨_,g',retry,_,moves,heq⟩ | ⟨_,_,_,_,_,_,heq⟩
    · have ha : a = (_,[],g'.armReclaim retry) := heq
      rw [ha]
      exact ⟨rfl,by simpa using moves.live hB⟩
    · exact absurd (congrArg Prod.fst heq) h0
  · exact guestPoolAlloc_granted hB hC hp hH ⟨hready.safe,hready.size,hok⟩ hsize hround

/-- A full floor of 2 MiB makes the next block of 2 MiB grow the pool, and the host refuses. -/
theorem guestPoolAlloc_least_refused :
    let p : GuestPool := ⟨0x100000000,0x600000,0,0x200000,0x200000,0x200000,true,false⟩
    let g := ((PoolClient.start p ⟨0x600000,[]⟩ [(-EBUSY,false)]).run PoolHost.scripted
      FirstFit.buddy [.alloc 1 0x200000]).guest
    let a := guestPoolAlloc PoolHost.scripted FirstFit.buddy 1 0x200000 g
    let feasible : Set ℕ := {b | b ∈ grid g.pool.backed g.pool.step ∧ b ≤ p.size ∧
      (guestPoolRound 1 0x200000).1 ≤
        capacity (FirstFit.buddy.live g.mm) (guestPoolRound 1 0x200000).2 0 b}
    (a.1 = 0 ↔ ∃ b, IsLeast feasible b ∧ g.Granted PoolHost.scripted FirstFit.buddy b) ∧
      (a.1 = 0 → IsLeast feasible a.2.2.pool.backed) ∧
      (a.1 ≠ 0 → a.2.1 = [] ∧ (FirstFit.buddy.live a.2.2.mm).Perm (FirstFit.buddy.live g.mm)) ∧
      ∀ ok, PoolHost.scripted.Granting ok → ok g.host → (a.1 = 0 ↔ feasible.Nonempty) :=
  guestPoolAlloc_least FirstFit.buddy_sound FirstFit.buddy_complete
    (show guestPoolInit _ (some [gpuGuestNode 0x200000 0x600000 0x200000]) = (0,_) by rfl) _ _ _ _
    (by decide) (by decide +kernel)

end GuestAdditions

import GuestAdditions.GuestPool.FirstFit
import GuestAdditions.GuestPool.Runs

/-! The boundary invariant of the guest pool: whatever the host answers, the boundary stays on the
grid of the accepted layout, every request is for the step next to it, and no live block ever
reaches above it. -/
namespace GuestAdditions

/-- The current pool against the accepted one `p₀`. -/
structure GuestPool.Bounded (p₀ p : GuestPool) : Prop where
  size_eq : p.size = p₀.size
  prealloc_eq : p.prealloc = p₀.prealloc
  poolId_eq : p.poolId = p₀.poolId
  floor : p₀.prealloc ≤ p.backed
  ceiling : p.backed ≤ p₀.size
  grid : p₀.step ∣ p.backed - p₀.prealloc
  step_eq : p.step = p₀.step ∨ p.step = 0
  ready : p.ready = true

def GuestPool.stepOffset (p : GuestPool) (k : ℕ) : ℕ := p.prealloc+k*p.step

/-- Step `k` exists and lies inside the pool. -/
def GuestPool.IsStep (p : GuestPool) (k : ℕ) : Prop := 0 < p.step ∧ p.stepOffset k+p.step ≤ p.size

/-- A request is for the whole step just above the boundary it was made under, or for the whole
step just below it with no live block there. -/
structure HostCall.Proper (p₀ : GuestPool) (c : HostCall) : Prop where
  len_eq : c.len = p₀.step
  share : c.op = .share → c.offset = c.boundary ∧ c.boundary+c.len ≤ p₀.size
  unshare : c.op = .unshare →
    c.offset+c.len = c.boundary ∧ ∀ l ∈ c.live, l.Avoids c.offset c.boundary

section Invariant
variable {σ β : Type} (B : DrmBuddy β) (p₀ : GuestPool)

structure Guest.Safe (g : Guest σ β) : Prop where
  bounded : GuestPool.Bounded p₀ g.pool
  proper : ∀ c ∈ g.calls, c.Proper p₀
  below : ∀ l ∈ B.live g.mm, l.stop ≤ g.pool.backed
  separate : Separate (B.live g.mm)

/-- The ledger of the allocator is what the callers hold. -/
structure PoolClient.Safe (s : PoolClient σ β) : Prop where
  guest : s.guest.Safe B p₀
  held : (B.live s.guest.mm).Perm s.held.flatten

end Invariant

variable {σ β : Type} {H : PoolHost σ} {B : DrmBuddy β} {p₀ : GuestPool} {g g' : Guest σ β}

lemma GuestPool.Accepted.bounded (h : p₀.Accepted) : GuestPool.Bounded p₀ p₀ where
  size_eq := rfl
  prealloc_eq := rfl
  poolId_eq := rfl
  floor := h.backed_eq.ge
  ceiling := h.backed_eq.trans_le h.prealloc_le
  grid := by rw [h.backed_eq, Nat.sub_self]; exact dvd_zero _
  step_eq := .inl rfl
  ready := h.ready

namespace GuestPool.Bounded
variable {p : GuestPool}

lemma step_of_ne (h : GuestPool.Bounded p₀ p) (h0 : p.step ≠ 0) : p.step = p₀.step :=
  h.step_eq.resolve_right h0

/-- Above the floor there is at least one whole step. -/
theorem floor_add_step_le (h : GuestPool.Bounded p₀ p) (can : p.CanShrink) :
    p₀.prealloc+p.step ≤ p.backed := by
  have hlt : p₀.prealloc < p.backed := h.prealloc_eq ▸ can.2
  have hle := Nat.le_of_dvd (Nat.sub_pos_of_lt hlt) h.grid
  rw [h.step_of_ne can.1]
  omega

lemma raise (h : GuestPool.Bounded p₀ p) (can : p.CanGrow) :
    GuestPool.Bounded p₀ { p with backed := p.backed+p.step } where
  size_eq := h.size_eq
  prealloc_eq := h.prealloc_eq
  poolId_eq := h.poolId_eq
  floor := h.floor.trans (Nat.le_add_right _ _)
  ceiling := h.size_eq ▸ can.2.2
  grid := by
    have hsub : p.backed+p.step - p₀.prealloc = p.backed - p₀.prealloc+p.step := by
      have := h.floor
      omega
    simp only [hsub]
    exact Nat.dvd_add h.grid (h.step_of_ne can.1 ▸ dvd_rfl)
  step_eq := h.step_eq
  ready := h.ready

/-- Lowering by one step keeps the bounds, whether or not growth is stopped for good. -/
theorem lower (h : GuestPool.Bounded p₀ p) (can : p.CanShrink) {step : ℕ}
    (hstep : step = p.step ∨ step = 0) :
    GuestPool.Bounded p₀ { p with backed := p.backed - p.step, step := step } where
  size_eq := h.size_eq
  prealloc_eq := h.prealloc_eq
  poolId_eq := h.poolId_eq
  floor := by
    have := h.floor_add_step_le can
    simp only
    omega
  ceiling := (Nat.sub_le _ _).trans h.ceiling
  grid := by
    have hsub : p.backed - p.step - p₀.prealloc = p.backed - p₀.prealloc - p.step := by omega
    simp only [hsub]
    exact Nat.dvd_sub h.grid (h.step_of_ne can.1 ▸ dvd_rfl)
  step_eq := by
    rcases hstep with rfl | rfl
    · exact h.step_eq
    · exact .inr rfl
  ready := h.ready

/-- The pending flag of the delayed work is not bounded by anything. -/
theorem arm (h : GuestPool.Bounded p₀ p) (armed : Bool) :
    GuestPool.Bounded p₀ { p with reclaimArmed := armed } where
  size_eq := h.size_eq
  prealloc_eq := h.prealloc_eq
  poolId_eq := h.poolId_eq
  floor := h.floor
  ceiling := h.ceiling
  grid := h.grid
  step_eq := h.step_eq
  ready := h.ready

end GuestPool.Bounded

/-- Steps do not overlap: a step that ends above an offset and starts at or below it is the one
there. -/
theorem GuestPool.stepOffset_unique (p : GuestPool) {j k : ℕ} (hpos : 0 < p.step)
    (hlo : p.stepOffset k < p.stepOffset j+p.step) (hhi : p.stepOffset j ≤ p.stepOffset k) :
    j = k := by
  simp only [GuestPool.stepOffset] at hlo hhi
  have h₁ : j*p.step ≤ k*p.step := by omega
  have h₂ : k*p.step < (j+1)*p.step := by rw [Nat.succ_mul]; omega
  have h₃ := Nat.le_of_mul_le_mul_right h₁ hpos
  have h₄ := Nat.lt_of_mul_lt_mul_right h₂
  omega

lemma GuestPool.Bounded.exists_step {p : GuestPool} (h : GuestPool.Bounded p₀ p) :
    ∃ k, p.backed = p₀.stepOffset k := by
  obtain ⟨k,hk⟩ := h.grid
  have := h.floor
  exact ⟨k,by rw [GuestPool.stepOffset, Nat.mul_comm]; omega⟩

/-- The step above the boundary. -/
theorem GuestPool.Bounded.next_step {p : GuestPool} (h : GuestPool.Bounded p₀ p)
    (can : p.CanGrow) : ∃ k, p₀.IsStep k ∧ p.backed = p₀.stepOffset k ∧ p.step = p₀.step := by
  obtain ⟨k,hk⟩ := h.exists_step
  have hstep := h.step_of_ne can.1
  have hsize := h.size_eq
  obtain ⟨hne,-,hle⟩ := can
  exact ⟨k,⟨by omega,by omega⟩,hk,hstep⟩

/-- The step below the boundary. -/
theorem GuestPool.Bounded.last_step {p : GuestPool} (h : GuestPool.Bounded p₀ p)
    (can : p.CanShrink) :
    ∃ k, p₀.IsStep k ∧ p.backed - p.step = p₀.stepOffset k ∧ p.step = p₀.step ∧
      p.backed = p₀.stepOffset k+p₀.step := by
  obtain ⟨k,hk⟩ := h.exists_step
  have hstep := h.step_of_ne can.1
  have hfloor := h.floor_add_step_le can
  have hceil := h.ceiling
  obtain ⟨hne,-⟩ := can
  cases k with
  | zero => simp only [GuestPool.stepOffset, Nat.zero_mul] at hk; omega
  | succ k =>
    simp only [GuestPool.stepOffset, Nat.succ_mul] at hk
    refine ⟨k,⟨by omega,?_⟩,?_,hstep,?_⟩ <;> simp only [GuestPool.stepOffset] <;> omega

/-- The calls of a request, all for the same range under the same view of the guest. -/
def CallsFor (g : Guest σ β) (B : DrmBuddy β) (op : PoolOp) (offset : ℕ) (c : HostCall) : Prop :=
  (c.op = op ∨ c.op = .query) ∧ c.offset = offset ∧ c.len = g.pool.step ∧
    c.boundary = g.pool.backed ∧ c.live = B.live g.mm

lemma CallsFor.call {op op' : PoolOp} (h : op' = op ∨ op' = .query) (offset : ℕ) (ret : ℤ)
    (answer : Bool) : CallsFor g B op offset (g.call B op' offset ret answer) :=
  ⟨h,rfl,rfl,rfl,rfl⟩

lemma growRequest_calls {c : HostCall} (h : c ∈ (growRequest H B g).2.calls) :
    CallsFor g B .share g.pool.backed c ∨ c ∈ g.calls := by
  have hans := growRequest_answer H B g
  generalize growRequest H B g = r at hans h
  cases hans with
  | clear =>
    rcases List.mem_cons.mp h with rfl | h
    exacts [.inl (.call (.inl rfl) _ _ _),.inr h]
  | confirmed | unconfirmed =>
    simp only [List.mem_cons] at h
    rcases h with rfl | rfl | h
    exacts [.inl (.call (.inr rfl) _ _ _),.inl (.call (.inl rfl) _ _ _),.inr h]

lemma shrinkRequest_calls {c : HostCall} (h : c ∈ (shrinkRequest H B g).2.calls) :
    CallsFor g B .unshare (g.pool.backed - g.pool.step) c ∨ c ∈ g.calls := by
  have hans := shrinkRequest_answer H B g
  generalize shrinkRequest H B g = r at hans h
  cases hans with
  | clear =>
    rcases List.mem_cons.mp h with rfl | h
    exacts [.inl (.call (.inl rfl) _ _ _),.inr h]
  | released | kept =>
    simp only [List.mem_cons] at h
    rcases h with rfl | rfl | h
    exacts [.inl (.call (.inr rfl) _ _ _),.inl (.call (.inl rfl) _ _ _),.inr h]

lemma growRequest_proper (hg : g.Safe B p₀) (can : g.pool.CanGrow) :
    ∀ c ∈ (growRequest H B g).2.calls, c.Proper p₀ := by
  intro c hc
  rcases growRequest_calls hc with ⟨hop,hoff,hlen,hbound,-⟩ | hold
  · refine ⟨hlen.trans (hg.bounded.step_of_ne can.1),fun _ => ⟨hoff.trans hbound.symm,?_⟩,fun hu => ?_⟩
    · rw [hbound, hlen, ← hg.bounded.size_eq]
      exact can.2.2
    · rcases hop with h | h <;> simp [hu] at h
  · exact hg.proper c hold

lemma shrinkRequest_proper (hg : g.Safe B p₀) (can : g.pool.CanShrink)
    (free : ∀ l ∈ B.live g.mm, l.Avoids (g.pool.backed - g.pool.step) g.pool.backed) :
    ∀ c ∈ (shrinkRequest H B g).2.calls, c.Proper p₀ := by
  intro c hc
  rcases shrinkRequest_calls hc with ⟨hop,hoff,hlen,hbound,hlive⟩ | hold
  · refine ⟨hlen.trans (hg.bounded.step_of_ne can.1),fun hs => ?_,fun _ => ⟨?_,?_⟩⟩
    · rcases hop with h | h <;> simp [hs] at h
    · have := hg.bounded.floor_add_step_le can
      omega
    · rw [hlive, hoff, hbound]
      exact free
  · exact hg.proper c hold

lemma Guest.Safe.grow (hg : g.Safe B p₀) : (guestPoolGrowOneLocked H B g).2.Safe B p₀ := by
  have hout := guestPoolGrowOneLocked_outcome H B g
  generalize guestPoolGrowOneLocked H B g = r at hout ⊢
  cases hout with
  | refused => exact hg
  | failed can =>
    exact ⟨by simpa using hg.bounded,growRequest_proper hg can,by simpa using hg.below,
      by simpa using hg.separate⟩
  | raised can =>
    refine ⟨hg.bounded.raise can,growRequest_proper hg can,fun l hl => ?_,by simpa using hg.separate⟩
    simp only [growRequest_mm] at hl
    exact (hg.below l hl).trans (Nat.le_add_right _ _)

lemma Guest.Safe.shrink (hg : g.Safe B p₀)
    (free : ∀ l ∈ B.live g.mm, l.Avoids (g.pool.backed - g.pool.step) g.pool.backed) :
    (guestPoolShrinkOneLocked H B g).2.Safe B p₀ := by
  have hbelow : ∀ l ∈ B.live g.mm, l.stop ≤ g.pool.backed - g.pool.step :=
    fun l hl => (free l hl).stop_le (hg.below l hl)
  have hout := guestPoolShrinkOneLocked_outcome H B g
  generalize guestPoolShrinkOneLocked H B g = r at hout ⊢
  cases hout with
  | refused => exact hg
  | stopped can =>
    exact ⟨hg.bounded.lower can (.inr rfl),shrinkRequest_proper hg can free,by simpa using hbelow,
      by simpa using hg.separate⟩
  | lowered can =>
    exact ⟨hg.bounded.lower can (.inl rfl),shrinkRequest_proper hg can free,by simpa using hbelow,
      by simpa using hg.separate⟩
  | failed can =>
    exact ⟨by simpa using hg.bounded,shrinkRequest_proper hg can free,by simpa using hg.below,
      by simpa using hg.separate⟩

/-- Only the ledger matters of the allocator's state. -/
theorem Guest.Safe.of_live (hg : g.Safe B p₀) (hpool : g'.pool = g.pool) (hcalls : g'.calls = g.calls)
    (hlive : (B.live g'.mm).Perm (B.live g.mm)) : g'.Safe B p₀ where
  bounded := hpool ▸ hg.bounded
  proper := hcalls ▸ hg.proper
  below l hl := hpool ▸ hg.below l (hlive.mem_iff.mp hl)
  separate := hg.separate.perm hlive.symm

lemma Move.safe (hB : B.Sound) (h : Move H B g g') (hg : g.Safe B p₀) : g'.Safe B p₀ := by
  rcases h with h | h
  · cases h with
    | grow => exact hg.grow
    | attempt ne asked => exact hg.of_live rfl rfl (hB.alloc_failed asked ne).2
  · cases h with
    | probe =>
      refine hg.of_live (by simp) ?_ (guestPoolStepFreeLocked_live hB g)
      have hout := guestPoolStepFreeLocked_outcome B g
      generalize guestPoolStepFreeLocked B g = r at hout ⊢
      cases hout <;> rfl
    | shrink free => exact hg.shrink free

/-- No move changes the ledger. -/
theorem Move.live (hB : B.Sound) (h : Move H B g g') : (B.live g'.mm).Perm (B.live g.mm) := by
  rcases h with h | h
  · cases h with
    | grow => simp
    | attempt ne asked => exact (hB.alloc_failed asked ne).2
  · cases h with
    | probe => exact guestPoolStepFreeLocked_live hB g
    | shrink => simp

lemma Moves.safe (hB : B.Sound) (h : Moves H B g g') (hg : g.Safe B p₀) : g'.Safe B p₀ :=
  Transition.chain_invariant (I := fun g => g.Safe B p₀) (fun _ _ hm => hm.safe hB) h hg

lemma Moves.live (hB : B.Sound) (h : Moves H B g g') : (B.live g'.mm).Perm (B.live g.mm) :=
  Transition.chain_invariant (I := fun k => (B.live k.mm).Perm (B.live g.mm))
    (fun _ _ hm hk => (hm.live hB).trans hk) h (.refl _)

/-- The pending flag of the delayed work plays no part in the invariant. -/
theorem Guest.Safe.arm (hg : g.Safe B p₀) (armed : Bool) :
    ({ g with pool := { g.pool with reclaimArmed := armed } } : Guest σ β).Safe B p₀ :=
  ⟨hg.bounded.arm armed,hg.proper,hg.below,hg.separate⟩

lemma Guest.Safe.armReclaim (hg : g.Safe B p₀) (retry : Bool) :
    (g.armReclaim retry).Safe B p₀ := by
  cases retry with
  | false => exact hg
  | true => exact hg.arm true

@[simp] lemma armReclaim_mm (g : Guest σ β) (retry : Bool) : (g.armReclaim retry).mm = g.mm := by
  cases retry <;> rfl

/-- A served allocation puts blocks below the boundary, disjoint from the live ones. -/
theorem Guest.Safe.serve (hB : B.Sound) (hg : g.Safe B p₀) {size minBs : ℕ} {bs : List Block} {mm' : β}
    (asked : B.allocBlocks g.mm 0 g.pool.backed size minBs = (0,bs,mm')) :
    ({ g with mm := mm' } : Guest σ β).Safe B p₀ where
  bounded := hg.bounded
  proper := hg.proper
  below l hl := by
    rcases List.mem_append.mp ((hB.alloc_live asked).mem_iff.mp hl) with h | h
    · exact (hB.alloc_within asked l h).2
    · exact hg.below l h
  separate := by
    refine Separate.perm ?_ (hB.alloc_live asked).symm
    obtain ⟨hsep,hdisj⟩ := hB.alloc_separate asked
    exact Separate.append_iff.mpr ⟨hsep,hg.separate,hdisj⟩

/-- Returning blocks shrinks the ledger. -/
theorem Guest.Safe.give (hB : B.Sound) (hg : g.Safe B p₀) {bs rest : List Block}
    (hperm : (B.live g.mm).Perm (bs ++ rest)) :
    ({ g with mm := B.freeList g.mm bs } : Guest σ β).Safe B p₀ where
  bounded := hg.bounded
  proper := hg.proper
  below l hl := hg.below l (hperm.mem_iff.mpr
    (List.mem_append_right _ ((hB.free_live hperm).mem_iff.mp hl)))
  separate := ((hg.separate.perm hperm).right).perm (hB.free_live hperm).symm

lemma PoolClient.Safe.outcome (hB : B.Sound) {s s' : PoolClient σ β} (hs : s.Safe B p₀)
    (h : ClientOutcome H B s s') : s'.Safe B p₀ := by
  cases h with
  | idle => exact hs
  | allocFailed moves retry =>
    exact ⟨(moves.safe hB hs.guest).armReclaim retry,by simpa using (moves.live hB).trans hs.held⟩
  | allocServed rises asked =>
    refine ⟨(rises.moves.safe hB hs.guest).serve hB asked,(hB.alloc_live asked).trans ?_⟩
    rw [List.flatten_cons]
    exact ((rises.moves.live hB).trans hs.held).append_left _
  | released perm => exact ⟨hs.guest,hs.held.trans perm.flatten⟩
  | freed perm moves retry =>
    have hperm := hs.held.trans perm.flatten
    rw [List.flatten_cons] at hperm
    refine ⟨(moves.safe hB (hs.guest.give hB hperm)).armReclaim retry,?_⟩
    simpa using (moves.live hB).trans (hB.free_live hperm)
  | worked moves retry =>
    refine ⟨(moves.safe hB (hs.guest.arm false)).armReclaim retry,?_⟩
    simpa using (moves.live hB).trans hs.held

lemma PoolClient.Safe.run (hB : B.Sound) {s : PoolClient σ β} (hs : s.Safe B p₀)
    (events : List PoolEvent) : (s.run H B events).Safe B p₀ :=
  PoolClient.run_invariant hB (fun _ hs => hs.guest.bounded.ready) (fun _ _ hs => hs.outcome hB) hs
    events

lemma PoolClient.start_safe (hB : B.Sound) {mm : β} (hp : p₀.Accepted)
    (hmm : B.init p₀.size PAGE_SIZE = (0,mm)) (host : σ) :
    (PoolClient.start p₀ mm host).Safe B p₀ := by
  refine ⟨⟨hp.bounded,?_,?_,?_⟩,?_⟩
  all_goals simp [PoolClient.start, hB.init_live hmm]

/-- What growing and shrinking preserve, and neither the allocator nor the pending flag matters to,
a sequence of moves preserves. -/
theorem Moves.guest (hB : B.Sound) {I : Guest σ β → Prop}
    (hmm : ∀ (g : Guest σ β) mm, I g → I { g with mm := mm })
    (hgrow : ∀ g, g.Safe B p₀ → I g → I (guestPoolGrowOneLocked H B g).2)
    (hshrink : ∀ g, g.Safe B p₀ → I g → I (guestPoolShrinkOneLocked H B g).2)
    (h : Moves H B g g') (hg : g.Safe B p₀) (hI : I g) : I g' := by
  refine (Transition.chain_invariant (I := fun g => g.Safe B p₀ ∧ I g) ?_ h ⟨hg,hI⟩).2
  intro g g' hm ⟨hg,hI⟩
  refine ⟨hm.safe hB hg,?_⟩
  rcases hm with hm | hm
  · cases hm with
    | grow => exact hgrow g hg hI
    | attempt => exact hmm g _ hI
  · cases hm with
    | probe =>
      have hout := guestPoolStepFreeLocked_outcome B g
      generalize guestPoolStepFreeLocked B g = r at hout ⊢
      cases hout with
      | refused => exact hI
      | busy => exact hmm g _ hI
      | free => exact hmm g _ hI
    | shrink => exact hshrink g hg hI

/-- The same rule for a whole run. -/
theorem PoolClient.run_guest (hB : B.Sound) {I : Guest σ β → Prop}
    (hmm : ∀ (g : Guest σ β) mm, I g → I { g with mm := mm })
    (harm : ∀ (g : Guest σ β) armed,
      I g → I { g with pool := { g.pool with reclaimArmed := armed } })
    (hgrow : ∀ g, g.Safe B p₀ → I g → I (guestPoolGrowOneLocked H B g).2)
    (hshrink : ∀ g, g.Safe B p₀ → I g → I (guestPoolShrinkOneLocked H B g).2)
    {s : PoolClient σ β} (hs : s.Safe B p₀) (hI : I s.guest) (events : List PoolEvent) :
    I (s.run H B events).guest := by
  have hretry : ∀ (g : Guest σ β) retry, I g → I (g.armReclaim retry) := by
    intro g retry hg
    cases retry with
    | false => exact hg
    | true => exact harm g true hg
  refine (PoolClient.run_invariant (I := fun s => s.Safe B p₀ ∧ I s.guest) hB
    (fun _ h => h.1.guest.bounded.ready) ?_ ⟨hs,hI⟩ events).2
  intro s s' ⟨hs,hI⟩ hout
  refine ⟨hs.outcome hB hout,?_⟩
  cases hout with
  | idle => exact hI
  | allocFailed moves retry => exact hretry _ _ (moves.guest hB hmm hgrow hshrink hs.guest hI)
  | allocServed rises asked =>
    exact hmm _ _ (rises.moves.guest hB hmm hgrow hshrink hs.guest hI)
  | released => exact hI
  | freed perm moves retry =>
    have hperm := hs.held.trans perm.flatten
    rw [List.flatten_cons] at hperm
    exact hretry _ _ (moves.guest hB hmm hgrow hshrink (hs.guest.give hB hperm) (hmm _ _ hI))
  | worked moves retry =>
    exact hretry _ _ (moves.guest hB hmm hgrow hshrink (hs.guest.arm false) (harm _ _ hI))

section Allocator
variable {J : β → Prop} (halloc : ∀ {mm mm' lo hi size minBs ret bs},
    B.allocBlocks mm lo hi size minBs = (ret,bs,mm') → J mm → J mm')
  (hfree : ∀ {mm} bs, J mm → J (B.freeList mm bs))
include halloc hfree

lemma Moves.mm (h : Moves H B g g') (hJ : J g.mm) : J g'.mm := by
  refine Transition.chain_invariant (I := fun g => J g.mm) (fun g g' hm hg => ?_) h hJ
  rcases hm with hm | hm
  · cases hm with
    | grow => simpa using hg
    | attempt ne asked => exact halloc asked hg
  · cases hm with
    | probe =>
      have hout := guestPoolStepFreeLocked_outcome B g
      generalize guestPoolStepFreeLocked B g = r at hout ⊢
      cases hout with
      | refused => exact hg
      | busy can ne asked => exact halloc asked hg
      | free can asked => exact hfree _ (halloc asked hg)
    | shrink => simpa using hg

/-- What the allocator's operations preserve of its state holds throughout every run. -/
theorem PoolClient.run_mm (hB : B.Sound) {s : PoolClient σ β} (hs : s.Safe B p₀)
    (hJ : J s.guest.mm) (events : List PoolEvent) : J (s.run H B events).guest.mm := by
  refine (PoolClient.run_invariant (I := fun s => s.Safe B p₀ ∧ J s.guest.mm) hB
    (fun _ h => h.1.guest.bounded.ready) ?_ ⟨hs,hJ⟩ events).2
  intro s s' ⟨hs,hJ⟩ hout
  refine ⟨hs.outcome hB hout,?_⟩
  cases hout with
  | idle => exact hJ
  | allocFailed moves retry => simpa using moves.mm halloc hfree hJ
  | allocServed rises asked => exact halloc asked (rises.moves.mm halloc hfree hJ)
  | released => exact hJ
  | freed perm moves retry => simpa using moves.mm halloc hfree (hfree _ hJ)
  | worked moves retry => simpa using moves.mm halloc hfree hJ

end Allocator

/-- For every accepted layout, every run and every answer of the host: the boundary stays between
the floor and the size and on the grid of the accepted step, every UNSHARE was for the last step
below the boundary with no live block in it, every SHARE for the first step above it and inside the
pool, and the live blocks, which are those held by the callers, lie below the boundary. -/
theorem guestPool_run_safe (hB : B.Sound) {reservedMemory : Option (List DtNode)} {ret : ℤ}
    {p : GuestPool} {mm : β} (hinit : guestPoolInit B reservedMemory = (ret,some (p,mm)))
    (H : PoolHost σ) (host : σ) (events : List PoolEvent) :
    let s := (PoolClient.start p mm host).run H B events
    p.prealloc ≤ s.guest.pool.backed ∧ s.guest.pool.backed ≤ p.size ∧
      p.step ∣ s.guest.pool.backed - p.prealloc ∧
      (∀ c ∈ s.guest.calls, c.op = .unshare → c.len = p.step ∧ c.offset+c.len = c.boundary ∧
        ∀ l ∈ c.live, l.Avoids c.offset c.boundary) ∧
      (∀ c ∈ s.guest.calls, c.op = .share → c.len = p.step ∧ c.offset = c.boundary ∧
        c.boundary+c.len ≤ p.size) ∧
      (B.live s.guest.mm).Perm s.held.flatten ∧
      ∀ bs ∈ s.held, ∀ b ∈ bs, b.Within 0 s.guest.pool.backed := by
  obtain ⟨hp,hmm⟩ := guestPoolInit_accepted hinit
  have hs := (PoolClient.start_safe hB hp hmm host).run (H := H) hB events
  have hb := hs.guest.bounded
  refine ⟨hb.floor,hb.ceiling,hb.grid,fun c hc hop => ?_,fun c hc hop => ?_,hs.held,fun bs hbs b hmem => ?_⟩
  · exact ⟨(hs.guest.proper c hc).len_eq,(hs.guest.proper c hc).unshare hop⟩
  · exact ⟨(hs.guest.proper c hc).len_eq,(hs.guest.proper c hc).share hop⟩
  · exact ⟨Nat.zero_le _,hs.guest.below b (hs.held.mem_iff.mpr (List.mem_flatten.mpr ⟨bs,hbs,hmem⟩))⟩

/-- A pool of 6 MiB that grows by one step, serves a second block and loses the answer to the
UNSHARE and to the query after it. -/
theorem guestPool_run_safe_lost_answer :
    let p : GuestPool := ⟨0x100000000,3*SZ_2M,0,SZ_2M,SZ_2M,SZ_2M,true,false⟩
    let s := (PoolClient.start p ⟨3*SZ_2M,[]⟩ [(0,false)]).run PoolHost.scripted FirstFit.buddy
      [.alloc 1 SZ_2M,.alloc 1 SZ_2M,.free 0,.reclaimWork]
    p.prealloc ≤ s.guest.pool.backed ∧ s.guest.pool.backed ≤ p.size ∧
      p.step ∣ s.guest.pool.backed - p.prealloc ∧
      (∀ c ∈ s.guest.calls, c.op = .unshare → c.len = p.step ∧ c.offset+c.len = c.boundary ∧
        ∀ l ∈ c.live, l.Avoids c.offset c.boundary) ∧
      (∀ c ∈ s.guest.calls, c.op = .share → c.len = p.step ∧ c.offset = c.boundary ∧
        c.boundary+c.len ≤ p.size) ∧
      (FirstFit.buddy.live s.guest.mm).Perm s.held.flatten ∧
      ∀ bs ∈ s.held, ∀ b ∈ bs, b.Within 0 s.guest.pool.backed :=
  guestPool_run_safe FirstFit.buddy_sound
    (show guestPoolInit _ (some [gpuGuestNode 0x200000 0x600000 0x200000]) = (0,_) by rfl) _ _ _

end GuestAdditions

import GuestAdditions.GuestPool.Layout
import GuestAdditions.Library.Loop

/-! The helpers that move the access boundary while `guest_pool_lock` is held. Beside its state the
guest keeps a log of the calls it has made on the pool queue, newest first, with the boundary and
the ledger of live blocks that each call was made under. -/
namespace GuestAdditions

inductive PoolOp
  | share
  | unshare
  | query
  deriving DecidableEq, Repr

/-- A call on the pool queue and its answer. `answer` is what a query reported. -/
structure HostCall where
  op : PoolOp
  offset : ℕ
  len : ℕ
  ret : ℤ
  answer : Bool
  boundary : ℕ
  live : List Block

/-- The pool, its allocator and the host it talks to. -/
structure Guest (σ β : Type) where
  pool : GuestPool
  mm : β
  host : σ
  calls : List HostCall

variable {σ β : Type} (H : PoolHost σ) (B : DrmBuddy β)

def gunyahPoolGrow (g : Guest σ β) (offset len : ℕ) : ℤ × Guest σ β :=
  let r := H.grow g.host g.pool.poolId offset len
  (r.1,{ g with
    host := r.2
    calls := ⟨.share,offset,len,r.1,false,g.pool.backed,B.live g.mm⟩::g.calls })

def gunyahPoolShrink (g : Guest σ β) (offset len : ℕ) : ℤ × Guest σ β :=
  let r := H.shrink g.host g.pool.poolId offset len
  (r.1,{ g with
    host := r.2
    calls := ⟨.unshare,offset,len,r.1,false,g.pool.backed,B.live g.mm⟩::g.calls })

/-- `gunyah_pool_query_range(id, offset, len, &backed)`: the caller's variable keeps its value when
the query fails. -/
def gunyahPoolQueryRange (g : Guest σ β) (offset len : ℕ) (backed : Bool) :
    ℤ × Bool × Guest σ β :=
  let r := H.queryRange g.host g.pool.poolId offset len
  (r.1,if r.1 = 0 then r.2.1 else backed,{ g with
    host := r.2.2
    calls := ⟨.query,offset,len,r.1,r.2.1,g.pool.backed,B.live g.mm⟩::g.calls })

/-- The SHARE of a grow, with the query that settles a lost or doubtful answer. -/
def growRequest (g : Guest σ β) : ℤ × Guest σ β :=
  let offset := g.pool.backed
  let r := gunyahPoolGrow H B g offset g.pool.step
  if r.1 = -ETIMEDOUT ∨ r.1 = -EEXIST then
    -- The host may have completed SHARE before its response was lost.
    let q := gunyahPoolQueryRange H B r.2 offset g.pool.step false
    if q.1 = 0 ∧ q.2.1 = true then (0,q.2.2) else (r.1,q.2.2)
  else r

/-- `virtio_gpu_guest_pool_grow_one_locked`. -/
def guestPoolGrowOneLocked (g : Guest σ β) : ℤ × Guest σ β :=
  if g.pool.step = 0 ∨ g.pool.size ≤ g.pool.backed then (-ENOSPC,g)
  else if g.pool.size - g.pool.backed < g.pool.step then (-EINVAL,g)
  else
    let r := growRequest H B g
    if r.1 = 0 then
      (0,{ r.2 with pool := { r.2.pool with backed := r.2.pool.backed+r.2.pool.step } })
    else r

/-- The UNSHARE of a shrink, with the query that follows a failed one. -/
def shrinkRequest (g : Guest σ β) : ℤ × Guest σ β :=
  let offset := g.pool.backed - g.pool.step
  let r := gunyahPoolShrink H B g offset g.pool.step
  if r.1 ≠ 0 then
    let q := gunyahPoolQueryRange H B r.2 offset g.pool.step true
    if q.1 = 0 ∧ q.2.1 = false then (0,q.2.2) else (r.1,q.2.2)
  else r

/-- `virtio_gpu_guest_pool_shrink_one_locked`. -/
def guestPoolShrinkOneLocked (g : Guest σ β) : ℤ × Guest σ β :=
  if g.pool.step = 0 ∨ g.pool.backed ≤ g.pool.prealloc then (-ENOSPC,g)
  else
    let offset := g.pool.backed - g.pool.step
    let r := shrinkRequest H B g
    if r.1 = -EUCLEAN then
      -- The host kept the grant but the guest mapping is lost: the pool never grows again.
      (0,{ r.2 with pool := { r.2.pool with backed := offset, step := 0 } })
    else if r.1 = 0 then (0,{ r.2 with pool := { r.2.pool with backed := offset } })
    else r

/-- `virtio_gpu_guest_pool_step_free_locked`: allocate the exact last step and give it back. -/
def guestPoolStepFreeLocked (g : Guest σ β) : Bool × Guest σ β :=
  if g.pool.step = 0 ∨ g.pool.backed ≤ g.pool.prealloc then (false,g)
  else
    let offset := g.pool.backed - g.pool.step
    let probe := B.allocBlocks g.mm offset (offset+g.pool.step) g.pool.step g.pool.step
    if probe.1 ≠ 0 then (false,{ g with mm := probe.2.2 })
    else (true,{ g with mm := B.freeList probe.2.2 probe.2.1 })

/-- One iteration of the loop in `virtio_gpu_guest_pool_reclaim_locked`; its result says whether to
arm the delayed retry. -/
def reclaimBody (g : Guest σ β) : (Bool × Guest σ β) ⊕ Guest σ β :=
  let probe := guestPoolStepFreeLocked B g
  if probe.1 = false then .inl (false,probe.2)
  else
    let r := guestPoolShrinkOneLocked H B probe.2
    if r.1 = 0 then .inr r.2
    else .inl (decide (r.1 = -EBUSY ∨ r.1 = -ETIMEDOUT ∨ r.1 = - EIO),r.2)

section Frame
variable (g : Guest σ β) (offset len : ℕ) (backed : Bool)

@[simp] lemma gunyahPoolGrow_pool : (gunyahPoolGrow H B g offset len).2.pool = g.pool := rfl

@[simp] lemma gunyahPoolGrow_mm : (gunyahPoolGrow H B g offset len).2.mm = g.mm := rfl

@[simp] lemma gunyahPoolShrink_pool : (gunyahPoolShrink H B g offset len).2.pool = g.pool := rfl

@[simp] lemma gunyahPoolShrink_mm : (gunyahPoolShrink H B g offset len).2.mm = g.mm := rfl

@[simp] lemma gunyahPoolQueryRange_pool :
    (gunyahPoolQueryRange H B g offset len backed).2.2.pool = g.pool := rfl

@[simp] lemma gunyahPoolQueryRange_mm :
    (gunyahPoolQueryRange H B g offset len backed).2.2.mm = g.mm := rfl

@[simp] lemma growRequest_pool : (growRequest H B g).2.pool = g.pool := by
  simp only [growRequest]
  split_ifs <;> simp

@[simp] lemma growRequest_mm : (growRequest H B g).2.mm = g.mm := by
  simp only [growRequest]
  split_ifs <;> simp

@[simp] lemma shrinkRequest_pool : (shrinkRequest H B g).2.pool = g.pool := by
  simp only [shrinkRequest]
  split_ifs <;> simp

@[simp] lemma shrinkRequest_mm : (shrinkRequest H B g).2.mm = g.mm := by
  simp only [shrinkRequest]
  split_ifs <;> simp

end Frame

/-- The log entry of a call for one step at `offset`. -/
def Guest.call (g : Guest σ β) (op : PoolOp) (offset : ℕ) (ret : ℤ) (answer : Bool) : HostCall :=
  ⟨op,offset,g.pool.step,ret,answer,g.pool.backed,B.live g.mm⟩

/-- The ways a SHARE, with its query, can be answered. -/
inductive GrowAnswer (g : Guest σ β) : ℤ × Guest σ β → Prop
  | clear {ret s} (asked : H.grow g.host g.pool.poolId g.pool.backed g.pool.step = (ret,s))
      (ht : ret ≠ -ETIMEDOUT) (he : ret ≠ -EEXIST) :
      GrowAnswer g (ret,{ g with
        host := s
        calls := g.call B .share g.pool.backed ret false::g.calls })
  | confirmed {ret s s'} (asked : H.grow g.host g.pool.poolId g.pool.backed g.pool.step = (ret,s))
      (doubt : ret = -ETIMEDOUT ∨ ret = -EEXIST)
      (queried : H.queryRange s g.pool.poolId g.pool.backed g.pool.step = (0,true,s')) :
      GrowAnswer g (0,{ g with
        host := s'
        calls := g.call B .query g.pool.backed 0 true::
          g.call B .share g.pool.backed ret false::g.calls })
  | unconfirmed {ret s s' qret answer}
      (asked : H.grow g.host g.pool.poolId g.pool.backed g.pool.step = (ret,s))
      (doubt : ret = -ETIMEDOUT ∨ ret = -EEXIST)
      (queried : H.queryRange s g.pool.poolId g.pool.backed g.pool.step = (qret,answer,s'))
      (no : qret = 0 → answer = false) :
      GrowAnswer g (ret,{ g with
        host := s'
        calls := g.call B .query g.pool.backed qret answer::
          g.call B .share g.pool.backed ret false::g.calls })

lemma growRequest_answer (g : Guest σ β) : GrowAnswer H B g (growRequest H B g) := by
  obtain ⟨⟨ret,s⟩,ha⟩ : ∃ r, H.grow g.host g.pool.poolId g.pool.backed g.pool.step = r := ⟨_,rfl⟩
  obtain ⟨⟨qret,answer,s'⟩,hq⟩ : ∃ q,
    H.queryRange s g.pool.poolId g.pool.backed g.pool.step = q := ⟨_,rfl⟩
  simp only [growRequest, gunyahPoolGrow, gunyahPoolQueryRange, ha, hq]
  by_cases h₁ : ret = -ETIMEDOUT ∨ ret = -EEXIST
  · rw [if_pos h₁]
    by_cases h₂ : qret = 0 ∧ answer = true
    · obtain ⟨rfl,rfl⟩ := h₂
      exact .confirmed ha h₁ hq
    · rw [if_neg (fun h => h₂ ⟨h.1,by simpa [h.1] using h.2⟩)]
      exact .unconfirmed ha h₁ hq (fun h0 => by simpa [h0] using h₂)
  · rw [if_neg h₁]
    exact .clear ha (not_or.mp h₁).1 (not_or.mp h₁).2

/-- The ways an UNSHARE, with its query, can be answered. -/
inductive ShrinkAnswer (g : Guest σ β) : ℤ × Guest σ β → Prop
  | clear {s} (asked : H.shrink g.host g.pool.poolId (g.pool.backed - g.pool.step) g.pool.step =
        (0,s)) :
      ShrinkAnswer g (0,{ g with
        host := s
        calls := g.call B .unshare (g.pool.backed - g.pool.step) 0 false::g.calls })
  | released {ret s s'} (asked : H.shrink g.host g.pool.poolId (g.pool.backed - g.pool.step)
        g.pool.step = (ret,s)) (ne : ret ≠ 0)
      (queried : H.queryRange s g.pool.poolId (g.pool.backed - g.pool.step) g.pool.step =
        (0,false,s')) :
      ShrinkAnswer g (0,{ g with
        host := s'
        calls := g.call B .query (g.pool.backed - g.pool.step) 0 false::
          g.call B .unshare (g.pool.backed - g.pool.step) ret false::g.calls })
  | kept {ret s s' qret answer} (asked : H.shrink g.host g.pool.poolId
        (g.pool.backed - g.pool.step) g.pool.step = (ret,s)) (ne : ret ≠ 0)
      (queried : H.queryRange s g.pool.poolId (g.pool.backed - g.pool.step) g.pool.step =
        (qret,answer,s')) (no : qret = 0 → answer = true) :
      ShrinkAnswer g (ret,{ g with
        host := s'
        calls := g.call B .query (g.pool.backed - g.pool.step) qret answer::
          g.call B .unshare (g.pool.backed - g.pool.step) ret false::g.calls })

lemma shrinkRequest_answer (g : Guest σ β) : ShrinkAnswer H B g (shrinkRequest H B g) := by
  obtain ⟨⟨ret,s⟩,ha⟩ : ∃ r, H.shrink g.host g.pool.poolId (g.pool.backed - g.pool.step)
    g.pool.step = r := ⟨_,rfl⟩
  obtain ⟨⟨qret,answer,s'⟩,hq⟩ : ∃ q,
    H.queryRange s g.pool.poolId (g.pool.backed - g.pool.step) g.pool.step = q := ⟨_,rfl⟩
  simp only [shrinkRequest, gunyahPoolShrink, gunyahPoolQueryRange, ha, hq]
  by_cases h₁ : ret = 0
  · subst h₁
    exact .clear ha
  · rw [if_pos h₁]
    by_cases h₂ : qret = 0 ∧ answer = false
    · obtain ⟨rfl,rfl⟩ := h₂
      exact .released ha h₁ hq
    · rw [if_neg (fun h => h₂ ⟨h.1,by simpa [h.1] using h.2⟩)]
      exact .kept ha h₁ hq (fun h0 => by simpa [h0] using h₂)

/-- A further step exists and fits below the size. -/
def GuestPool.CanGrow (p : GuestPool) : Prop :=
  p.step ≠ 0 ∧ p.backed < p.size ∧ p.backed+p.step ≤ p.size

/-- There is a step above the pre-shared floor. -/
def GuestPool.CanShrink (p : GuestPool) : Prop := p.step ≠ 0 ∧ p.prealloc < p.backed

/-- The ways a grow can end. -/
inductive GrowOutcome (g : Guest σ β) : ℤ × Guest σ β → Prop
  | refused {ret} (ne : ret ≠ 0) (stuck : ¬ g.pool.CanGrow) : GrowOutcome g (ret,g)
  | failed (can : g.pool.CanGrow) (ne : (growRequest H B g).1 ≠ 0) :
      GrowOutcome g ((growRequest H B g).1,(growRequest H B g).2)
  | raised (can : g.pool.CanGrow) (ok : (growRequest H B g).1 = 0) :
      GrowOutcome g (0,{ (growRequest H B g).2 with
        pool := { g.pool with backed := g.pool.backed+g.pool.step } })

lemma guestPoolGrowOneLocked_outcome (g : Guest σ β) :
    GrowOutcome H B g (guestPoolGrowOneLocked H B g) := by
  simp only [guestPoolGrowOneLocked, growRequest_pool]
  split_ifs with h₁ h₂ h₃
  · exact .refused (by decide) (fun ⟨ha,hb,_⟩ => by omega)
  · exact .refused (by decide) (fun ⟨_,_,hc⟩ => by omega)
  · exact .raised ⟨by omega,by omega,by omega⟩ h₃
  · exact .failed ⟨by omega,by omega,by omega⟩ h₃

/-- The ways a shrink can end. -/
inductive ShrinkOutcome (g : Guest σ β) : ℤ × Guest σ β → Prop
  | refused (stuck : ¬ g.pool.CanShrink) : ShrinkOutcome g (-ENOSPC,g)
  | stopped (can : g.pool.CanShrink) (unclean : (shrinkRequest H B g).1 = -EUCLEAN) :
      ShrinkOutcome g (0,{ (shrinkRequest H B g).2 with
        pool := { g.pool with backed := g.pool.backed - g.pool.step, step := 0 } })
  | lowered (can : g.pool.CanShrink) (ok : (shrinkRequest H B g).1 = 0) :
      ShrinkOutcome g (0,{ (shrinkRequest H B g).2 with
        pool := { g.pool with backed := g.pool.backed - g.pool.step } })
  | failed (can : g.pool.CanShrink) (unclean : (shrinkRequest H B g).1 ≠ -EUCLEAN)
      (ne : (shrinkRequest H B g).1 ≠ 0) :
      ShrinkOutcome g ((shrinkRequest H B g).1,(shrinkRequest H B g).2)

lemma guestPoolShrinkOneLocked_outcome (g : Guest σ β) :
    ShrinkOutcome H B g (guestPoolShrinkOneLocked H B g) := by
  simp only [guestPoolShrinkOneLocked, shrinkRequest_pool]
  split_ifs with h₁ h₂ h₃
  · exact .refused (fun ⟨ha,hb⟩ => by omega)
  · exact .stopped ⟨by omega,by omega⟩ h₂
  · exact .lowered ⟨by omega,by omega⟩ h₃
  · exact .failed ⟨by omega,by omega⟩ h₂ h₃

@[simp] lemma guestPoolGrowOneLocked_mm (g : Guest σ β) :
    (guestPoolGrowOneLocked H B g).2.mm = g.mm := by
  have hout := guestPoolGrowOneLocked_outcome H B g
  generalize guestPoolGrowOneLocked H B g = r at hout ⊢
  cases hout <;> simp

@[simp] lemma guestPoolShrinkOneLocked_mm (g : Guest σ β) :
    (guestPoolShrinkOneLocked H B g).2.mm = g.mm := by
  have hout := guestPoolShrinkOneLocked_outcome H B g
  generalize guestPoolShrinkOneLocked H B g = r at hout ⊢
  cases hout <;> simp

/-- The ways a probe of the last step can end. -/
inductive ProbeOutcome (g : Guest σ β) : Bool × Guest σ β → Prop
  | refused (stuck : ¬ g.pool.CanShrink) : ProbeOutcome g (false,g)
  | busy {ret bs mm'} (can : g.pool.CanShrink) (ne : ret ≠ 0)
      (asked : B.allocBlocks g.mm (g.pool.backed - g.pool.step)
        (g.pool.backed - g.pool.step+g.pool.step) g.pool.step g.pool.step = (ret,bs,mm')) :
      ProbeOutcome g (false,{ g with mm := mm' })
  | free {bs mm'} (can : g.pool.CanShrink)
      (asked : B.allocBlocks g.mm (g.pool.backed - g.pool.step)
        (g.pool.backed - g.pool.step+g.pool.step) g.pool.step g.pool.step = (0,bs,mm')) :
      ProbeOutcome g (true,{ g with mm := B.freeList mm' bs })

lemma guestPoolStepFreeLocked_outcome (g : Guest σ β) :
    ProbeOutcome B g (guestPoolStepFreeLocked B g) := by
  simp only [guestPoolStepFreeLocked]
  split_ifs with h₁ h₂
  · exact .refused (fun ⟨ha,hb⟩ => by omega)
  · exact .busy ⟨by omega,by omega⟩ h₂ rfl
  · exact .free ⟨by omega,by omega⟩ (Prod.ext (not_not.mp h₂) rfl)

@[simp] lemma guestPoolStepFreeLocked_pool (g : Guest σ β) :
    (guestPoolStepFreeLocked B g).2.pool = g.pool := by
  have hout := guestPoolStepFreeLocked_outcome B g
  generalize guestPoolStepFreeLocked B g = r at hout ⊢
  cases hout <;> rfl

/-- A successful shrink lowers the boundary. -/
theorem guestPoolShrinkOneLocked_lt {g : Guest σ β}
    (h : (guestPoolShrinkOneLocked H B g).1 = 0) :
    (guestPoolShrinkOneLocked H B g).2.pool.backed < g.pool.backed := by
  have hout := guestPoolShrinkOneLocked_outcome H B g
  generalize guestPoolShrinkOneLocked H B g = r at hout h ⊢
  cases hout with
  | refused => simp at h
  | stopped can => have := can.1; have := can.2; simp only; omega
  | lowered can => have := can.1; have := can.2; simp only; omega
  | failed _ _ ne => exact absurd h ne

/-- Every iteration of the reclaim loop lowers the boundary, so the loop ends whatever the host
answers. -/
theorem reclaimBody_decreases : Loop.Decreases (fun g => g.pool.backed) (reclaimBody H B) := by
  intro g g' h
  simp only [reclaimBody] at h
  split_ifs at h with h₁ h₂
  cases h
  simpa using guestPoolShrinkOneLocked_lt H B h₂

/-- `virtio_gpu_guest_pool_reclaim_locked`. -/
def guestPoolReclaimLocked (g : Guest σ β) : Bool × Guest σ β :=
  Loop.run (reclaimBody_decreases H B) g

end GuestAdditions

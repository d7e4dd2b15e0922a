import GuestAdditions.GuestPool.Boundary
import GuestAdditions.Library.Transition

/-! Allocation from the guest pool, the return of blocks and the delayed reclaim. Whatever these
operations do to the pool they do by growing, probing and shrinking one step at a time: `Rise` and
`Fall` are these moves, and every later invariant is proved of them. -/
namespace GuestAdditions

/-- The size and the minimum block size that `virtio_gpu_guest_pool_alloc` derives from the request
and from `guest_pool_max_nents`. -/
def guestPoolRound (maxNents : ℤ) (size : ℕ) : ℕ × ℕ :=
  let size := align size PAGE_SIZE
  if 0 < maxNents then
    let minBs := max PAGE_SIZE (roundupPowOfTwo (divRoundUpUll size maxNents.toNat))
    let minBs := if size < minBs then rounddownPowOfTwo size else minBs
    (align size minBs,minBs)
  else (size,PAGE_SIZE)

/-- The minimum block size is a power of two of at least a page, and the size is aligned to it. -/
theorem guestPoolRound_align (maxNents : ℤ) (size : ℕ) : ∃ k, 12 ≤ k ∧ k < 64 ∧
    (guestPoolRound maxNents size).2 = 2^k ∧
    (guestPoolRound maxNents size).1 = align (align size PAGE_SIZE) (2^k) := by
  simp only [guestPoolRound]
  split_ifs with hpos hsmall
  · exact ⟨_,le_flsLong_pow (dvd_align_page size) (align_lt size PAGE_SIZE),
      Nat.mod_lt _ (by norm_num),rfl,rfl⟩
  · obtain ⟨j,hj,hj64⟩ : ∃ j, roundupPowOfTwo (divRoundUpUll (align size PAGE_SIZE) maxNents.toNat) =
      2^j ∧ j < 64 := ⟨_,rfl,Nat.mod_lt _ (by norm_num)⟩
    have hmax : max PAGE_SIZE (2^j) = 2^(max 12 j) := by
      rw [pageSize_eq]
      rcases Nat.le_total 12 j with h | h
      · rw [max_eq_right h, max_eq_right (Nat.pow_le_pow_right two_pos h)]
      · rw [max_eq_left h, max_eq_left (Nat.pow_le_pow_right two_pos h)]
    rw [hj, hmax]
    exact ⟨max 12 j,le_max_left _ _,max_lt (by norm_num) hj64,rfl,rfl⟩
  · refine ⟨12,le_rfl,by norm_num,pageSize_eq,?_⟩
    rw [← pageSize_eq, align_page_of_dvd (align_lt _ _) (dvd_align_page size)]

/-- The size is a multiple of the minimum block size, even where the rounding wraps. -/
theorem guestPoolRound_pow (maxNents : ℤ) (size : ℕ) : ∃ k, 12 ≤ k ∧
    (guestPoolRound maxNents size).2 = 2^k ∧ 2^k ∣ (guestPoolRound maxNents size).1 := by
  obtain ⟨k,hk,-,hminBs,hsize⟩ := guestPoolRound_align maxNents size
  exact ⟨k,hk,hminBs,hsize ▸ dvd_align_pow _ _⟩

variable {σ β : Type} (H : PoolHost σ) (B : DrmBuddy β)

/-- The inner loop of an allocation: grow until the boundary reaches the request. -/
def growToBody (request : ℕ) (g : Guest σ β) : (ℤ × Guest σ β) ⊕ Guest σ β :=
  if g.pool.backed < request then
    if g.pool.step = 0 then .inl (-ENOMEM,g)
    else
      let r := guestPoolGrowOneLocked H B g
      if r.1 ≠ 0 then .inl r else .inr r.2
  else .inl (0,g)

/-- The room left above the boundary. -/
def Guest.headroom (g : Guest σ β) : ℕ := g.pool.size - g.pool.backed

/-- A successful grow uses up headroom. -/
theorem guestPoolGrowOneLocked_lt {g : Guest σ β} (h : (guestPoolGrowOneLocked H B g).1 = 0) :
    (guestPoolGrowOneLocked H B g).2.headroom < g.headroom := by
  have hout := guestPoolGrowOneLocked_outcome H B g
  generalize guestPoolGrowOneLocked H B g = r at hout h ⊢
  cases hout with
  | refused ne => exact absurd h ne
  | failed _ ne => exact absurd h ne
  | raised can => obtain ⟨_,_,_⟩ := can; simp only [Guest.headroom]; omega

lemma growToBody_decreases (request : ℕ) :
    Loop.Decreases Guest.headroom (growToBody H B request) := by
  intro g g' h
  simp only [growToBody] at h
  split_ifs at h with h₁ h₂ h₃
  cases h
  exact guestPoolGrowOneLocked_lt H B (not_not.mp h₃)

def growTo (request : ℕ) (g : Guest σ β) : ℤ × Guest σ β :=
  Loop.run (growToBody_decreases H B request) g

/-- The outer loop of an allocation: ask the allocator for the backed prefix, and grow by one step
when it reports fragmentation. A failed attempt leaves the caller's list empty. -/
def allocBody (size minBs : ℕ) (g : Guest σ β) :
    (ℤ × List Block × Guest σ β) ⊕ Guest σ β :=
  let r := growTo H B size g
  if r.1 ≠ 0 then .inl (r.1,[],r.2)
  else
    let a := B.allocBlocks r.2.mm 0 r.2.pool.backed size minBs
    let g : Guest σ β := { r.2 with mm := a.2.2 }
    if a.1 = 0 ∨ a.1 ≠ -ENOSPC ∨ g.pool.step = 0 ∨ g.pool.size ≤ g.pool.backed then
      .inl (a.1,a.2.1,g)
    else
      let r := guestPoolGrowOneLocked H B g
      if r.1 ≠ 0 then .inl (r.1,[],r.2) else .inr r.2

/-- Growing to a request never gives headroom back. -/
theorem growTo_headroom_le (request : ℕ) (g : Guest σ β) :
    (growTo H B request g).2.headroom ≤ g.headroom := by
  refine Loop.run_induct (growToBody_decreases H B request)
    (motive := fun g r => r.2.headroom ≤ g.headroom) ?_ ?_ g
  · intro g r h
    simp only [growToBody] at h
    split_ifs at h with h₁ h₂ h₃
    · cases h; exact le_rfl
    · cases h
      have hout := guestPoolGrowOneLocked_outcome H B g
      generalize guestPoolGrowOneLocked H B g = r at hout ⊢
      cases hout with
      | refused => exact le_rfl
      | failed => simp [Guest.headroom]
      | raised => simp only [Guest.headroom]; omega
    · cases h; exact le_rfl
  · intro g g' r h hr
    exact hr.trans (growToBody_decreases H B request g g' h).le

lemma allocBody_decreases (size minBs : ℕ) :
    Loop.Decreases Guest.headroom (allocBody H B size minBs) := by
  intro g g' h
  simp only [allocBody] at h
  split_ifs at h with h₁ h₂ h₃
  cases h
  exact (guestPoolGrowOneLocked_lt H B (not_not.mp h₃)).trans_le (growTo_headroom_le H B size g)

def allocLoop (size minBs : ℕ) (g : Guest σ β) : ℤ × List Block × Guest σ β :=
  Loop.run (allocBody_decreases H B size minBs) g

/-- The critical section of an allocation. The third component says whether to arm the delayed
reclaim after the lock is dropped. -/
def guestPoolAllocLocked (size minBs : ℕ) (g : Guest σ β) :
    ℤ × List Block × Bool × Guest σ β :=
  if g.pool.ready = false then (-ENODEV,[],false,g)
  else
    let a := allocLoop H B size minBs g
    if a.1 ≠ 0 then
      let r := guestPoolReclaimLocked H B a.2.2
      (a.1,a.2.1,r.1,r.2)
    else (a.1,a.2.1,false,a.2.2)

/-- `schedule_delayed_work` on the reclaim work, when `retry` asks for it. -/
def Guest.armReclaim (g : Guest σ β) (retry : Bool) : Guest σ β :=
  if retry then { g with pool := { g.pool with reclaimArmed := true } } else g

/-- `virtio_gpu_guest_pool_alloc`, with the value of the module parameter at the call. -/
def guestPoolAlloc (maxNents : ℤ) (size : ℕ) (g : Guest σ β) : ℤ × List Block × Guest σ β :=
  if g.pool.ready = false ∨ size = 0 then (-ENOMEM,[],g)
  else
    let r := guestPoolRound maxNents size
    if g.pool.size < r.1 then (-ENOMEM,[],g)
    else
      let a := guestPoolAllocLocked H B r.1 r.2 g
      (a.1,a.2.1,a.2.2.2.armReclaim a.2.2.1)

/-- The critical section of a free. -/
def guestPoolFreeLocked (blocks : List Block) (g : Guest σ β) : Bool × Guest σ β :=
  if g.pool.ready = false then (false,g)
  else guestPoolReclaimLocked H B { g with mm := B.freeList g.mm blocks }

/-- `virtio_gpu_guest_pool_free`. -/
def guestPoolFree (blocks : List Block) (g : Guest σ β) : Guest σ β :=
  if g.pool.ready = false ∨ blocks = [] then g
  else
    let r := guestPoolFreeLocked H B blocks g
    r.2.armReclaim r.1

/-- `virtio_gpu_guest_pool_reclaim_work`; the work is no longer pending when it starts to run. -/
def guestPoolReclaimWork (g : Guest σ β) : Guest σ β :=
  let g : Guest σ β := { g with pool := { g.pool with reclaimArmed := false } }
  let r := if g.pool.ready then guestPoolReclaimLocked H B g else (false,g)
  r.2.armReclaim r.1

/-- `virtio_gpu_guest_pool_stats`: the total, used and largest-free byte counts. -/
def guestPoolStats (g : Guest σ β) : ℕ × ℕ × ℕ :=
  if g.pool.ready = false then (0,0,0)
  else (B.size g.mm,B.size g.mm - B.avail g.mm,B.avail g.mm)

/-- What an allocation does before it is served: grow, or ask the allocator in vain. -/
inductive Rise : Guest σ β → Guest σ β → Prop
  | grow (g) : Rise g (guestPoolGrowOneLocked H B g).2
  | attempt {g size minBs ret bs mm'} (ne : ret ≠ 0)
      (asked : B.allocBlocks g.mm 0 g.pool.backed size minBs = (ret,bs,mm')) :
      Rise g { g with mm := mm' }

/-- What the reclaim loop does: probe the last step, and shrink by it when nothing overlaps it. -/
inductive Fall : Guest σ β → Guest σ β → Prop
  | probe (g) : Fall g (guestPoolStepFreeLocked B g).2
  | shrink {g} (free : ∀ l ∈ B.live g.mm, l.Avoids (g.pool.backed - g.pool.step) g.pool.backed) :
      Fall g (guestPoolShrinkOneLocked H B g).2

def Move (g g' : Guest σ β) : Prop := Rise H B g g' ∨ Fall H B g g'

abbrev Rises : Guest σ β → Guest σ β → Prop := Relation.ReflTransGen (Rise H B)
abbrev Falls : Guest σ β → Guest σ β → Prop := Relation.ReflTransGen (Fall H B)
abbrev Moves : Guest σ β → Guest σ β → Prop := Relation.ReflTransGen (Move H B)

variable {H B} {g g' : Guest σ β}

lemma Rises.moves (h : Rises H B g g') : Moves H B g g' := Relation.ReflTransGen.mono (fun _ _ => Or.inl) _ _ h

lemma Falls.moves (h : Falls H B g g') : Moves H B g g' := Relation.ReflTransGen.mono (fun _ _ => Or.inr) _ _ h

/-- A probe takes blocks and gives them back: the ledger ends as it was. -/
theorem guestPoolStepFreeLocked_live (hB : B.Sound) (g : Guest σ β) :
    (B.live (guestPoolStepFreeLocked B g).2.mm).Perm (B.live g.mm) := by
  have hout := guestPoolStepFreeLocked_outcome B g
  generalize guestPoolStepFreeLocked B g = r at hout ⊢
  cases hout with
  | refused => exact .refl _
  | busy _ ne asked => exact (hB.alloc_failed asked ne).2
  | free _ asked => exact hB.free_live (hB.alloc_live asked)

/-- A successful probe finds no live block in the last step. -/
theorem guestPoolStepFreeLocked_avoids (hB : B.Sound)
    (h : (guestPoolStepFreeLocked B g).1 = true) :
    ∀ l ∈ B.live (guestPoolStepFreeLocked B g).2.mm,
      l.Avoids (g.pool.backed - g.pool.step) g.pool.backed := by
  intro l hl
  have hlive := (guestPoolStepFreeLocked_live hB g).mem_iff.mp hl
  have hout := guestPoolStepFreeLocked_outcome B g
  generalize guestPoolStepFreeLocked B g = r at hout h
  cases hout with
  | refused => simp at h
  | busy => simp at h
  | free _ asked => exact (hB.exact_range asked l hlive).mono le_rfl (by omega)

/-- The reclaim loop is a sequence of falls. -/
theorem guestPoolReclaimLocked_falls (hB : B.Sound) (g : Guest σ β) :
    Falls H B g (guestPoolReclaimLocked H B g).2 := by
  have hshrink : ∀ g : Guest σ β, (guestPoolStepFreeLocked B g).1 = true →
      Falls H B g (guestPoolShrinkOneLocked H B (guestPoolStepFreeLocked B g).2).2 := by
    intro g h
    refine .tail (.single (.probe g)) (.shrink ?_)
    simpa using guestPoolStepFreeLocked_avoids hB h
  refine Loop.run_induct (reclaimBody_decreases H B) (motive := fun g r => Falls H B g r.2) ?_ ?_ g
  · intro g r h
    simp only [reclaimBody] at h
    split_ifs at h with h₁ h₂
    · cases h; exact .single (.probe g)
    · cases h; exact hshrink g (by simpa using h₁)
  · intro g g' r h hr
    simp only [reclaimBody] at h
    split_ifs at h with h₁ h₂
    cases h
    exact (hshrink g (by simpa using h₁)).trans hr

/-- Growing to a request is a sequence of rises, and ends at the request when it succeeds. -/
theorem growTo_rises (request : ℕ) (g : Guest σ β) :
    Rises H B g (growTo H B request g).2 ∧
      ((growTo H B request g).1 = 0 → request ≤ (growTo H B request g).2.pool.backed) := by
  refine Loop.run_induct (growToBody_decreases H B request)
    (motive := fun g r => Rises H B g r.2 ∧ (r.1 = 0 → request ≤ r.2.pool.backed)) ?_ ?_ g
  · intro g r h
    simp only [growToBody] at h
    split_ifs at h with h₁ h₂ h₃
    · cases h; exact ⟨.refl,by simp⟩
    · cases h; exact ⟨.single (.grow g),fun h0 => absurd h0 h₃⟩
    · cases h; exact ⟨.refl,fun _ => not_lt.mp h₁⟩
  · intro g g' r h hr
    simp only [growToBody] at h
    split_ifs at h with h₁ h₂ h₃
    cases h
    exact ⟨.head (.grow g) hr.1,hr.2⟩

variable (H B) in
/-- The ways the allocation loop can end. -/
inductive AllocOutcome (size minBs : ℕ) (g : Guest σ β) : ℤ × List Block × Guest σ β → Prop
  | failed {ret g'} (ne : ret ≠ 0) (rises : Rises H B g g') : AllocOutcome size minBs g (ret,[],g')
  | served {g' bs mm'} (rises : Rises H B g g') (room : size ≤ g'.pool.backed)
      (asked : B.allocBlocks g'.mm 0 g'.pool.backed size minBs = (0,bs,mm')) :
      AllocOutcome size minBs g (0,bs,{ g' with mm := mm' })

lemma allocLoop_outcome (hB : B.Sound) (size minBs : ℕ) (g : Guest σ β) :
    AllocOutcome H B size minBs g (allocLoop H B size minBs g) := by
  refine Loop.run_induct (allocBody_decreases H B size minBs)
    (motive := fun g r => AllocOutcome H B size minBs g r) ?_ ?_ g
  · intro g r h
    obtain ⟨hrise,hroom⟩ := growTo_rises (H := H) (B := B) size g
    simp only [allocBody] at h
    generalize growTo H B size g = t at h hrise hroom
    rcases ha : B.allocBlocks t.2.mm 0 t.2.pool.backed size minBs with ⟨ret,bs,mm'⟩
    simp only [ha] at h
    split_ifs at h with h₁ h₂ h₃
    · cases h; exact .failed h₁ hrise
    · cases h
      by_cases h0 : ret = 0
      · subst h0
        exact .served hrise (hroom (not_not.mp h₁)) ha
      · rw [(hB.alloc_failed ha h0).1]
        exact .failed h0 (hrise.tail (.attempt h0 ha))
    · cases h
      simp only [not_or] at h₂
      exact .failed h₃ ((hrise.tail (.attempt h₂.1 ha)).tail (.grow _))
  · intro g g' r h hr
    obtain ⟨hrise,-⟩ := growTo_rises (H := H) (B := B) size g
    simp only [allocBody] at h
    generalize growTo H B size g = t at h hrise
    rcases ha : B.allocBlocks t.2.mm 0 t.2.pool.backed size minBs with ⟨ret,bs,mm'⟩
    simp only [ha] at h
    split_ifs at h with h₁ h₂ h₃
    cases h
    simp only [not_or] at h₂
    have hnext := (hrise.tail (.attempt h₂.1 ha)).tail (.grow _)
    cases hr with
    | failed ne rises => exact .failed ne (hnext.trans rises)
    | served rises room asked => exact .served (hnext.trans rises) room asked

end GuestAdditions

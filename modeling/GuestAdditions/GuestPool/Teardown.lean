import GuestAdditions.GuestPool.Allocation
import GuestAdditions.GuestPool.FirstFit
import Mathlib.Logic.Function.Basic

/-! `virtio_gpu_guest_pool_fini` against operations that are still under way. An operation checks the
gate, takes the lock once, and arms the reclaim work after it has dropped the lock. -/
namespace GuestAdditions

/-- How far a `virtio_gpu_guest_pool_alloc` or `virtio_gpu_guest_pool_free` has come: not called, past
its checks, or past its critical section with a retry to arm. -/
inductive PoolThread
  | idle
  | allocating (size minBs : ℕ)
  | freeing (blocks : List Block)
  | arming (ret : ℤ) (blocks : List Block)
  | done (ret : ℤ) (blocks : List Block)
  deriving DecidableEq

/-- How far the reclaim work has come; it never runs twice at a time. -/
inductive WorkPhase
  | idle
  | started
  | arming
  deriving DecidableEq

/-- How far `virtio_gpu_guest_pool_fini` has come. While it cancels the work, nothing can arm it. -/
inductive FiniPhase
  | notCalled
  | cancelling
  | cancelled
  | checked
  | closed
  | returned
  deriving DecidableEq

/-- The pool with everything that runs on it. `misused` records that a critical section found the gate
open after the allocator had been destroyed. -/
structure Teardown (σ β : Type) where
  guest : Guest σ β
  threads : ℕ → PoolThread
  work : WorkPhase
  fini : FiniPhase
  destroyed : Bool
  misused : Bool

namespace Teardown
variable {σ β : Type} (H : PoolHost σ) (B : DrmBuddy β)

/-- The pool in use: nothing runs and the work is not pending. -/
def start (g : Guest σ β) : Teardown σ β :=
  ⟨{ g with pool := { g.pool with reclaimArmed := false } },fun _ => .idle,.idle,.notCalled,false,false⟩

def setThread (s : Teardown σ β) (i : ℕ) (t : PoolThread) : Teardown σ β :=
  { s with threads := Function.update s.threads i t }

/-- A critical section in which the guest becomes `g`. -/
def locked (s : Teardown σ β) (g : Guest σ β) : Teardown σ β :=
  { s with guest := g, misused := s.misused || s.guest.pool.ready && s.destroyed }

/-- `schedule_delayed_work`. -/
def schedule (s : Teardown σ β) : Teardown σ β :=
  if s.fini = .cancelling then s else { s with guest := s.guest.armReclaim true }

/-- The checks of `virtio_gpu_guest_pool_alloc` before the lock. -/
def allocBegin (s : Teardown σ β) (i : ℕ) (maxNents : ℤ) (size : ℕ) : Teardown σ β :=
  s.setThread i <|
    if s.guest.pool.ready = false ∨ size = 0 then .done (-ENOMEM) []
    else
      let r := guestPoolRound maxNents size
      if s.guest.pool.size < r.1 then .done (-ENOMEM) [] else .allocating r.1 r.2

def allocSection (s : Teardown σ β) (i size minBs : ℕ) : Teardown σ β :=
  let a := guestPoolAllocLocked H B size minBs s.guest
  (s.locked a.2.2.2).setThread i (if a.2.2.1 then .arming a.1 a.2.1 else .done a.1 a.2.1)

/-- The checks of `virtio_gpu_guest_pool_free` before the lock. -/
def freeBegin (s : Teardown σ β) (i : ℕ) (blocks : List Block) : Teardown σ β :=
  s.setThread i (if s.guest.pool.ready = false ∨ blocks = [] then .done 0 blocks else .freeing blocks)

def freeSection (s : Teardown σ β) (i : ℕ) (blocks : List Block) : Teardown σ β :=
  let r := guestPoolFreeLocked H B blocks s.guest
  (s.locked r.2).setThread i (if r.1 then .arming 0 [] else .done 0 [])

/-- The delayed work starts to run. -/
def workBegin (s : Teardown σ β) : Teardown σ β :=
  { s with guest := { s.guest with pool := { s.guest.pool with reclaimArmed := false } }, work := .started }

def workSection (s : Teardown σ β) : Teardown σ β :=
  let r := if s.guest.pool.ready then guestPoolReclaimLocked H B s.guest else (false,s.guest)
  { s.locked r.2 with work := if r.1 then .arming else .idle }

/-- `cancel_delayed_work_sync` takes the work off its queue. -/
def cancelBegin (s : Teardown σ β) : Teardown σ β :=
  { s with
    guest := { s.guest with pool := { s.guest.pool with reclaimArmed := false } }
    fini := .cancelling }

def finiCheck (s : Teardown σ β) : Teardown σ β :=
  { s with fini := if s.guest.pool.ready then .checked else .returned }

/-- The critical section of `virtio_gpu_guest_pool_fini`. -/
def finiSection (s : Teardown σ β) : Teardown σ β :=
  { s with
    guest := { s.guest with pool := { s.guest.pool with ready := false } }
    destroyed := s.destroyed || s.guest.pool.ready
    fini := .closed }

end Teardown

inductive TeardownEvent
  | allocBegin (i : ℕ) (maxNents : ℤ) (size : ℕ)
  | allocSection (i : ℕ)
  | freeBegin (i : ℕ) (blocks : List Block)
  | freeSection (i : ℕ)
  | arm (i : ℕ)
  | workBegin
  | workSection
  | workArm
  | cancelBegin
  | cancelEnd
  | finiCheck
  | finiSection
  | finiReturn

/-- The transitions. The cancel ends when the work does not run any more. -/
inductive TeardownStep {σ β : Type} (H : PoolHost σ) (B : DrmBuddy β) :
    Teardown σ β → TeardownEvent → Teardown σ β → Prop
  | allocBegin {s i maxNents size} (idle : s.threads i = .idle) :
      TeardownStep H B s (.allocBegin i maxNents size) (s.allocBegin i maxNents size)
  | allocSection {s i size minBs} (thread : s.threads i = .allocating size minBs) :
      TeardownStep H B s (.allocSection i) (s.allocSection H B i size minBs)
  | freeBegin {s i blocks} (idle : s.threads i = .idle) :
      TeardownStep H B s (.freeBegin i blocks) (s.freeBegin i blocks)
  | freeSection {s i blocks} (thread : s.threads i = .freeing blocks) :
      TeardownStep H B s (.freeSection i) (s.freeSection H B i blocks)
  | arm {s i ret blocks} (thread : s.threads i = .arming ret blocks) :
      TeardownStep H B s (.arm i) (s.schedule.setThread i (.done ret blocks))
  | workBegin {s} (pending : s.guest.pool.reclaimArmed = true) (idle : s.work = .idle) :
      TeardownStep H B s .workBegin s.workBegin
  | workSection {s} (started : s.work = .started) :
      TeardownStep H B s .workSection (s.workSection H B)
  | workArm {s} (arming : s.work = .arming) :
      TeardownStep H B s .workArm { s.schedule with work := .idle }
  | cancelBegin {s} (notCalled : s.fini = .notCalled) :
      TeardownStep H B s .cancelBegin s.cancelBegin
  | cancelEnd {s} (cancelling : s.fini = .cancelling) (idle : s.work = .idle) :
      TeardownStep H B s .cancelEnd { s with fini := .cancelled }
  | finiCheck {s} (cancelled : s.fini = .cancelled) : TeardownStep H B s .finiCheck s.finiCheck
  | finiSection {s} (checked : s.fini = .checked) : TeardownStep H B s .finiSection s.finiSection
  | finiReturn {s} (closed : s.fini = .closed) :
      TeardownStep H B s .finiReturn { s with fini := .returned }

namespace Teardown
variable {σ β : Type} {H : PoolHost σ} {B : DrmBuddy β} {s t : Teardown σ β} {e : TeardownEvent}

/-- The gate is closed before the allocator is destroyed and before the teardown returns. -/
structure Gated (s : Teardown σ β) : Prop where
  destroyed : s.destroyed = true → s.guest.pool.ready = false
  closed : s.fini = .closed ∨ s.fini = .returned → s.guest.pool.ready = false
  unused : s.misused = false

/-- The work is not pending and no operation has yet to arm it. -/
structure Quiet (s : Teardown σ β) : Prop where
  unarmed : s.guest.pool.reclaimArmed = false
  threads : ∀ i ret blocks, s.threads i ≠ .arming ret blocks
  work : s.work ≠ .arming

lemma start_gated (g : Guest σ β) : (start g).Gated :=
  ⟨nofun,fun h => by cases h <;> contradiction,rfl⟩

/-- A critical section that respects the gate keeps it closed and does not use a dead allocator. -/
theorem Gated.locked (h : s.Gated) {g : Guest σ β} (hg : s.guest.pool.ready = false → g = s.guest) :
    (s.locked g).Gated where
  destroyed hd := by
    have hready := h.destroyed hd
    rw [show (s.locked g).guest = s.guest from hg hready]
    exact hready
  closed hc := by
    have hready := h.closed hc
    rw [show (s.locked g).guest = s.guest from hg hready]
    exact hready
  unused := by
    change (s.misused || s.guest.pool.ready && s.destroyed) = false
    rw [h.unused]
    cases hd : s.destroyed with
    | false => simp
    | true => simp [h.destroyed hd]

/-- A step that leaves the gate alone. -/
theorem Gated.of_same (h : s.Gated) (ready : t.guest.pool.ready = s.guest.pool.ready)
    (destroyed : t.destroyed = s.destroyed) (misused : t.misused = s.misused)
    (fini : t.fini = .closed ∨ t.fini = .returned → s.guest.pool.ready = false) : t.Gated where
  destroyed hd := ready.trans (h.destroyed (destroyed ▸ hd))
  closed hc := ready.trans (fini hc)
  unused := misused.trans h.unused

lemma guestPoolAllocLocked_closed {g : Guest σ β} (h : g.pool.ready = false) (size minBs : ℕ) :
    guestPoolAllocLocked H B size minBs g = (-ENODEV,[],false,g) := by
  rw [guestPoolAllocLocked,if_pos h]

lemma guestPoolFreeLocked_closed {g : Guest σ β} (h : g.pool.ready = false) (bs : List Block) :
    guestPoolFreeLocked H B bs g = (false,g) := by
  rw [guestPoolFreeLocked,if_pos h]

section Ready
variable (H B)

lemma guestPoolGrowOneLocked_ready (g : Guest σ β) :
    (guestPoolGrowOneLocked H B g).2.pool.ready = g.pool.ready := by
  have hout := guestPoolGrowOneLocked_outcome H B g
  generalize guestPoolGrowOneLocked H B g = r at hout ⊢
  cases hout <;> simp

lemma guestPoolShrinkOneLocked_ready (g : Guest σ β) :
    (guestPoolShrinkOneLocked H B g).2.pool.ready = g.pool.ready := by
  have hout := guestPoolShrinkOneLocked_outcome H B g
  generalize guestPoolShrinkOneLocked H B g = r at hout ⊢
  cases hout <;> simp

lemma guestPoolReclaimLocked_ready (g : Guest σ β) :
    (guestPoolReclaimLocked H B g).2.pool.ready = g.pool.ready := by
  refine Loop.run_induct (reclaimBody_decreases H B)
    (motive := fun g r => r.2.pool.ready = g.pool.ready) ?_ ?_ g
  · intro g r h
    simp only [reclaimBody] at h
    split_ifs at h with h₁ h₂
    · cases h
      rw [guestPoolStepFreeLocked_pool]
    · cases h
      rw [guestPoolShrinkOneLocked_ready,guestPoolStepFreeLocked_pool]
  · intro g g' r h ih
    simp only [reclaimBody] at h
    split_ifs at h with h₁ h₂
    cases h
    rw [ih,guestPoolShrinkOneLocked_ready,guestPoolStepFreeLocked_pool]

lemma growTo_ready (request : ℕ) (g : Guest σ β) :
    (growTo H B request g).2.pool.ready = g.pool.ready := by
  refine Loop.run_induct (growToBody_decreases H B request)
    (motive := fun g r => r.2.pool.ready = g.pool.ready) ?_ ?_ g
  · intro g r h
    simp only [growToBody] at h
    split_ifs at h with h₁ h₂ h₃
    · cases h
      rfl
    · cases h
      exact guestPoolGrowOneLocked_ready H B g
    · cases h
      rfl
  · intro g g' r h ih
    simp only [growToBody] at h
    split_ifs at h with h₁ h₂ h₃
    cases h
    exact ih.trans (guestPoolGrowOneLocked_ready H B g)

lemma allocLoop_ready (size minBs : ℕ) (g : Guest σ β) :
    (allocLoop H B size minBs g).2.2.pool.ready = g.pool.ready := by
  refine Loop.run_induct (allocBody_decreases H B size minBs)
    (motive := fun g r => r.2.2.pool.ready = g.pool.ready) ?_ ?_ g
  · intro g r h
    have hgrow := growTo_ready H B size g
    simp only [allocBody] at h
    split_ifs at h with h₁ h₂ h₃
    · cases h
      exact hgrow
    · cases h
      exact hgrow
    · cases h
      rw [guestPoolGrowOneLocked_ready]
      exact hgrow
  · intro g g' r h ih
    have hgrow := growTo_ready H B size g
    simp only [allocBody] at h
    split_ifs at h with h₁ h₂ h₃
    cases h
    rw [ih,guestPoolGrowOneLocked_ready]
    exact hgrow

lemma guestPoolAllocLocked_ready (size minBs : ℕ) (g : Guest σ β) :
    (guestPoolAllocLocked H B size minBs g).2.2.2.pool.ready = g.pool.ready := by
  simp only [guestPoolAllocLocked]
  split_ifs
  · rfl
  · rw [guestPoolReclaimLocked_ready,allocLoop_ready]
  · exact allocLoop_ready H B size minBs g

lemma guestPoolFreeLocked_ready (blocks : List Block) (g : Guest σ β) :
    (guestPoolFreeLocked H B blocks g).2.pool.ready = g.pool.ready := by
  rw [guestPoolFreeLocked]
  split_ifs
  · rfl
  · rw [guestPoolReclaimLocked_ready]

end Ready

lemma schedule_ready : s.schedule.guest.pool.ready = s.guest.pool.ready := by
  unfold schedule
  split <;> rfl

lemma schedule_fini : s.schedule.fini = s.fini := by
  unfold schedule
  split <;> rfl

lemma schedule_destroyed : s.schedule.destroyed = s.destroyed := by
  unfold schedule
  split <;> rfl

lemma schedule_misused : s.schedule.misused = s.misused := by
  unfold schedule
  split <;> rfl

end Teardown

open Teardown
variable {σ β : Type} {H : PoolHost σ} {B : DrmBuddy β} {s t : Teardown σ β}

/-- Every transition keeps the gate. -/
theorem TeardownStep.gated (e : TeardownEvent) (h : s.Gated) (step : TeardownStep H B s e t) :
    t.Gated := by
  cases step with
  | allocBegin idle => exact h.of_same rfl rfl rfl h.closed
  | freeBegin idle => exact h.of_same rfl rfl rfl h.closed
  | @allocSection i size minBs thread =>
    have hg : s.guest.pool.ready = false →
        (guestPoolAllocLocked H B size minBs s.guest).2.2.2 = s.guest := by
      intro hready
      rw [guestPoolAllocLocked_closed hready]
    have hl := h.locked hg
    exact ⟨hl.destroyed,hl.closed,hl.unused⟩
  | @freeSection i blocks thread =>
    have hg : s.guest.pool.ready = false → (guestPoolFreeLocked H B blocks s.guest).2 = s.guest := by
      intro hready
      rw [guestPoolFreeLocked_closed hready]
    have hl := h.locked hg
    exact ⟨hl.destroyed,hl.closed,hl.unused⟩
  | arm thread =>
    refine h.of_same schedule_ready schedule_destroyed schedule_misused ?_
    intro hc
    exact h.closed (schedule_fini (s := s) ▸ hc)
  | workBegin pending idle => exact h.of_same rfl rfl rfl h.closed
  | workSection started =>
    have hg : s.guest.pool.ready = false → (if s.guest.pool.ready then
        guestPoolReclaimLocked H B s.guest else (false,s.guest)).2 = s.guest := by
      intro hready
      rw [if_neg (by simp [hready])]
    have hl := h.locked hg
    exact ⟨hl.destroyed,hl.closed,hl.unused⟩
  | workArm arming =>
    refine h.of_same schedule_ready schedule_destroyed schedule_misused ?_
    intro hc
    exact h.closed (schedule_fini (s := s) ▸ hc)
  | cancelBegin notCalled => exact h.of_same rfl rfl rfl (by simp [Teardown.cancelBegin])
  | cancelEnd cancelling idle => exact h.of_same rfl rfl rfl (by simp)
  | finiCheck cancelled =>
    refine h.of_same rfl rfl rfl ?_
    unfold Teardown.finiCheck
    dsimp only
    split
    case isTrue hready => simp
    case isFalse hready => exact fun _ => Bool.eq_false_of_not_eq_true hready
  | finiSection checked => exact ⟨fun _ => rfl,fun _ => rfl,h.unused⟩
  | finiReturn closed => exact h.of_same rfl rfl rfl fun _ => h.closed (.inl closed)

/-- Only the teardown closes the gate. -/
theorem TeardownStep.open (e : TeardownEvent) (hready : s.guest.pool.ready = true)
    (hne : e ≠ .finiSection) (step : TeardownStep H B s e t) : t.guest.pool.ready = true := by
  cases step with
  | @allocSection i size minBs thread =>
    exact (guestPoolAllocLocked_ready H B size minBs s.guest).trans hready
  | @freeSection i blocks thread => exact (guestPoolFreeLocked_ready H B blocks s.guest).trans hready
  | arm thread => exact schedule_ready.trans hready
  | workSection started =>
    unfold Teardown.workSection
    rw [if_pos hready]
    exact (guestPoolReclaimLocked_ready H B s.guest).trans hready
  | workArm arming => exact schedule_ready.trans hready
  | finiSection checked => exact absurd rfl hne
  | _ => exact hready

lemma Teardown.Quiet.setThread (h : s.Quiet) {i : ℕ} {th : PoolThread}
    (hth : ∀ ret blocks, th ≠ .arming ret blocks) : (s.setThread i th).Quiet := by
  refine ⟨h.unarmed,?_,h.work⟩
  intro j ret blocks
  by_cases hj : j = i
  · rw [hj,show (s.setThread i th).threads i = th from Function.update_self ..]
    exact hth ret blocks
  · rw [show (s.setThread i th).threads j = s.threads j from Function.update_of_ne hj ..]
    exact h.threads j ret blocks

/-- Behind the closed gate a quiet pool stays quiet. -/
theorem TeardownStep.quiet (e : TeardownEvent) (hready : s.guest.pool.ready = false) (h : s.Quiet)
    (step : TeardownStep H B s e t) : t.Quiet := by
  cases step with
  | allocBegin idle =>
    refine h.setThread ?_
    intro ret blocks
    dsimp only
    split
    · exact nofun
    split <;> exact nofun
  | freeBegin idle =>
    refine h.setThread ?_
    intro ret blocks
    split <;> exact nofun
  | allocSection thread =>
    unfold Teardown.allocSection
    rw [guestPoolAllocLocked_closed hready]
    have hl : (s.locked s.guest).Quiet := ⟨h.unarmed,h.threads,h.work⟩
    exact hl.setThread fun _ _ => nofun
  | freeSection thread =>
    unfold Teardown.freeSection
    rw [guestPoolFreeLocked_closed hready]
    have hl : (s.locked s.guest).Quiet := ⟨h.unarmed,h.threads,h.work⟩
    exact hl.setThread fun _ _ => nofun
  | arm thread => exact absurd thread (h.threads _ _ _)
  | workBegin pending idle => exact nomatch h.unarmed.symm.trans pending
  | workSection started =>
    unfold Teardown.workSection
    rw [if_neg (by simp [hready])]
    exact ⟨h.unarmed,h.threads,nofun⟩
  | workArm arming => exact absurd arming h.work
  | cancelBegin notCalled => exact ⟨rfl,h.threads,h.work⟩
  | _ => exact ⟨h.unarmed,h.threads,h.work⟩

/-- If the teardown closes the gate on a pool that is not quiet, it can return and the work still be
armed. -/
theorem Teardown.armed_of_closed (h : ¬ s.Quiet) :
    ∃ es t, Transition.Run (TeardownStep H B) s.finiSection es t ∧ t.fini = .returned ∧
      t.guest.pool.reclaimArmed = true := by
  by_cases harmed : s.guest.pool.reclaimArmed = true
  · exact ⟨[.finiReturn],_,.single (.finiReturn rfl),rfl,harmed⟩
  by_cases hwork : s.work = .arming
  · exact ⟨[.finiReturn,.workArm],_,.cons (.finiReturn rfl) (.single (.workArm hwork)),rfl,rfl⟩
  have hthread : ¬∀ i ret blocks, s.threads i ≠ .arming ret blocks :=
    fun hthreads => h ⟨Bool.eq_false_of_not_eq_true harmed,hthreads,hwork⟩
  push Not at hthread
  obtain ⟨i,ret,blocks,hth⟩ := hthread
  exact ⟨[.finiReturn,.arm i],_,.cons (.finiReturn rfl) (.single (.arm hth)),rfl,rfl⟩

/-- No critical section uses the allocator after the teardown has destroyed it. As long as the teardown
closes the gate on a pool that is quiet, the work is neither pending nor armed once it has returned; from
any other pool it may be. -/
theorem guestPoolFini_quiet (H : PoolHost σ) (B : DrmBuddy β) (g : Guest σ β) :
    (∀ es s, Transition.Run (TeardownStep H B) (start g) es s → s.misused = false) ∧
      (∀ es s, Transition.Run (fun s e t => TeardownStep H B s e t ∧ (e = .finiSection → s.Quiet))
        (start g) es s → s.fini = .returned → s.guest.pool.reclaimArmed = false) ∧
      ∀ es s t, Transition.Run (TeardownStep H B) (start g) es s →
        TeardownStep H B s .finiSection t → ¬ s.Quiet →
        ∃ fs u, Transition.Run (TeardownStep H B) t fs u ∧ u.fini = .returned ∧
          u.guest.pool.reclaimArmed = true := by
  refine ⟨?_,?_,?_⟩
  · intro es s run
    have hgate : s.Gated := run.invariant (fun _ e _ h step => step.gated e h) (start_gated g)
    exact hgate.unused
  · intro es s run hfini
    have hboth : s.Gated ∧ (s.guest.pool.ready = false → s.Quiet) := by
      refine run.invariant (I := fun s => s.Gated ∧ (s.guest.pool.ready = false → s.Quiet)) ?_
        ⟨start_gated g,fun _ => ⟨rfl,nofun,nofun⟩⟩
      rintro s e t ⟨hgate,hquiet⟩ ⟨step,hclose⟩
      refine ⟨step.gated e hgate,?_⟩
      intro hready
      cases hs : s.guest.pool.ready with
      | false => exact step.quiet e hs (hquiet hs)
      | true =>
        by_cases he : e = .finiSection
        · subst he
          cases step with
          | finiSection checked =>
            have h := hclose rfl
            exact ⟨h.unarmed,h.threads,h.work⟩
        · exact nomatch hready.symm.trans (step.open e hs he)
    exact (hboth.2 (hboth.1.closed (.inr hfini))).unarmed
  · intro es s t run step hnot
    cases step with
    | finiSection checked => exact armed_of_closed hnot

/-- A pool of two steps, one of them shared. The host grants a grow, refuses the shrink as busy, and
fails the query. -/
def busyGuest : Guest (List (ℤ × Bool)) FirstFit :=
  ⟨⟨0x100000000,2*SZ_2M,0,SZ_2M,SZ_2M,SZ_2M,true,false⟩,⟨2*SZ_2M,[]⟩,
    [(0,false),(-EBUSY,false),(- EIO,false)],[]⟩

/-- A free asks for a retry in its critical section, the teardown runs from start to end, and the free
arms the work. -/
def lateArmEvents : List TeardownEvent :=
  [.allocBegin 0 1 (2*SZ_2M),.allocSection 0,.freeBegin 1 [⟨0,2*SZ_2M,by decide⟩],.freeSection 1,
    .cancelBegin,.cancelEnd,.finiCheck,.finiSection,.finiReturn,.arm 1]

/-- The free arms the work before the teardown starts. -/
def earlyArmEvents : List TeardownEvent :=
  [.allocBegin 0 1 (2*SZ_2M),.allocSection 0,.freeBegin 1 [⟨0,2*SZ_2M,by decide⟩],.freeSection 1,
    .arm 1,.cancelBegin,.cancelEnd,.finiCheck,.finiSection,.finiReturn]

theorem guestPoolFini_quiet_armed_before :
    ∃ s, Transition.Run (fun s e t => TeardownStep PoolHost.scripted FirstFit.buddy s e t ∧
      (e = .finiSection → s.Quiet)) (start busyGuest) earlyArmEvents s ∧
      s.fini = .returned ∧ s.guest.pool.reclaimArmed = false := by
  have hrun : ∃ s, Transition.Run (fun s e t => TeardownStep PoolHost.scripted FirstFit.buddy s e t ∧
      (e = .finiSection → s.Quiet)) (start busyGuest) earlyArmEvents s ∧ s.fini = .returned := by
    refine ⟨_,.cons ⟨.allocBegin rfl,nofun⟩ <|
      .cons ⟨.allocSection (show _ = PoolThread.allocating (2*SZ_2M) (2*SZ_2M) by decide +kernel),
        nofun⟩ <|
      .cons ⟨.freeBegin (by decide +kernel),nofun⟩ <|
      .cons ⟨.freeSection (show _ = PoolThread.freeing [⟨0,2*SZ_2M,by decide⟩] by decide +kernel),
        nofun⟩ <|
      .cons ⟨.arm (show _ = PoolThread.arming 0 [] by decide +kernel),nofun⟩ <|
      .cons ⟨.cancelBegin rfl,nofun⟩ <| .cons ⟨.cancelEnd rfl rfl,nofun⟩ <|
      .cons ⟨.finiCheck rfl,nofun⟩ <|
      .cons ⟨.finiSection (by decide +kernel),fun _ => ⟨rfl,?_,nofun⟩⟩ <|
      .cons ⟨.finiReturn rfl,nofun⟩ (.nil _),rfl⟩
    intro i ret blocks hth
    match i with
    | 0 =>
      have hdone := hth.symm.trans (show _ = PoolThread.done 0 [⟨0,2*SZ_2M,by decide⟩] by decide +kernel)
      exact nomatch hdone
    | 1 => exact nomatch hth
    | i+2 => exact nomatch hth
  obtain ⟨s,run,hfini⟩ := hrun
  exact ⟨s,run,hfini,(guestPoolFini_quiet _ _ _).2.1 _ s run hfini⟩

theorem guestPoolFini_armed_after :
    ¬∀ es s, Transition.Run (TeardownStep PoolHost.scripted FirstFit.buddy) (start busyGuest) es s →
      s.misused = false ∧ (s.fini = .returned → s.guest.pool.reclaimArmed = false) := by
  intro h
  have hrun : ∃ s, Transition.Run (TeardownStep PoolHost.scripted FirstFit.buddy) (start busyGuest)
      lateArmEvents s ∧ s.fini = .returned ∧ s.guest.pool.reclaimArmed = true := by
    refine ⟨_,.cons (.allocBegin rfl) <|
      .cons (.allocSection (show _ = PoolThread.allocating (2*SZ_2M) (2*SZ_2M) by decide +kernel)) <|
      .cons (.freeBegin (by decide +kernel)) <|
      .cons (.freeSection (show _ = PoolThread.freeing [⟨0,2*SZ_2M,by decide⟩] by decide +kernel)) <|
      .cons (.cancelBegin rfl) <| .cons (.cancelEnd rfl rfl) <| .cons (.finiCheck rfl) <|
      .cons (.finiSection (by decide +kernel)) <| .cons (.finiReturn rfl) <|
      .cons (.arm (show _ = PoolThread.arming 0 [] by decide +kernel)) (.nil _),?_,?_⟩
    · rfl
    · decide +kernel
  obtain ⟨s,run,hfini,harmed⟩ := hrun
  exact nomatch harmed.symm.trans ((h _ s run).2 hfini)

end GuestAdditions

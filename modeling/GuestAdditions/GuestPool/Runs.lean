import GuestAdditions.GuestPool.Allocation

/-! Whole runs of the guest pool: any order of allocations, frees, failed creates and executions of
the reclaim work, against a host that may answer every request with anything. -/
namespace GuestAdditions

/-- The pool with the block lists that its callers hold, the newest first. -/
structure PoolClient (σ β : Type) where
  guest : Guest σ β
  held : List (List Block)

inductive PoolEvent
  | alloc (maxNents : ℤ) (size : ℕ)
  | free (i : ℕ)
  | failedCreate (maxNents : ℤ) (size : ℕ)
  | reclaimWork

section Model
variable {σ β : Type} (H : PoolHost σ) (B : DrmBuddy β)

def PoolClient.alloc (maxNents : ℤ) (size : ℕ) (s : PoolClient σ β) : PoolClient σ β :=
  let a := guestPoolAlloc H B maxNents size s.guest
  if a.1 = 0 then ⟨a.2.2,a.2.1::s.held⟩ else ⟨a.2.2,s.held⟩

def PoolClient.free (i : ℕ) (s : PoolClient σ β) : PoolClient σ β :=
  match s.held[i]? with
  | none => s
  | some bs => ⟨guestPoolFree H B bs s.guest,s.held.eraseIdx i⟩

/-- A failed create gives the list it got straight back, on `err_pool` or `err_obj`. -/
def PoolClient.step (s : PoolClient σ β) : PoolEvent → PoolClient σ β
  | .alloc maxNents size => s.alloc H B maxNents size
  | .free i => s.free H B i
  | .failedCreate maxNents size =>
    let a := guestPoolAlloc H B maxNents (align size PAGE_SIZE) s.guest
    if a.1 = 0 then ⟨guestPoolFree H B a.2.1 a.2.2,s.held⟩ else ⟨a.2.2,s.held⟩
  | .reclaimWork => ⟨guestPoolReclaimWork H B s.guest,s.held⟩

/-- The state after `virtio_gpu_guest_pool_init`. -/
def PoolClient.start (p : GuestPool) (mm : β) (host : σ) : PoolClient σ β :=
  ⟨⟨p,mm,host,[]⟩,[]⟩

def PoolClient.run (s : PoolClient σ β) (events : List PoolEvent) : PoolClient σ β :=
  events.foldl (PoolClient.step H B) s

/-- Every event of a run meets a condition in the state that it finds. -/
def PoolClient.Meets (C : PoolClient σ β → PoolEvent → Prop) : PoolClient σ β → List PoolEvent → Prop
  | _, [] => True
  | s, e::events => C s e ∧ PoolClient.Meets C (s.step H B e) events

/-- What one operation on the pool can do to the guest and to the lists held. -/
inductive ClientOutcome (s : PoolClient σ β) : PoolClient σ β → Prop
  | idle : ClientOutcome s s
  | allocFailed {g'} (moves : Moves H B s.guest g') (retry) :
      ClientOutcome s ⟨g'.armReclaim retry,s.held⟩
  | allocServed {g' size minBs bs mm'} (rises : Rises H B s.guest g')
      (asked : B.allocBlocks g'.mm 0 g'.pool.backed size minBs = (0,bs,mm')) :
      ClientOutcome s ⟨{ g' with mm := mm' },bs::s.held⟩
  | released {rest} (perm : s.held.Perm ([]::rest)) : ClientOutcome s ⟨s.guest,rest⟩
  | freed {bs rest g'} (perm : s.held.Perm (bs::rest))
      (moves : Moves H B { s.guest with mm := B.freeList s.guest.mm bs } g') (retry) :
      ClientOutcome s ⟨g'.armReclaim retry,rest⟩
  | worked {g'} (moves : Moves H B
      { s.guest with pool := { s.guest.pool with reclaimArmed := false } } g') (retry) :
      ClientOutcome s ⟨g'.armReclaim retry,s.held⟩

end Model

variable {σ β : Type} {H : PoolHost σ} {B : DrmBuddy β}

@[simp] lemma armReclaim_false (g : Guest σ β) : g.armReclaim false = g := rfl

lemma guestPoolAlloc_outcome (hB : B.Sound) (maxNents : ℤ) (size : ℕ) (g : Guest σ β) :
    (∃ ret g' retry, ret ≠ 0 ∧ Moves H B g g' ∧
      guestPoolAlloc H B maxNents size g = (ret,[],g'.armReclaim retry)) ∨
    (∃ g' bs mm', Rises H B g g' ∧ (guestPoolRound maxNents size).1 ≤ g'.pool.backed ∧
      B.allocBlocks g'.mm 0 g'.pool.backed (guestPoolRound maxNents size).1
        (guestPoolRound maxNents size).2 = (0,bs,mm') ∧
      guestPoolAlloc H B maxNents size g = (0,bs,{ g' with mm := mm' })) := by
  simp only [guestPoolAlloc, guestPoolAllocLocked]
  have hrefuse : ∀ ret : ℤ, ret ≠ 0 → ∃ ret' g' retry, ret' ≠ 0 ∧ Moves H B g g' ∧
      (ret,([] : List Block),g) = (ret',[],g'.armReclaim retry) :=
    fun ret h => ⟨ret,g,false,h,.refl,rfl⟩
  split_ifs with h₁ h₂ h₃ h₄
  · exact .inl (hrefuse _ (by decide))
  · exact .inl (hrefuse _ (by decide))
  · exact absurd (.inl h₃) h₁
  · have hout := allocLoop_outcome (H := H) hB (guestPoolRound maxNents size).1
      (guestPoolRound maxNents size).2 g
    generalize allocLoop H B _ _ g = a at hout h₄ ⊢
    cases hout with
    | failed ne rises =>
      exact .inl ⟨_,_,_,ne,rises.moves.trans (guestPoolReclaimLocked_falls hB _).moves,rfl⟩
    | served => exact absurd rfl h₄
  · have hout := allocLoop_outcome (H := H) hB (guestPoolRound maxNents size).1
      (guestPoolRound maxNents size).2 g
    generalize allocLoop H B _ _ g = a at hout h₄ ⊢
    cases hout with
    | failed ne => exact absurd ne h₄
    | served rises room asked => exact .inr ⟨_,_,_,rises,room,asked,rfl⟩

lemma PoolClient.alloc_outcome (hB : B.Sound) (maxNents : ℤ) (size : ℕ) (s : PoolClient σ β) :
    ClientOutcome H B s (s.alloc H B maxNents size) := by
  rcases guestPoolAlloc_outcome (H := H) hB maxNents size s.guest with
    ⟨ret,g',retry,ne,moves,heq⟩ | ⟨g',bs,mm',rises,-,asked,heq⟩
  · simp only [PoolClient.alloc, heq, if_neg ne]
    exact .allocFailed moves retry
  · simp only [PoolClient.alloc, heq, if_true]
    exact .allocServed rises asked

lemma guestPoolFree_outcome (hB : B.Sound) {s : PoolClient σ β} {bs : List Block}
    {rest : List (List Block)} (hready : s.guest.pool.ready = true)
    (hperm : s.held.Perm (bs::rest)) :
    ClientOutcome H B s ⟨guestPoolFree H B bs s.guest,rest⟩ := by
  simp only [guestPoolFree, guestPoolFreeLocked, hready, Bool.true_eq_false, false_or, if_false]
  split_ifs with h
  · subst h
    exact .released hperm
  · exact .freed hperm (guestPoolReclaimLocked_falls hB _).moves _

lemma PoolClient.free_outcome (hB : B.Sound) {s : PoolClient σ β}
    (hready : s.guest.pool.ready = true) (i : ℕ) : ClientOutcome H B s (s.free H B i) := by
  simp only [PoolClient.free]
  cases hi : s.held[i]? with
  | none => exact .idle
  | some bs =>
    obtain ⟨hlt,rfl⟩ := List.getElem?_eq_some_iff.mp hi
    exact guestPoolFree_outcome hB hready (List.getElem_cons_eraseIdx_perm hlt).symm

lemma guestPoolReclaimWork_outcome (hB : B.Sound) (s : PoolClient σ β) :
    ClientOutcome H B s ⟨guestPoolReclaimWork H B s.guest,s.held⟩ := by
  simp only [guestPoolReclaimWork]
  split_ifs
  · exact .worked (guestPoolReclaimLocked_falls hB _).moves _
  · exact .worked .refl false

/-- A failed create is an allocation followed, when it succeeds, by the free of its list. -/
theorem PoolClient.step_failedCreate (maxNents : ℤ) (size : ℕ) (s : PoolClient σ β) :
    s.step H B (.failedCreate maxNents size) = s.alloc H B maxNents (align size PAGE_SIZE) ∨
      s.step H B (.failedCreate maxNents size) =
        (s.alloc H B maxNents (align size PAGE_SIZE)).free H B 0 := by
  simp only [PoolClient.step, PoolClient.alloc]
  split_ifs with h
  · exact .inr rfl
  · exact .inl rfl

/-- What every event preserves where it meets the condition holds at the end of the run, and what
the invariant and the condition imply holds at every event. -/
theorem PoolClient.Meets.invariant {I : PoolClient σ β → Prop}
    {C D : PoolClient σ β → PoolEvent → Prop} (hstep : ∀ s e, I s → C s e → I (s.step H B e))
    (hD : ∀ s e, I s → C s e → D s e) {s : PoolClient σ β} {events : List PoolEvent} (hs : I s)
    (h : PoolClient.Meets H B C s events) :
    I (s.run H B events) ∧ PoolClient.Meets H B D s events := by
  induction events generalizing s with
  | nil => exact ⟨hs,trivial⟩
  | cons e events ih =>
    obtain ⟨hend,hrest⟩ := ih (hstep s e hs h.1) h.2
    exact ⟨hend,hD s e hs h.1,hrest⟩

/-- What every outcome preserves of a ready pool holds throughout every run. -/
theorem PoolClient.run_invariant (hB : B.Sound) {I : PoolClient σ β → Prop}
    (hready : ∀ s, I s → s.guest.pool.ready = true)
    (hstep : ∀ s s', I s → ClientOutcome H B s s' → I s') {s : PoolClient σ β} (hs : I s)
    (events : List PoolEvent) : I (s.run H B events) := by
  refine List.foldlRecOn events _ hs (fun s hs e _ => ?_)
  cases e with
  | alloc maxNents size => exact hstep _ _ hs (s.alloc_outcome hB maxNents size)
  | free i => exact hstep _ _ hs (PoolClient.free_outcome hB (hready s hs) i)
  | failedCreate maxNents size =>
    have ha := hstep _ _ hs (s.alloc_outcome hB maxNents (align size PAGE_SIZE))
    rcases PoolClient.step_failedCreate (H := H) (B := B) maxNents size s with h | h
    · rw [h]; exact ha
    · rw [h]; exact hstep _ _ ha (PoolClient.free_outcome hB (hready _ ha) 0)
  | reclaimWork => exact hstep _ _ hs (guestPoolReclaimWork_outcome hB s)

end GuestAdditions

import GuestAdditions.GuestPool.Safety

/-! Steps of unknown fate. A shrink whose UNSHARE and whose query both go unanswered leaves the step
below the boundary, although the host may have taken it back. The log of calls tells which steps are
in this doubt. -/
namespace GuestAdditions

def HostCall.range (c : HostCall) : ℕ × ℕ := (c.offset,c.len)

/-- The answer says whether the range is backed. An UNSHARE that returns `-EIO` does not: the request
may have been refused by a broken queue, without reaching the host. -/
def HostCall.Settles (c : HostCall) : Prop :=
  match c.op with
  | .share => c.ret = 0 ∨ c.ret = -EEXIST
  | .unshare => c.ret = 0 ∨ c.ret = -EUCLEAN ∨ c.ret = -EBUSY
  | .query => c.ret = 0

instance (c : HostCall) : Decidable c.Settles :=
  match h : c.op with
  | .share => decidable_of_iff (c.ret = 0 ∨ c.ret = -EEXIST) (by simp [HostCall.Settles, h])
  | .unshare => decidable_of_iff (c.ret = 0 ∨ c.ret = -EUCLEAN ∨ c.ret = -EBUSY)
      (by simp [HostCall.Settles, h])
  | .query => decidable_of_iff (c.ret = 0) (by simp [HostCall.Settles, h])

/-- The last call was an UNSHARE of the range, and its answer was lost. -/
def lostUnshare (range : ℕ × ℕ) : List HostCall → Prop
  | u::_ => u.op = .unshare ∧ u.ret = -ETIMEDOUT ∧ u.range = range
  | [] => False

instance (range : ℕ × ℕ) : (calls : List HostCall) → Decidable (lostUnshare range calls)
  | _::_ => inferInstanceAs (Decidable (_ ∧ _))
  | [] => inferInstanceAs (Decidable False)

/-- The ranges in doubt after a log, newest call first: a failed query right after a lost UNSHARE
puts the range in doubt, and a later answer about it settles it. -/
def doubts : List HostCall → List (ℕ × ℕ)
  | [] => []
  | c::older =>
    if c.Settles then (doubts older).filter (· ≠ c.range)
    else if c.op = .query ∧ lostUnshare c.range older then c.range::doubts older
    else doubts older

section Property
variable {σ β : Type} (H : PoolHost σ) (B : DrmBuddy β)

/-- The allocation that an event makes. -/
def PoolEvent.request : PoolEvent → Option (ℤ × ℕ)
  | .alloc maxNents size => some (maxNents,size)
  | .free _ => none
  | .failedCreate maxNents size => some (maxNents,align size PAGE_SIZE)
  | .reclaimWork => none

/-- If the allocation is served, no block of it lies in a step in doubt. -/
def AvoidsDoubt (g : Guest σ β) (maxNents : ℤ) (size : ℕ) : Prop :=
  let a := guestPoolAlloc H B maxNents size g
  a.1 = 0 → ∀ b ∈ a.2.1, ∀ d ∈ doubts a.2.2.calls, b.Avoids d.1 (d.1+d.2)

instance (g : Guest σ β) (maxNents : ℤ) (size : ℕ) : Decidable (AvoidsDoubt H B g maxNents size) :=
  inferInstanceAs (Decidable (_ → _))

/-- No step is in doubt, or the size checks refuse the request before the allocator is asked. -/
def Settled (g : Guest σ β) (maxNents : ℤ) (size : ℕ) : Prop :=
  doubts g.calls = [] ∨ size = 0 ∨ g.pool.size < (guestPoolRound maxNents size).1

/-- The allocation of the event, if it makes one, has the property in the state it finds. -/
def PoolEvent.Asks (P : Guest σ β → ℤ → ℕ → Prop) (s : PoolClient σ β) (e : PoolEvent) : Prop :=
  ∀ maxNents size, e.request = some (maxNents,size) → P s.guest maxNents size

end Property

variable {σ β : Type} {H : PoolHost σ} {B : DrmBuddy β} {p₀ : GuestPool} {g g' : Guest σ β}
  {c : HostCall} {calls : List HostCall} {d : ℕ × ℕ}

/-- A call adds at most its own range, and only a query does. -/
theorem mem_doubts_cons (h : d ∈ doubts (c::calls)) :
    d ∈ doubts calls ∧ (c.Settles → d ≠ c.range) ∨
      d = c.range ∧ c.op = .query ∧ lostUnshare c.range calls ∧ ¬ c.Settles := by
  simp only [doubts] at h
  split_ifs at h with h₁ h₂
  · simp only [List.mem_filter, decide_eq_true_eq] at h
    exact .inl ⟨h.1,fun _ => h.2⟩
  · rcases List.mem_cons.mp h with rfl | h
    · exact .inr ⟨rfl,h₂.1,h₂.2,h₁⟩
    · exact .inl ⟨h,fun hs => absurd hs h₁⟩
  · exact .inl ⟨h,fun hs => absurd hs h₁⟩

lemma doubts_cons_subset (hc : c.op ≠ .query) (h : d ∈ doubts (c::calls)) : d ∈ doubts calls :=
  (mem_doubts_cons h).elim And.left (fun h => absurd h.2.1 hc)

/-- Growing puts nothing in doubt. -/
theorem doubts_growRequest (h : d ∈ doubts (growRequest H B g).2.calls) : d ∈ doubts g.calls := by
  have hans := growRequest_answer H B g
  generalize growRequest H B g = r at hans h
  cases hans with
  | clear => exact doubts_cons_subset (by simp [Guest.call]) h
  | confirmed | unconfirmed =>
    rcases mem_doubts_cons h with ⟨h,-⟩ | ⟨-,-,⟨hop,-⟩,-⟩
    · exact doubts_cons_subset (by simp [Guest.call]) h
    · simp [Guest.call] at hop

/-- The last step, as the range of a call. -/
def Guest.lastRange (g : Guest σ β) : ℕ × ℕ := (g.pool.backed - g.pool.step,g.pool.step)

/-- Shrinking can put the last step in doubt, and then it fails with a time-out; when it succeeds,
or meets an `-EUCLEAN`, the last step is not in doubt afterwards. -/
theorem doubts_shrinkRequest (h : d ∈ doubts (shrinkRequest H B g).2.calls) :
    d ∈ doubts g.calls ∧
      ((shrinkRequest H B g).1 = 0 ∨ (shrinkRequest H B g).1 = -EUCLEAN → d ≠ g.lastRange) ∨
    d = g.lastRange ∧ (shrinkRequest H B g).1 = -ETIMEDOUT := by
  have hans := shrinkRequest_answer H B g
  generalize shrinkRequest H B g = r at hans h ⊢
  cases hans with
  | clear =>
    rcases mem_doubts_cons h with ⟨h,hne⟩ | ⟨-,hop,-⟩
    · exact .inl ⟨h,fun _ => hne (.inl rfl)⟩
    · simp [Guest.call] at hop
  | released =>
    rcases mem_doubts_cons h with ⟨h,hne⟩ | ⟨-,-,-,hs⟩
    · exact .inl ⟨doubts_cons_subset (by simp [Guest.call]) h,fun _ => hne rfl⟩
    · exact absurd rfl hs
  | kept asked ne queried no =>
    rcases mem_doubts_cons h with ⟨h,-⟩ | ⟨hd,-,⟨-,hret,-⟩,-⟩
    · rcases mem_doubts_cons h with ⟨h,hne⟩ | ⟨-,hop,-⟩
      · refine .inl ⟨h,fun hret => ?_⟩
        rcases hret with rfl | rfl
        · exact absurd rfl ne
        · exact hne (.inr (.inl rfl))
      · simp [Guest.call] at hop
    · exact .inr ⟨hd,hret⟩

/-- A step in doubt is a whole step below the boundary. -/
def Guest.DoubtsBelow (p₀ : GuestPool) (g : Guest σ β) : Prop :=
  ∀ d ∈ doubts g.calls, ∃ k, p₀.IsStep k ∧ d = (p₀.stepOffset k,p₀.step) ∧
    p₀.stepOffset k+p₀.step ≤ g.pool.backed

lemma Guest.DoubtsBelow.grow (hg : g.DoubtsBelow p₀) :
    (guestPoolGrowOneLocked H B g).2.DoubtsBelow p₀ := by
  have hout := guestPoolGrowOneLocked_outcome H B g
  generalize guestPoolGrowOneLocked H B g = r at hout ⊢
  cases hout with
  | refused => exact hg
  | failed =>
    intro d hd
    simpa using hg d (doubts_growRequest hd)
  | raised =>
    intro d hd
    obtain ⟨k,hk,hdk,hle⟩ := hg d (doubts_growRequest hd)
    exact ⟨k,hk,hdk,hle.trans (Nat.le_add_right _ _)⟩

lemma Guest.DoubtsBelow.shrink (hs : g.Safe B p₀) (hg : g.DoubtsBelow p₀) :
    (guestPoolShrinkOneLocked H B g).2.DoubtsBelow p₀ := by
  -- A lowered boundary leaves out the last step, and that one is settled.
  have hlower : g.pool.CanShrink →
      (shrinkRequest H B g).1 = 0 ∨ (shrinkRequest H B g).1 = -EUCLEAN →
      ∀ d ∈ doubts (shrinkRequest H B g).2.calls, ∃ k, p₀.IsStep k ∧
        d = (p₀.stepOffset k,p₀.step) ∧ p₀.stepOffset k+p₀.step ≤ g.pool.backed - g.pool.step := by
    intro can hret d hd
    obtain ⟨j,hj,hoff,hstep,htop⟩ := hs.bounded.last_step can
    rcases doubts_shrinkRequest hd with ⟨hd,hne⟩ | ⟨-,htime⟩
    · obtain ⟨k,hk,rfl,hle⟩ := hg d hd
      refine ⟨k,hk,rfl,?_⟩
      by_contra hnot
      obtain rfl : k = j := p₀.stepOffset_unique hk.1 (by omega) (by omega)
      exact hne hret (by rw [Guest.lastRange, hoff, hstep])
    · rcases hret with h | h <;> simp [htime] at h
  have hout := guestPoolShrinkOneLocked_outcome H B g
  generalize guestPoolShrinkOneLocked H B g = r at hout ⊢
  cases hout with
  | refused => exact hg
  | stopped can unclean => exact hlower can (.inr unclean)
  | lowered can ok => exact hlower can (.inl ok)
  | failed can =>
    intro d hd
    obtain ⟨j,hj,hoff,hstep,htop⟩ := hs.bounded.last_step can
    rcases doubts_shrinkRequest hd with ⟨hd,-⟩ | ⟨rfl,-⟩
    · simpa using hg d hd
    · exact ⟨j,hj,by rw [Guest.lastRange, hoff, hstep],by simp [htop]⟩

/-- In every run, with no condition, the steps in doubt stay in the range that allocations are
served from. -/
theorem guestPool_doubts_below (hB : B.Sound) {reservedMemory : Option (List DtNode)} {ret : ℤ}
    {p : GuestPool} {mm : β} (hinit : guestPoolInit B reservedMemory = (ret,some (p,mm)))
    (H : PoolHost σ) (host : σ) (events : List PoolEvent) :
    let s := (PoolClient.start p mm host).run H B events
    ∀ d ∈ doubts s.guest.calls, d.1+d.2 ≤ s.guest.pool.backed := by
  obtain ⟨hp,hmm⟩ := guestPoolInit_accepted hinit
  have hstart := PoolClient.start_safe hB hp hmm host
  have hbelow : ((PoolClient.start p mm host).run H B events).guest.DoubtsBelow p :=
    PoolClient.run_guest hB (fun _ _ h => h) (fun _ _ h => h) (fun _ _ hg => hg.grow)
      (fun _ hs hg => hg.shrink hs) hstart (fun d hd => by simp [PoolClient.start, doubts] at hd)
      events
  intro s d hd
  obtain ⟨k,-,rfl,hle⟩ := hbelow d hd
  exact hle

lemma Rises.doubts_subset (h : Rises H B g g') : doubts g'.calls ⊆ doubts g.calls := by
  refine Transition.chain_invariant (I := fun k => doubts k.calls ⊆ doubts g.calls) ?_ h
    (List.Subset.refl _)
  intro k k' hm hk
  cases hm with
  | attempt => exact hk
  | grow =>
    have hout := guestPoolGrowOneLocked_outcome H B k
    generalize guestPoolGrowOneLocked H B k = r at hout ⊢
    cases hout with
    | refused => exact hk
    | failed | raised => exact fun d hd => hk (doubts_growRequest hd)

lemma guestPoolAlloc_refused {maxNents : ℤ} {size : ℕ}
    (h : size = 0 ∨ g.pool.size < (guestPoolRound maxNents size).1) :
    guestPoolAlloc H B maxNents size g = (-ENOMEM,[],g) := by
  simp only [guestPoolAlloc]
  rcases h with h | h
  · rw [if_pos (.inr h)]
  · rw [if_pos h, ite_self]

/-- A settled allocation is served, if at all, while nothing is in doubt. -/
theorem Settled.cases (hB : B.Sound) {maxNents : ℤ} {size : ℕ} (h : Settled g maxNents size) :
    (∃ ret g' retry, ret ≠ 0 ∧ Moves H B g g' ∧
      guestPoolAlloc H B maxNents size g = (ret,[],g'.armReclaim retry)) ∨
    ((guestPoolAlloc H B maxNents size g).1 = 0 ∧
      doubts (guestPoolAlloc H B maxNents size g).2.2.calls = []) := by
  rcases h with h | h
  · rcases guestPoolAlloc_outcome (H := H) hB maxNents size g with
      hfail | ⟨g',bs,mm',rises,room,asked,heq⟩
    · exact .inl hfail
    · have hsub := rises.doubts_subset
      rw [h] at hsub
      exact .inr ⟨by rw [heq],by rw [heq]; exact List.subset_nil.mp hsub⟩
  · exact .inl ⟨-ENOMEM,g,false,by decide,.refl,guestPoolAlloc_refused h⟩

lemma Settled.avoidsDoubt (hB : B.Sound) {maxNents : ℤ} {size : ℕ}
    (h : Settled g maxNents size) : AvoidsDoubt H B g maxNents size := by
  intro hok b _ d hd
  rcases h.cases (H := H) hB with ⟨ret,g',retry,ne,-,heq⟩ | ⟨-,hnone⟩
  · rw [heq] at hok
    exact absurd hok ne
  · simp [hnone] at hd

variable (B) in
/-- No live block lies in a step in doubt. -/
def Guest.Clear (g : Guest σ β) : Prop :=
  ∀ d ∈ doubts g.calls, ∀ l ∈ B.live g.mm, l.Avoids d.1 (d.1+d.2)

lemma Guest.Clear.of_subset (hg : g.Clear B) (hcalls : doubts g'.calls ⊆ doubts g.calls)
    (hlive : B.live g'.mm ⊆ B.live g.mm) : g'.Clear B :=
  fun d hd l hl => hg d (hcalls hd) l (hlive hl)

/-- A step comes into doubt only after the probe has found it free. -/
theorem Move.clear (hB : B.Sound) (h : Move H B g g') (hs : g.Safe B p₀) (hg : g.Clear B) :
    g'.Clear B := by
  have hlive : B.live g'.mm ⊆ B.live g.mm := (h.live hB).subset
  rcases h with h | h
  · exact hg.of_subset (Rises.doubts_subset (.single h)) hlive
  · cases h with
    | probe =>
      refine hg.of_subset ?_ hlive
      have hout := guestPoolStepFreeLocked_outcome B g
      generalize guestPoolStepFreeLocked B g = r at hout ⊢
      cases hout <;> exact List.Subset.refl _
    | shrink free =>
      have hcan : g.pool.CanShrink → ∀ d ∈ doubts (shrinkRequest H B g).2.calls,
          ∀ l ∈ B.live g.mm, l.Avoids d.1 (d.1+d.2) := by
        intro can d hd l hl
        rcases doubts_shrinkRequest hd with ⟨hd,-⟩ | ⟨rfl,-⟩
        · exact hg d hd l hl
        · have htop := hs.bounded.floor_add_step_le can
          exact (free l hl).mono le_rfl (by simp only [Guest.lastRange]; omega)
      have hout := guestPoolShrinkOneLocked_outcome H B g
      generalize guestPoolShrinkOneLocked H B g = r at hlive hout ⊢
      cases hout with
      | refused => exact hg
      | stopped can | lowered can | failed can => exact fun d hd l hl => hcan can d hd l (hlive hl)

lemma Moves.clear (hB : B.Sound) (h : Moves H B g g') (hs : g.Safe B p₀) (hg : g.Clear B) :
    g'.Clear B :=
  (Transition.chain_invariant (I := fun g => g.Safe B p₀ ∧ g.Clear B)
    (fun _ _ hm hg => ⟨hm.safe hB hg.1,hm.clear hB hg.1 hg.2⟩) h ⟨hs,hg⟩).2

lemma Guest.Clear.armReclaim (hg : g.Clear B) (retry : Bool) : (g.armReclaim retry).Clear B := by
  cases retry <;> exact hg

lemma Guest.Clear.alloc (hB : B.Sound) (hs : g.Safe B p₀) (hg : g.Clear B) {maxNents : ℤ} {size : ℕ}
    (h : Settled g maxNents size) : (guestPoolAlloc H B maxNents size g).2.2.Clear B := by
  rcases h.cases (H := H) hB with ⟨ret,g',retry,-,moves,heq⟩ | ⟨-,hnone⟩
  · rw [heq]
    exact (moves.clear hB hs hg).armReclaim retry
  · intro d hd
    simp [hnone] at hd

lemma Guest.Clear.free (hB : B.Sound) (hs : g.Safe B p₀) (hg : g.Clear B) {bs rest : List Block}
    (hperm : (B.live g.mm).Perm (bs ++ rest)) : (guestPoolFree H B bs g).Clear B := by
  have hgive : ({ g with mm := B.freeList g.mm bs } : Guest σ β).Clear B :=
    hg.of_subset (List.Subset.refl _) (fun l hl => hperm.mem_iff.mpr
      (List.mem_append_right _ ((hB.free_live hperm).mem_iff.mp hl)))
  simp only [guestPoolFree, guestPoolFreeLocked]
  split_ifs
  · exact hg
  · exact hg
  · exact ((guestPoolReclaimLocked_falls hB _).moves.clear hB (hs.give hB hperm)
      hgive).armReclaim _

/-- What the run theorem carries from one event to the next. -/
structure PoolClient.Clear (B : DrmBuddy β) (p₀ : GuestPool) (s : PoolClient σ β) : Prop where
  safe : s.Safe B p₀
  clear : s.guest.Clear B

lemma PoolClient.Clear.alloc (hB : B.Sound) {s : PoolClient σ β} (hs : s.Clear B p₀)
    {maxNents : ℤ} {size : ℕ} (h : Settled s.guest maxNents size) :
    (s.alloc H B maxNents size).Clear B p₀ := by
  refine ⟨hs.safe.outcome hB (s.alloc_outcome hB maxNents size),?_⟩
  have hclear := hs.clear.alloc (H := H) hB hs.safe.guest h
  simp only [PoolClient.alloc]
  split_ifs <;> exact hclear

lemma PoolClient.Clear.free (hB : B.Sound) {s : PoolClient σ β} (hs : s.Clear B p₀) (i : ℕ) :
    (s.free H B i).Clear B p₀ := by
  refine ⟨hs.safe.outcome hB (PoolClient.free_outcome hB hs.safe.guest.bounded.ready i),?_⟩
  simp only [PoolClient.free]
  cases hi : s.held[i]? with
  | none => exact hs.clear
  | some bs =>
    obtain ⟨hlt,rfl⟩ := List.getElem?_eq_some_iff.mp hi
    have hperm := hs.safe.held.trans (List.getElem_cons_eraseIdx_perm hlt).symm.flatten
    rw [List.flatten_cons] at hperm
    exact hs.clear.free hB hs.safe.guest hperm

lemma PoolClient.Clear.step (hB : B.Sound) {s : PoolClient σ β} (hs : s.Clear B p₀)
    {e : PoolEvent} (he : e.Asks Settled s) : (s.step H B e).Clear B p₀ := by
  cases e with
  | alloc maxNents size => exact hs.alloc hB (he maxNents size rfl)
  | free i => exact hs.free hB i
  | failedCreate maxNents size =>
    have ha := hs.alloc (H := H) hB (he maxNents _ rfl)
    rcases PoolClient.step_failedCreate (H := H) (B := B) maxNents size s with h | h
    · rw [h]; exact ha
    · rw [h]; exact ha.free hB 0
  | reclaimWork =>
    refine ⟨hs.safe.outcome hB (guestPoolReclaimWork_outcome hB s),?_⟩
    simp only [PoolClient.step, guestPoolReclaimWork]
    refine Guest.Clear.armReclaim ?_ _
    split_ifs
    · exact (guestPoolReclaimLocked_falls hB _).moves.clear hB (hs.safe.guest.arm false) hs.clear
    · exact hs.clear

/-- In every run whose allocations are settled when they start, no allocation returns a block in a
step whose UNSHARE and whose query both went unanswered and that no later answer has settled, and at
the end no block held lies in such a step. -/
theorem guestPool_alloc_avoids_doubt (hB : B.Sound) {reservedMemory : Option (List DtNode)} {ret : ℤ}
    {p : GuestPool} {mm : β} (hinit : guestPoolInit B reservedMemory = (ret,some (p,mm)))
    (H : PoolHost σ) (host : σ) (events : List PoolEvent)
    (hsettled : PoolClient.Meets H B (fun s e => e.Asks Settled s) (PoolClient.start p mm host)
      events) :
    PoolClient.Meets H B (fun s e => e.Asks (AvoidsDoubt H B) s) (PoolClient.start p mm host)
      events ∧
    let s := (PoolClient.start p mm host).run H B events
    ∀ d ∈ doubts s.guest.calls, ∀ bs ∈ s.held, ∀ b ∈ bs, b.Avoids d.1 (d.1+d.2) := by
  obtain ⟨hp,hmm⟩ := guestPoolInit_accepted hinit
  have hstart : (PoolClient.start p mm host).Clear B p :=
    ⟨PoolClient.start_safe hB hp hmm host,fun d hd => by simp [PoolClient.start, doubts] at hd⟩
  obtain ⟨hend,hmeets⟩ := PoolClient.Meets.invariant
    (D := fun s e => e.Asks (AvoidsDoubt H B) s) (fun s e hs he => hs.step hB he)
    (fun s e _ he maxNents size hreq => (he maxNents size hreq).avoidsDoubt hB) hstart hsettled
  exact ⟨hmeets,fun d hd bs hbs b hb => hend.clear d hd b
    (hend.safe.held.mem_iff.mpr (List.mem_flatten.mpr ⟨bs,hbs,hb⟩))⟩

/-- A doubt that the delayed reclaim settles before the next allocation. -/
theorem guestPool_alloc_avoids_doubt_retry :
    let p : GuestPool := ⟨0x100000000,2*SZ_2M,0,SZ_2M,SZ_2M,SZ_2M,true,false⟩
    let start : PoolClient (List (ℤ × Bool)) FirstFit := PoolClient.start p ⟨2*SZ_2M,[]⟩
      [(0,false),(-ETIMEDOUT,false),(-ETIMEDOUT,false),(0,false),(0,false)]
    let events := [.alloc 1 SZ_2M,.alloc 1 SZ_2M,.free 0,.reclaimWork,.alloc 1 SZ_2M]
    PoolClient.Meets PoolHost.scripted FirstFit.buddy
      (fun s e => e.Asks (AvoidsDoubt PoolHost.scripted FirstFit.buddy) s) start events ∧
    let s := start.run PoolHost.scripted FirstFit.buddy events
    ∀ d ∈ doubts s.guest.calls, ∀ bs ∈ s.held, ∀ b ∈ bs, b.Avoids d.1 (d.1+d.2) := by
  refine guestPool_alloc_avoids_doubt FirstFit.buddy_sound
    (show guestPoolInit _ (some [gpuGuestNode 0x200000 0x400000 0x200000]) = (0,_) by rfl) _ _ _
    ⟨?_,?_,?_,?_,?_,trivial⟩
  all_goals
    intro maxNents size hreq
    cases hreq
  all_goals exact .inl (by decide +kernel)

/-- A free whose UNSHARE and query are both lost, and an allocation before the retry: it is served
from the step in doubt. -/
theorem guestPool_alloc_in_doubt :
    let p : GuestPool := ⟨0x100000000,2*SZ_2M,0,SZ_2M,SZ_2M,SZ_2M,true,false⟩
    guestPoolInit FirstFit.buddy (some [gpuGuestNode 0x200000 0x400000 0x200000]) =
      (0,some (p,⟨2*SZ_2M,[]⟩)) ∧
    ¬ PoolClient.Meets PoolHost.scripted FirstFit.buddy
      (fun s e => e.Asks (AvoidsDoubt PoolHost.scripted FirstFit.buddy) s)
      (PoolClient.start p ⟨2*SZ_2M,[]⟩ [(0,false),(-ETIMEDOUT,false),(-ETIMEDOUT,false)])
      [.alloc 1 SZ_2M,.alloc 1 SZ_2M,.free 0,.alloc 1 SZ_2M] := by
  refine ⟨rfl,fun h => ?_⟩
  exact absurd (h.2.2.2.1 1 SZ_2M rfl) (by decide +kernel)

end GuestAdditions

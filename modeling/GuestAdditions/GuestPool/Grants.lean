import GuestAdditions.GuestPool.Safety
import Mathlib.Data.Set.Insert

/-! The pool against a host that keeps grants. The host always lets the guest reach the pre-shared
floor; above it a step may be granted or not, and a granted step may be accessible or not. Answers
can be lost. The boundary of the guest refines this: everything below it is accessible. -/
namespace GuestAdditions

/-- The steps, by index above the floor, that the host has granted and that the guest can reach. -/
structure Grants where
  granted : Set ℕ
  accessible : Set ℕ

namespace Grants
variable (G : Grants) (k : ℕ)

def share : Grants := ⟨insert k G.granted,insert k G.accessible⟩

def unshare : Grants := ⟨G.granted \ {k},G.accessible \ {k}⟩

/-- The grant stays but the guest's mapping is gone. -/
def lose : Grants := ⟨G.granted,G.accessible \ {k}⟩

/-- Every granted step is accessible. -/
def Whole : Prop := G.granted ⊆ G.accessible

variable {G k}

lemma Whole.share (h : G.Whole) : (G.share k).Whole := Set.insert_subset_insert h

lemma Whole.unshare (h : G.Whole) : (G.unshare k).Whole := Set.sdiff_subset_sdiff_left h

end Grants

/-- What a SHARE of step `k` may answer, and what it then does. -/
inductive ShareEffect (k : ℕ) (G : Grants) : ℤ → Grants → Prop
  | done : ShareEffect k G 0 (G.share k)
  | present (h : k ∈ G.granted) : ShareEffect k G (-EEXIST) G
  | lost : ShareEffect k G (-ETIMEDOUT) G
  | lostDone : ShareEffect k G (-ETIMEDOUT) (G.share k)
  | refused {ret} (h0 : ret ≠ 0) (he : ret ≠ -EEXIST) (ht : ret ≠ -ETIMEDOUT) : ShareEffect k G ret G

/-- What an UNSHARE of step `k` may answer, and what it then does. -/
inductive UnshareEffect (k : ℕ) (G : Grants) : ℤ → Grants → Prop
  | done : UnshareEffect k G 0 (G.unshare k)
  | unclean : UnshareEffect k G (-EUCLEAN) (G.lose k)
  | lost : UnshareEffect k G (-ETIMEDOUT) G
  | lostDone : UnshareEffect k G (-ETIMEDOUT) (G.unshare k)
  | refused {ret} (h0 : ret ≠ 0) (hu : ret ≠ -EUCLEAN) (ht : ret ≠ -ETIMEDOUT) :
      UnshareEffect k G ret G

/-- The guest can reach the byte at offset `x`. -/
def GuestPool.Reaches (p : GuestPool) (G : Grants) (x : ℕ) : Prop :=
  x < p.prealloc ∨ ∃ k ∈ G.accessible, p.stepOffset k ≤ x ∧ x < p.stepOffset k+p.step

section Host
variable {σ : Type} (H : PoolHost σ) (p₀ : GuestPool) (view : σ → Grants)

/-- A query of step `k` in state `s` is answered, and with the truth. -/
def PoolHost.Truthful (s : σ) (k : ℕ) : Prop :=
  let q := H.queryRange s p₀.poolId (p₀.stepOffset k) p₀.step
  q.1 = 0 ∧ (q.2.1 = true ↔ k ∈ (view s).granted)

/-- A host whose grants follow its answers. Only the query after a lost answer or a failed UNSHARE
need be answered. -/
structure PoolHost.Honest : Prop where
  share : ∀ s k, p₀.IsStep k → ShareEffect k (view s)
    (H.grow s p₀.poolId (p₀.stepOffset k) p₀.step).1
    (view (H.grow s p₀.poolId (p₀.stepOffset k) p₀.step).2)
  unshare : ∀ s k, p₀.IsStep k → UnshareEffect k (view s)
    (H.shrink s p₀.poolId (p₀.stepOffset k) p₀.step).1
    (view (H.shrink s p₀.poolId (p₀.stepOffset k) p₀.step).2)
  query_view : ∀ s k, p₀.IsStep k →
    view (H.queryRange s p₀.poolId (p₀.stepOffset k) p₀.step).2.2 = view s
  query_share : ∀ s k, p₀.IsStep k →
    (H.grow s p₀.poolId (p₀.stepOffset k) p₀.step).1 = -ETIMEDOUT →
    H.Truthful p₀ view (H.grow s p₀.poolId (p₀.stepOffset k) p₀.step).2 k
  query_unshare : ∀ s k, p₀.IsStep k →
    (H.shrink s p₀.poolId (p₀.stepOffset k) p₀.step).1 ≠ 0 →
    H.Truthful p₀ view (H.shrink s p₀.poolId (p₀.stepOffset k) p₀.step).2 k

end Host

variable {σ β : Type} {H : PoolHost σ} {B : DrmBuddy β} {p₀ : GuestPool} {view : σ → Grants}
  {g : Guest σ β} {k : ℕ}

/-- Whatever a SHARE answers, it adds the step or nothing. -/
theorem ShareEffect.cases {G G' : Grants} {ret : ℤ} (h : ShareEffect k G ret G') :
    G' = G ∨ G' = G.share k := by
  cases h <;> simp

lemma ShareEffect.granted {G G' : Grants} (h : ShareEffect k G 0 G') : k ∈ G'.granted := by
  generalize hret : (0 : ℤ) = ret at h
  cases h with
  | done => exact Set.mem_insert _ _
  | refused h0 => exact absurd hret.symm h0
  | present | lost | lostDone => simp at hret

lemma ShareEffect.present_granted {G G' : Grants} (h : ShareEffect k G (-EEXIST) G') :
    k ∈ G'.granted := by
  generalize hret : -EEXIST = ret at h
  cases h with
  | present h => exact h
  | refused _ he => exact absurd hret.symm he
  | done | lost | lostDone => simp at hret

namespace UnshareEffect
variable {G G' : Grants} {ret : ℤ}

/-- Another step than `k` stays accessible. -/
theorem accessible (h : UnshareEffect k G ret G') : ∀ j ∈ G.accessible, j ≠ k → j ∈ G'.accessible := by
  intro j hj hne
  cases h with
  | done | unclean | lostDone => exact ⟨hj,hne⟩
  | lost | refused => exact hj

lemma whole_of_ok (h : UnshareEffect k G 0 G') : G.Whole → G'.Whole := by
  generalize hret : (0 : ℤ) = ret at h
  cases h with
  | done => exact Grants.Whole.unshare
  | refused h0 => exact absurd hret.symm h0
  | unclean | lost | lostDone => simp at hret

/-- Once the grant is gone nothing is granted that is out of reach. -/
theorem whole (h : UnshareEffect k G ret G') (hk : k ∉ G'.granted) : G.Whole → G'.Whole := by
  intro hG
  cases h with
  | done | lostDone => exact hG.unshare
  | unclean => exact fun j hj => ⟨hG hj,fun hjk => hk (hjk ▸ hj)⟩
  | lost | refused => exact hG

lemma unchanged (h : UnshareEffect k G ret G') (hne : ret ≠ 0) (hu : ret ≠ -EUCLEAN)
    (hk : k ∈ G'.granted) : G' = G := by
  cases h with
  | done => exact absurd rfl hne
  | unclean => exact absurd rfl hu
  | lostDone => exact absurd rfl hk.2
  | lost | refused => rfl

end UnshareEffect

section Request
variable (hH : H.Honest p₀ view) (hid : g.pool.poolId = p₀.poolId) (hstep : g.pool.step = p₀.step)
  (hk : p₀.IsStep k)
include hH hid hstep hk

/-- The SHARE with its query adds the step or nothing, and when it succeeds the step is granted. -/
theorem growRequest_effect (hoff : g.pool.backed = p₀.stepOffset k) :
    (view (growRequest H B g).2.host = view g.host ∨
      view (growRequest H B g).2.host = (view g.host).share k) ∧
    ((growRequest H B g).1 = 0 → k ∈ (view (growRequest H B g).2.host).granted) := by
  have hshare := hH.share g.host k hk
  have hview := hH.query_view (H.grow g.host p₀.poolId (p₀.stepOffset k) p₀.step).2 k hk
  have htrue := hH.query_share g.host k hk
  have hans := growRequest_answer H B g
  rw [← hid, ← hstep, ← hoff] at hshare hview htrue
  generalize growRequest H B g = r at hans ⊢
  cases hans with
  | clear asked =>
    rw [asked] at hshare
    refine ⟨hshare.cases,?_⟩
    rintro rfl
    exact hshare.granted
  | confirmed asked doubt queried =>
    simp only [PoolHost.Truthful, ← hid, ← hstep, ← hoff, asked, queried] at hshare hview htrue
    simp only [hview]
    refine ⟨hshare.cases,fun _ => ?_⟩
    rcases doubt with rfl | rfl
    · exact (htrue rfl).2.mp trivial
    · exact hshare.present_granted
  | unconfirmed asked doubt queried =>
    simp only [asked, queried] at hshare hview
    simp only [hview]
    exact ⟨hshare.cases,fun h0 => by rcases doubt with rfl | rfl <;> simp at h0⟩

/-- The UNSHARE with its query takes at most the step away. When it succeeds no grant is left that
the guest cannot reach, and when it fails otherwise than by `-EUCLEAN` nothing has changed. -/
theorem shrinkRequest_effect (hoff : g.pool.backed - g.pool.step = p₀.stepOffset k) :
    (∀ j ∈ (view g.host).accessible, j ≠ k → j ∈ (view (shrinkRequest H B g).2.host).accessible) ∧
    ((shrinkRequest H B g).1 = 0 → (view g.host).Whole →
      (view (shrinkRequest H B g).2.host).Whole) ∧
    ((shrinkRequest H B g).1 ≠ 0 → (shrinkRequest H B g).1 ≠ -EUCLEAN →
      view (shrinkRequest H B g).2.host = view g.host) := by
  have hunshare := hH.unshare g.host k hk
  have hview := hH.query_view (H.shrink g.host p₀.poolId (p₀.stepOffset k) p₀.step).2 k hk
  have htrue := hH.query_unshare g.host k hk
  have hans := shrinkRequest_answer H B g
  rw [← hid, ← hoff, ← hstep] at hunshare hview htrue
  generalize shrinkRequest H B g = r at hans ⊢
  cases hans with
  | clear asked =>
    rw [asked] at hunshare
    exact ⟨hunshare.accessible,fun _ => hunshare.whole_of_ok,fun h => absurd rfl h⟩
  | released asked ne queried =>
    simp only [PoolHost.Truthful, ← hid, ← hoff, ← hstep, asked, queried] at hunshare hview htrue
    simp only [hview]
    refine ⟨hunshare.accessible,fun _ => hunshare.whole (fun h => ?_),fun h => absurd rfl h⟩
    exact absurd ((htrue ne).2.mpr h) (by simp)
  | kept asked ne queried no =>
    simp only [PoolHost.Truthful, ← hid, ← hoff, ← hstep, asked, queried] at hunshare hview htrue
    simp only [hview]
    refine ⟨hunshare.accessible,fun h0 => absurd h0 ne,fun _ hne => hunshare.unchanged ne hne ?_⟩
    exact (htrue ne).2.mp (no (htrue ne).1)

end Request

variable (p₀ view) in
/-- The guest's boundary against the grants of the host. -/
structure Guest.Reached (g : Guest σ β) : Prop where
  backed : ∀ k, p₀.IsStep k → p₀.stepOffset k+p₀.step ≤ g.pool.backed →
    k ∈ (view g.host).accessible
  whole : g.pool.step ≠ 0 → (view g.host).Whole

lemma Guest.Reached.grow (hH : H.Honest p₀ view) (hs : g.Safe B p₀) (hg : g.Reached p₀ view) :
    (guestPoolGrowOneLocked H B g).2.Reached p₀ view := by
  have hout := guestPoolGrowOneLocked_outcome H B g
  have heffect : ∀ {k}, g.pool.CanGrow → p₀.IsStep k → g.pool.backed = p₀.stepOffset k →
      (view g.host).accessible ⊆ (view (growRequest H B g).2.host).accessible ∧
      (view (growRequest H B g).2.host).Whole ∧
      ((growRequest H B g).1 = 0 → k ∈ (view (growRequest H B g).2.host).accessible) := by
    intro k can hk hoff
    obtain ⟨hview,hok⟩ := growRequest_effect (B := B) hH hs.bounded.poolId_eq
      (hs.bounded.step_of_ne can.1) hk hoff
    have hwhole : (view (growRequest H B g).2.host).Whole := by
      rcases hview with h | h <;> rw [h]
      exacts [hg.whole can.1,(hg.whole can.1).share]
    refine ⟨?_,hwhole,fun h0 => hwhole (hok h0)⟩
    rcases hview with h | h <;> rw [h]
    exact Set.subset_insert _ _
  generalize guestPoolGrowOneLocked H B g = r at hout ⊢
  cases hout with
  | refused => exact hg
  | failed can =>
    obtain ⟨k,hk,hoff,-⟩ := hs.bounded.next_step can
    obtain ⟨hsub,hwhole,-⟩ := heffect can hk hoff
    exact ⟨fun j hj hle => hsub (hg.backed j hj (by simpa using hle)),fun _ => hwhole⟩
  | raised can ok =>
    obtain ⟨k,hk,hoff,hstep⟩ := hs.bounded.next_step can
    obtain ⟨hsub,hwhole,hnew⟩ := heffect can hk hoff
    refine ⟨fun j hj hle => ?_,fun _ => hwhole⟩
    by_cases hjk : p₀.stepOffset j+p₀.step ≤ g.pool.backed
    · exact hsub (hg.backed j hj hjk)
    · obtain rfl : j = k := by
        refine p₀.stepOffset_unique hk.1 (hoff ▸ not_le.mp hjk) ?_
        simp only [hstep, hoff] at hle
        omega
      exact hnew ok

lemma Guest.Reached.shrink (hH : H.Honest p₀ view) (hs : g.Safe B p₀) (hg : g.Reached p₀ view) :
    (guestPoolShrinkOneLocked H B g).2.Reached p₀ view := by
  have hout := guestPoolShrinkOneLocked_outcome H B g
  have heffect : ∀ {k}, g.pool.CanShrink → p₀.IsStep k →
      g.pool.backed - g.pool.step = p₀.stepOffset k → _ := fun can hk hoff =>
    shrinkRequest_effect (B := B) hH hs.bounded.poolId_eq (hs.bounded.step_of_ne can.1) hk hoff
  -- Below the lowered boundary every step is another one than the last.
  have hbelow : ∀ {k}, g.pool.CanShrink → p₀.IsStep k →
      g.pool.backed - g.pool.step = p₀.stepOffset k → ∀ j, p₀.IsStep j →
      p₀.stepOffset j+p₀.step ≤ g.pool.backed - g.pool.step →
      j ∈ (view (shrinkRequest H B g).2.host).accessible := by
    intro k can hk hoff j hj hle
    refine (heffect can hk hoff).1 j (hg.backed j hj (hle.trans (Nat.sub_le _ _))) ?_
    rintro rfl
    have := hk.1
    omega
  generalize guestPoolShrinkOneLocked H B g = r at hout ⊢
  cases hout with
  | refused => exact hg
  | stopped can =>
    obtain ⟨k,hk,hoff,-,-⟩ := hs.bounded.last_step can
    exact ⟨hbelow can hk hoff,fun h => absurd rfl h⟩
  | lowered can ok =>
    obtain ⟨k,hk,hoff,-,-⟩ := hs.bounded.last_step can
    exact ⟨hbelow can hk hoff,fun _ => (heffect can hk hoff).2.1 ok (hg.whole can.1)⟩
  | failed can unclean ne =>
    obtain ⟨k,hk,hoff,-,-⟩ := hs.bounded.last_step can
    have hview := (heffect can hk hoff).2.2 ne unclean
    exact ⟨fun j hj hle => hview ▸ hg.backed j hj (by simpa using hle),
      fun _ => hview ▸ hg.whole can.1⟩

/-- Below the boundary the guest reaches every byte. -/
theorem Guest.Reached.byte (hs : g.Safe B p₀) (hg : g.Reached p₀ view) {x : ℕ}
    (hx : x < g.pool.backed) : p₀.Reaches (view g.host) x := by
  obtain ⟨m,hm⟩ := hs.bounded.exists_step
  by_cases hfloor : x < p₀.prealloc
  · exact .inl hfloor
  · have hpos : 0 < p₀.step := by
      rcases Nat.eq_zero_or_pos p₀.step with h | h
      · rw [GuestPool.stepOffset, h] at hm
        omega
      · exact h
    have hdiv := Nat.div_add_mod' (x - p₀.prealloc) p₀.step
    have hmod := Nat.mod_lt (x - p₀.prealloc) hpos
    generalize (x - p₀.prealloc) / p₀.step = k at hdiv
    have hlo : p₀.stepOffset k ≤ x ∧ x < p₀.stepOffset k+p₀.step := by
      simp only [GuestPool.stepOffset]
      omega
    have hkm : k+1 ≤ m := by
      rw [hm, GuestPool.stepOffset] at hx
      exact Nat.lt_of_mul_lt_mul_right (a := p₀.step) (by omega)
    have hle : p₀.stepOffset k+p₀.step ≤ g.pool.backed := by
      have := Nat.mul_le_mul_right p₀.step hkm
      rw [Nat.succ_mul] at this
      simp only [hm, GuestPool.stepOffset]
      omega
    exact .inr ⟨k,hg.backed k ⟨hpos,hle.trans hs.bounded.ceiling⟩ hle,hlo⟩

/-- The log, newest call first, has an UNSHARE at `offset` that was answered `-EUCLEAN` and followed
by a query that found the grant still there. -/
def LostAt (offset : ℕ) : List HostCall → Prop
  | q::u::calls =>
    (q.op = .query ∧ q.ret = 0 ∧ q.answer = true ∧
      u.op = .unshare ∧ u.ret = -EUCLEAN ∧ u.offset = offset) ∨ LostAt offset (u::calls)
  | _ => False

variable {offset : ℕ} {calls : List HostCall} {c : HostCall}

/-- Only a query can complete the evidence. -/
theorem LostAt.of_cons (h : LostAt offset (c::calls)) (hc : c.op ≠ .query) :
    LostAt offset calls := by
  cases calls with
  | nil => exact h
  | cons u calls => exact h.resolve_left (fun h => hc h.1)

lemma lostAt_growRequest (h : LostAt offset (growRequest H B g).2.calls) :
    LostAt offset g.calls := by
  have hans := growRequest_answer H B g
  generalize growRequest H B g = r at hans h
  cases hans with
  | clear => exact h.of_cons (by simp [Guest.call])
  | confirmed | unconfirmed =>
    exact (h.resolve_left (by simp [Guest.call])).of_cons (by simp [Guest.call])

lemma lostAt_shrinkRequest (h : LostAt offset (shrinkRequest H B g).2.calls) :
    LostAt offset g.calls ∨
      (shrinkRequest H B g).1 = -EUCLEAN ∧ offset = g.pool.backed - g.pool.step := by
  have hans := shrinkRequest_answer H B g
  generalize shrinkRequest H B g = r at hans h ⊢
  cases hans with
  | clear => exact .inl (h.of_cons (by simp [Guest.call]))
  | released => exact .inl ((h.resolve_left (by simp [Guest.call])).of_cons (by simp [Guest.call]))
  | kept =>
    rcases h with ⟨-,-,-,-,hret,hoff⟩ | h
    · exact .inr ⟨hret,hoff.symm⟩
    · exact .inl (h.of_cons (by simp [Guest.call]))

/-- Growth has stopped below every step whose mapping was lost. -/
def Guest.Retired (g : Guest σ β) : Prop :=
  ∀ offset, LostAt offset g.calls → g.pool.step = 0 ∧ g.pool.backed ≤ offset

lemma Guest.Retired.grow (hg : g.Retired) : (guestPoolGrowOneLocked H B g).2.Retired := by
  have hout := guestPoolGrowOneLocked_outcome H B g
  generalize guestPoolGrowOneLocked H B g = r at hout ⊢
  cases hout with
  | refused => exact hg
  | failed can | raised can =>
    exact fun offset h => absurd (hg offset (lostAt_growRequest h)).1 can.1

lemma Guest.Retired.shrink (hg : g.Retired) : (guestPoolShrinkOneLocked H B g).2.Retired := by
  have hout := guestPoolShrinkOneLocked_outcome H B g
  generalize guestPoolShrinkOneLocked H B g = r at hout ⊢
  cases hout with
  | refused => exact hg
  | stopped can =>
    intro offset h
    rcases lostAt_shrinkRequest h with h | ⟨-,rfl⟩
    · exact absurd (hg offset h).1 can.1
    · exact ⟨rfl,le_rfl⟩
  | lowered can ok =>
    intro offset h
    rcases lostAt_shrinkRequest h with h | ⟨h,-⟩
    · exact absurd (hg offset h).1 can.1
    · rw [ok] at h
      simp at h
  | failed can unclean =>
    intro offset h
    rcases lostAt_shrinkRequest h with h | ⟨h,-⟩
    · exact absurd (hg offset h).1 can.1
    · exact absurd h unclean

/-- Without a step the pool neither moves its boundary nor calls the host. -/
theorem PoolClient.run_stopped (hB : B.Sound) {s : PoolClient σ β} (hs : s.Safe B p₀)
    (hstop : s.guest.pool.step = 0) (events : List PoolEvent) :
    let t := s.run H B events
    t.guest.pool.step = 0 ∧ t.guest.pool.backed = s.guest.pool.backed ∧
      t.guest.calls = s.guest.calls := by
  refine PoolClient.run_guest (I := fun g => g.pool.step = 0 ∧ g.pool.backed = s.guest.pool.backed ∧
    g.calls = s.guest.calls) hB (fun _ _ h => h) (fun _ _ h => h) ?_ ?_ hs ⟨hstop,rfl,rfl⟩ events
  · intro g _ hg
    have hout := guestPoolGrowOneLocked_outcome H B g
    generalize guestPoolGrowOneLocked H B g = r at hout ⊢
    cases hout with
    | refused => exact hg
    | failed can | raised can => exact absurd hg.1 can.1
  · intro g _ hg
    have hout := guestPoolShrinkOneLocked_outcome H B g
    generalize guestPoolShrinkOneLocked H B g = r at hout ⊢
    cases hout with
    | refused => exact hg
    | stopped can | lowered can | failed can => exact absurd hg.1 can.1

/-- Against a host that keeps grants, whatever it answers and loses: in every state of every run
each byte below the boundary is accessible, so each byte of every live block is. And after an
`-EUCLEAN` that the query confirms, the boundary stays for good at or below the lost step, no call
is made any more and no live block reaches the step. -/
theorem guestPool_backed_accessible (hB : B.Sound) {reservedMemory : Option (List DtNode)} {ret : ℤ}
    {p : GuestPool} {mm : β} (hinit : guestPoolInit B reservedMemory = (ret,some (p,mm)))
    (hH : H.Honest p view) {host : σ} (hhost : (view host).Whole) (events : List PoolEvent) :
    let s := (PoolClient.start p mm host).run H B events
    (∀ x < s.guest.pool.backed, p.Reaches (view s.guest.host) x) ∧
      (∀ bs ∈ s.held, ∀ b ∈ bs, ∀ x, b.Contains x → p.Reaches (view s.guest.host) x) ∧
      ∀ offset, LostAt offset s.guest.calls → ∀ later,
        let t := s.run H B later
        t.guest.pool.step = 0 ∧ t.guest.pool.backed = s.guest.pool.backed ∧
          t.guest.pool.backed ≤ offset ∧ t.guest.calls = s.guest.calls ∧
          ∀ bs ∈ t.held, ∀ b ∈ bs, b.stop ≤ offset := by
  obtain ⟨hp,hmm⟩ := guestPoolInit_accepted hinit
  have hstart := PoolClient.start_safe hB hp hmm host
  have hs := hstart.run (H := H) hB events
  have hreach : ((PoolClient.start p mm host).run H B events).guest.Reached p view := by
    refine PoolClient.run_guest hB (fun _ _ h => ⟨h.backed,h.whole⟩)
      (fun _ _ h => ⟨h.backed,h.whole⟩) (fun _ hs hg => hg.grow hH hs)
      (fun _ hs hg => hg.shrink hH hs) hstart ⟨fun k hk hle => ?_,fun _ => hhost⟩ events
    have hpos := hk.1
    simp only [PoolClient.start, hp.backed_eq, GuestPool.stepOffset] at hle
    omega
  have hretired : ((PoolClient.start p mm host).run H B events).guest.Retired :=
    PoolClient.run_guest hB (fun _ _ h => h) (fun _ _ h => h) (fun _ _ hg => hg.grow)
      (fun _ _ hg => hg.shrink) hstart (fun offset h => absurd h id) events
  generalize (PoolClient.start p mm host).run H B events = s at hs hreach hretired
  have hblock : ∀ {t : PoolClient σ β}, t.Safe B p → ∀ bs ∈ t.held, ∀ b ∈ bs,
      b.stop ≤ t.guest.pool.backed := fun ht bs hbs b hb =>
    ht.guest.below b (ht.held.mem_iff.mpr (List.mem_flatten.mpr ⟨bs,hbs,hb⟩))
  refine ⟨fun x hx => hreach.byte hs.guest hx,fun bs hbs b hb x hx => ?_,fun offset hlost later => ?_⟩
  · exact hreach.byte hs.guest (hx.2.trans_le (hblock hs bs hbs b hb))
  · obtain ⟨hstop,hle⟩ := hretired offset hlost
    obtain ⟨h₁,h₂,h₃⟩ := PoolClient.run_stopped (H := H) hB hs hstop later
    have ht := hs.run (H := H) hB later
    exact ⟨h₁,h₂,h₂ ▸ hle,h₃,fun bs hbs b hb => (hblock ht bs hbs b hb).trans (h₂ ▸ hle)⟩

inductive GrantChoice
  | serve
  | lose
  | loseDone
  | unclean
  | refuse

/-- The grants as lists, with the choices for the requests to come. -/
structure GrantHost where
  granted : List ℕ
  accessible : List ℕ
  choices : List GrantChoice

namespace GrantHost

def grants (s : GrantHost) : Grants := ⟨{k | k ∈ s.granted},{k | k ∈ s.accessible}⟩

def next (s : GrantHost) : GrantHost := { s with choices := s.choices.tail }

def share (s : GrantHost) (k : ℕ) : GrantHost :=
  { s.next with granted := k::s.granted, accessible := k::s.accessible }

def unshare (s : GrantHost) (k : ℕ) : GrantHost :=
  { s.next with granted := s.granted.filter (· ≠ k), accessible := s.accessible.filter (· ≠ k) }

/-- The host of the pool `p`: a SHARE or UNSHARE is answered by the next choice and a query is
always answered. -/
def host (p : GuestPool) : PoolHost GrantHost where
  grow s _ offset _ :=
    let k := (offset - p.prealloc) / p.step
    match s.choices.headD .serve with
    | .serve => if k ∈ s.granted then (-EEXIST,s.next) else (0,s.share k)
    | .lose => (-ETIMEDOUT,s.next)
    | .loseDone => (-ETIMEDOUT,s.share k)
    | .unclean => (- EIO,s.next)
    | .refuse => (- EIO,s.next)
  shrink s _ offset _ :=
    let k := (offset - p.prealloc) / p.step
    match s.choices.headD .serve with
    | .serve => (0,s.unshare k)
    | .lose => (-ETIMEDOUT,s.next)
    | .loseDone => (-ETIMEDOUT,s.unshare k)
    | .unclean => (-EUCLEAN,{ s.next with accessible := s.accessible.filter (· ≠ k) })
    | .refuse => (-EBUSY,s.next)
  queryRange s _ offset _ := (0,decide ((offset - p.prealloc) / p.step ∈ s.granted),s)

@[simp] lemma grants_next (s : GrantHost) : s.next.grants = s.grants := rfl

@[simp] lemma grants_share (s : GrantHost) (k : ℕ) : (s.share k).grants = s.grants.share k := by
  simp only [grants, share, Grants.share, List.mem_cons, Grants.mk.injEq]
  exact ⟨rfl,rfl⟩

@[simp] lemma grants_unshare (s : GrantHost) (k : ℕ) : (s.unshare k).grants = s.grants.unshare k := by
  simp only [grants, unshare, Grants.unshare, List.mem_filter, decide_eq_true_eq, Grants.mk.injEq]
  exact ⟨rfl,rfl⟩

lemma index_stepOffset {p : GuestPool} {k : ℕ} (hk : p.IsStep k) :
    (p.stepOffset k - p.prealloc) / p.step = k := by
  rw [GuestPool.stepOffset, Nat.add_sub_cancel_left, Nat.mul_div_cancel _ hk.1]

lemma host_truthful {p : GuestPool} {k : ℕ} (hk : p.IsStep k) (s : GrantHost) :
    (host p).Truthful p grants s k := by
  simp [PoolHost.Truthful, host, index_stepOffset hk, grants]

lemma host_honest (p : GuestPool) : (host p).Honest p grants where
  share s k hk := by
    simp only [host, index_stepOffset hk]
    cases s.choices.headD .serve with
    | serve =>
      by_cases h : k ∈ s.granted
      · simpa [h] using ShareEffect.present h
      · simpa [h] using ShareEffect.done
    | lose => exact .lost
    | loseDone => simpa using ShareEffect.lostDone
    | unclean | refuse =>
      exact .refused (show - EIO ≠ 0 by decide) (show - EIO ≠ -EEXIST by decide)
        (show - EIO ≠ -ETIMEDOUT by decide)
  unshare s k hk := by
    simp only [host, index_stepOffset hk]
    cases s.choices.headD .serve with
    | serve => simpa using UnshareEffect.done
    | lose => exact .lost
    | loseDone => simpa using UnshareEffect.lostDone
    | unclean =>
      have hview : grants { s.next with accessible := s.accessible.filter (· ≠ k) } =
          s.grants.lose k := by
        simp only [grants, Grants.lose, List.mem_filter, decide_eq_true_eq, Grants.mk.injEq]
        exact ⟨rfl,rfl⟩
      exact hview ▸ .unclean
    | refuse =>
      exact .refused (show -EBUSY ≠ 0 by decide)
        (show -EBUSY ≠ -EUCLEAN by decide) (show -EBUSY ≠ -ETIMEDOUT by decide)
  query_view _ _ _ := rfl
  query_share s k hk _ := host_truthful hk _
  query_unshare s k hk _ := host_truthful hk _

end GrantHost

/-- A step left granted by an earlier instance, a lost UNSHARE and then an unclean one. -/
theorem guestPool_backed_accessible_unclean :
    let p : GuestPool := ⟨0x100000000,3*SZ_2M,0,SZ_2M,SZ_2M,SZ_2M,true,false⟩
    let s := (PoolClient.start p ⟨3*SZ_2M,[]⟩ ⟨[0],[0],[.serve,.lose,.unclean]⟩).run
      (GrantHost.host p) FirstFit.buddy
      [.alloc 1 SZ_2M,.alloc 1 SZ_2M,.free 0,.reclaimWork]
    (∀ x < s.guest.pool.backed, p.Reaches (GrantHost.grants s.guest.host) x) ∧
      (∀ bs ∈ s.held, ∀ b ∈ bs, ∀ x, b.Contains x → p.Reaches (GrantHost.grants s.guest.host) x) ∧
      ∀ offset, LostAt offset s.guest.calls → ∀ later,
        let t := s.run (GrantHost.host p) FirstFit.buddy later
        t.guest.pool.step = 0 ∧ t.guest.pool.backed = s.guest.pool.backed ∧
          t.guest.pool.backed ≤ offset ∧ t.guest.calls = s.guest.calls ∧
          ∀ bs ∈ t.held, ∀ b ∈ bs, b.stop ≤ offset :=
  guestPool_backed_accessible FirstFit.buddy_sound
    (show guestPoolInit _ (some [gpuGuestNode 0x200000 0x600000 0x200000]) = (0,_) by rfl)
    (GrantHost.host_honest _)
    (fun i (h : i ∈ (GrantHost.grants ⟨[0],[0],[.serve,.lose,.unclean]⟩).granted) => h) _

end GuestAdditions

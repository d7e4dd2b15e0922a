import GuestAdditions.Ctrlq.Completion
import Mathlib.Algebra.BigOperators.Group.List.Basic

/-! A host that keeps an order signals each fence with the answer to its own command. If it keeps the order
of each context this needs the fences of a context to stay within the window of the comparison; if it keeps
the order of the ring the size of the ring sees to that. -/
namespace GuestAdditions
open Keyed

section Oldest
variable {t : FenceTrace} {g : Fence} {tl : List Fence}

/-- An answer for the oldest pending fence of a context signals it alone. -/
theorem FenceTrace.Listed.answer_oldest (h : t.Listed) (hn : t.Numbered)
    (hwin : t.drv.InWindow (.answer g.fenceId))
    (hold : t.drv.fences.filter (fun f => f.context = g.context) = g::tl) :
    t.drv.fenceEventProcess g.fenceId =
      ({ t.drv with
          lastFenceId := g.fenceId
          fences := t.drv.fences.filter fun f => f.fenceId ≠ g.fenceId },g.retire) := by
  have hpair := h.pairwise hn
  have hnodup := nodup_of_pairwise hpair
  have hmem : g ∈ t.drv.fences := by
    have hin : g ∈ t.drv.fences.filter fun f => f.context = g.context := by
      rw [hold]
      exact .head _
    exact (List.mem_filter.mp hin).1
  have hfirst : firstAt Fence.fenceId g.fenceId t.drv.fences = some g := firstAt_of_mem hnodup hmem
  have halone : ∀ f ∈ t.drv.fences, ¬ g.GoesWith f := by
    intro f hf hgo
    obtain ⟨hctx,hlt⟩ := (h.goesWith_iff hn hwin hfirst hf).mp hgo
    have hin : f ∈ g::tl := by
      rw [← hold]
      exact List.mem_filter.mpr ⟨hf,by simpa using hctx⟩
    have hsorted := hpair.filter fun f => f.context = g.context
    rw [hold] at hsorted
    rcases List.mem_cons.mp hin with rfl | hin
    · exact lt_irrefl _ hlt
    · exact lt_asymm hlt ((List.pairwise_cons.mp hsorted).1 f hin)
  have hnone : t.drv.fences.filter (fun f => g.GoesWith f) = [] :=
    List.filter_eq_nil_iff.mpr fun f hf => by simpa using halone f hf
  have hall : t.drv.fences.filter (fun f => ¬ g.GoesWith f) = t.drv.fences :=
    List.filter_eq_self.mpr fun f hf => by simpa using halone f hf
  rw [fenceEventProcess_some hfirst,hnone,hall,eraseAt_eq_filter hnodup]
  rfl

/-- The last fences emitted are within the window, as long as there are at most `2^31`. -/
theorem FenceTrace.Numbered.inWindow {pre : List Fence} (hn : t.Numbered)
    (hsplit : t.emitted = pre ++ t.drv.fences) (hfences : t.drv.fences = g::tl)
    (hshort : t.drv.fences.length ≤ 2^31) : t.drv.InWindow (.answer g.fenceId) := by
  have hlisted : t.Listed := by
    rw [FenceTrace.Listed,hsplit]
    exact List.sublist_append_right _ _
  have hpair := hlisted.pairwise hn
  have hgmem : g ∈ t.drv.fences := by
    rw [hfences]
    exact .head _
  have hg : g.fenceId = 1+pre.length := by
    have hat := congrArg (fun ids => ids[pre.length]?) hn.ids
    rw [hsplit,hfences] at hat
    simpa using hat
  have hspan : ∀ f ∈ t.drv.fences, g.fenceId ≤ f.fenceId ∧ f.fenceId < g.fenceId+2^31 := by
    intro f hf
    have hle := hn.id_le (hlisted.subset hf)
    rw [hsplit,List.length_append] at hle
    refine ⟨?_,by omega⟩
    rw [hfences] at hf hpair
    rcases List.mem_cons.mp hf with rfl | hf
    · exact le_rfl
    · exact ((List.pairwise_cons.mp hpair).1 f hf).le
  intro s hs f hf _
  rw [firstAt_of_mem (nodup_of_pairwise hpair) hgmem] at hs
  obtain rfl := Option.some.inj hs
  have hf' := hspan f hf
  rw [hn.seqno f (hlisted.subset hf),hn.seqno g (hlisted.subset hgmem)]
  omega

end Oldest

/-- The fences of one context among entries, in order. -/
def fencesOf (c : ℕ) (l : List RingEntry) : List Fence :=
  (l.filterMap RingEntry.fence).filter fun f => f.context = c

section Contexts
variable {q q' : Ctrlq} {e : CtrlqEvent} {c : ℕ}

lemma fencesOf_append (l l' : List RingEntry) :
    fencesOf c (l ++ l') = fencesOf c l ++ fencesOf c l' := by
  rw [fencesOf,List.filterMap_append,List.filter_append]
  rfl

lemma fencesOf_cons_none {r : RingEntry} (hr : r.fence = none) (l : List RingEntry) :
    fencesOf c (r::l) = fencesOf c l := by
  rw [fencesOf,List.filterMap_cons_none hr]
  rfl

lemma fencesOf_cons_self {r : RingEntry} {f : Fence} (hr : r.fence = some f) (l : List RingEntry) :
    fencesOf f.context (r::l) = f::fencesOf f.context l := by
  rw [fencesOf,List.filterMap_cons_some hr,List.filter_cons_of_pos (by simp)]
  rfl

lemma fencesOf_cons_ne {r : RingEntry} {f : Fence} (hr : r.fence = some f) (hc : f.context ≠ c)
    (l : List RingEntry) : fencesOf c (r::l) = fencesOf c l := by
  rw [fencesOf,List.filterMap_cons_some hr,List.filter_cons_of_neg (by simpa using hc)]
  rfl

lemma fencesOf_eq_nil {l : List RingEntry} (h : ∀ e ∈ l, ∀ f ∈ e.fence, f.context ≠ c) :
    fencesOf c l = [] := by
  apply List.filter_eq_nil_iff.mpr
  intro f hf
  obtain ⟨e,he,hfe⟩ := List.mem_filterMap.mp hf
  simpa using h e he f hfe

/-- Each fence is signalled with the answer to its own command, and in each context the pending fences are
those of the commands in flight. -/
structure Ctrlq.InStep (q : Ctrlq) : Prop where
  tracks : ∀ c, q.fences.drv.fences.filter (fun f => f.context = c) = fencesOf c q.inFlight
  own : signalled q.fences.out = (q.released ++ q.answered).filterMap RingEntry.fence

lemma filterMap_respond (l l' : List RingEntry) (r : RingEntry) :
    (l ++ (l' ++ [r])).filterMap RingEntry.fence =
      (l ++ l').filterMap RingEntry.fence ++ r.fence.toList := by
  cases hr : r.fence <;> simp [hr]

/-- The host may take an entry past others if these have no fence of its context. -/
theorem fencesOf_use {l : List RingEntry} {i : ℕ} {r : RingEntry} (hr : l[i]? = some r)
    (hord : ∀ f ∈ r.fence, ∀ e' ∈ l.take i, ∀ f' ∈ e'.fence, f'.context ≠ f.context) :
    fencesOf c (r::l.eraseIdx i) = fencesOf c l := by
  obtain ⟨hi,hget⟩ := List.getElem?_eq_some_iff.mp hr
  have hl : l = l.take i ++ ([r] ++ l.drop (i+1)) := by
    rw [← hget,List.singleton_append,← List.drop_eq_getElem_cons hi,List.take_append_drop]
  have hcons : r::l.eraseIdx i = [r] ++ (l.take i ++ l.drop (i+1)) := by
    rw [List.eraseIdx_eq_take_drop_succ]
    rfl
  rw [hcons,fencesOf_append,fencesOf_append]
  conv_rhs => rw [hl,fencesOf_append,fencesOf_append]
  by_cases hown : ∃ f, r.fence = some f ∧ f.context = c
  · obtain ⟨f,hf,rfl⟩ := hown
    rw [fencesOf_eq_nil (l := l.take i) (hord f hf)]
    rfl
  · have hnone : fencesOf c [r] = [] := by
      apply fencesOf_eq_nil
      intro e he f hf hfc
      rw [List.mem_singleton.mp he] at hf
      exact hown ⟨f,hf,hfc⟩
    rw [hnone]
    rfl

lemma Ctrlq.InStep.step (h : q.InStep) (hs : q.Sound) (hc : q.Coupled) (hq : q.step e = some q')
    (hord : q.ContextOrder e) (hwin : q.AnswerInWindow e)
    (hfew : q'.fences.emitted.length < 2^64) (hlost : q'.lost = []) : q'.InStep := by
  cases e with
  | queue v fence tries =>
    cases queue_cases hq with
    | noTable | warned => cases hlost
    | unplugged => exact ⟨h.tracks,h.own⟩
    | added =>
      have hin : q.reclaimed.map Prod.fst ++ (q.used.map Prod.fst ++
          (q.available ++ [q.entry v fence tries])) = q.inFlight ++ [q.entry v fence tries] := by
        simp only [Ctrlq.inFlight,List.append_assoc]
      cases fence with
      | none =>
        refine ⟨fun c => ?_,h.own⟩
        rw [Ctrlq.inFlight,hin,fencesOf_append]
        exact (h.tracks c).trans (List.append_nil _).symm
      | some f =>
        refine ⟨fun c => ?_,h.own⟩
        rw [Ctrlq.inFlight,hin,fencesOf_append,← h.tracks c]
        exact List.filter_append _ _
  | use i resp =>
    obtain ⟨r,hr,rfl⟩ := use_cases hq
    refine ⟨fun c => (h.tracks c).trans ?_,h.own⟩
    have huse := fencesOf_use (c := c) hr (hord r hr)
    simp only [Ctrlq.inFlight,List.map_append,List.map_cons,List.map_nil,List.append_assoc,
      List.singleton_append]
    simp only [fencesOf_append,huse]
  | reclaim =>
    have hin := inFlight_reclaim hq
    obtain ⟨_,_,rfl⟩ := reclaim_cases hq
    exact ⟨fun c => by rw [hin]; exact h.tracks c,h.own⟩
  | respond =>
    have hnum := hs.numbered ((step_emitted_le hq).trans_lt hfew)
    obtain ⟨r,resp,rest,hrec,rfl⟩ := respond_cases hq
    have hin := inFlight_cons hrec
    rcases hc.head hrec with ⟨hnot,hr⟩ | ⟨hfenced,f,hr,hid⟩
    · rw [if_neg hnot]
      refine ⟨fun c => ?_,h.own.trans ?_⟩
      · rw [h.tracks c,hin,fencesOf_cons_none hr]
        rfl
      · rw [filterMap_respond,hr]
        exact (List.append_nil _).symm
    · have hold : q.fences.drv.fences.filter (fun g => g.context = f.context) =
          f::fencesOf f.context (rest.map Prod.fst ++ (q.used.map Prod.fst ++ q.available)) := by
        rw [h.tracks f.context,hin,fencesOf_cons_self hr]
      have hone := hs.listed.answer_oldest hnum (hid ▸ hwin (r,resp) (by rw [hrec]; rfl)) hold
      have hpair := hs.listed.pairwise hnum
      rw [if_pos hfenced,hid,FenceTrace.call,hone]
      refine ⟨fun c => ?_,?_⟩
      · rw [List.filter_filter,List.filter_congr fun g _ => Bool.and_comm _ _,← List.filter_filter]
        by_cases hcf : f.context = c
        · subst hcf
          have hsorted := hpair.filter fun g => g.context = f.context
          rw [hold] at hsorted ⊢
          rw [List.filter_cons_of_neg (by simp)]
          exact List.filter_eq_self.mpr fun g hg => by
            simpa using ((List.pairwise_cons.mp hsorted).1 g hg).ne'
        · have htl := h.tracks c
          rw [hin,fencesOf_cons_ne hr hcf] at htl
          refine (List.filter_eq_self.mpr fun g hg => ?_).trans htl
          have hg' := List.mem_filter.mp hg
          have hfmem : f ∈ q.fences.drv.fences.filter fun g => g.context = f.context := by
            rw [hold]
            exact .head _
          have hne : g.fenceId ≠ f.fenceId := by
            intro he
            have hgf := FenceTrace.eq_of_fenceId hpair hg'.1 (List.mem_filter.mp hfmem).1 he
            rw [hgf] at hg'
            exact hcf (by simpa using hg'.2)
          simpa using hne
      · rw [signalled_append,signalled_retire,h.own,filterMap_respond,hr]
        rfl
  | release =>
    obtain ⟨r,rest,_,hans,rfl⟩ := release_cases hq
    refine ⟨h.tracks,h.own.trans ?_⟩
    rw [hans,List.append_assoc,List.singleton_append]

/-- A host that echoes and keeps the order of each context signals each fence with the answer to its own
command, as long as the fences of a context stay within the window. -/
theorem fences_with_own_answer {hasIndirect : Bool} {size context : ℕ} {es : List CtrlqEvent}
    (h : (Ctrlq.start hasIndirect size context).RunsWith
      (fun q e => q.HostEchoes e ∧ q.ContextOrder e ∧ q.AnswerInWindow e) es q)
    (hfew : q.fences.emitted.length < 2^64) (hlost : q.lost = []) : q.InStep := by
  have hinv := h.invariant (I := fun q => q.Sound ∧ q.Coupled ∧
      (q.fences.emitted.length < 2^64 → q.lost = [] → q.InStep)) ?_ ?_
  · exact hinv.2.2 hfew hlost
  · rintro q e q' ⟨hs,hc,hi⟩ ⟨hq,hecho,hord,hwin⟩
    refine ⟨hs.step hq,hc.step hq hecho,fun hfew hlost => ?_⟩
    exact (hi ((step_emitted_le hq).trans_lt hfew) (lost_of_step hq hlost)).step hs hc hq hord hwin
      hfew hlost
  · exact ⟨Ctrlq.sound_start _ _ _,Ctrlq.coupled_start _ _ _,fun _ _ => ⟨fun _ => rfl,rfl⟩⟩

/-- Two commands with fences of two contexts, which the host answers in the other order: each fence is
signalled with the answer to its own command. -/
theorem two_commands_with_own_answer : ∃ q, (Ctrlq.start false 64 1).RunsWith
    (fun q e => q.HostEchoes e ∧ q.ContextOrder e ∧ q.AnswerInWindow e)
    [.queue ⟨1,0,false,24,false,none⟩ (some ⟨1,0,0,0,false,none⟩) .willing,
      .queue ⟨2,0,false,24,false,none⟩ (some ⟨7,0,1,0,true,none⟩) .willing,
      .use 1 ⟨1,2,0⟩,.use 0 ⟨1,1,0⟩,.reclaim,.respond,.respond,.release,.release] q ∧
    signalled q.fences.out = [⟨7,2,1,2,true,none⟩,⟨1,1,0,1,false,none⟩] ∧ q.InStep := by
  have h := Ctrlq.RunsWith.of_isSome (q := Ctrlq.start false 64 1)
    (C := fun q e => q.HostEchoes e ∧ q.ContextOrder e ∧ q.AnswerInWindow e)
    ([.queue ⟨1,0,false,24,false,none⟩ (some ⟨1,0,0,0,false,none⟩) .willing,
      .queue ⟨2,0,false,24,false,none⟩ (some ⟨7,0,1,0,true,none⟩) .willing,
      .use 1 ⟨1,2,0⟩,.use 0 ⟨1,1,0⟩,.reclaim,.respond,.respond,.release,.release]) (by decide)
  exact ⟨_,h,rfl,fences_with_own_answer h (by decide) rfl⟩

end Contexts

section Fifo
variable {q q' : Ctrlq} {e : CtrlqEvent}

/-- The work item has at most a ring full of buffers, and the ring holds no more. -/
structure Ctrlq.Short (q : Ctrlq) : Prop where
  held : ∀ e ∈ q.used.map Prod.fst ++ q.available, 1 ≤ e.descs
  reclaimed : q.reclaimed.length ≤ q.size

lemma Ctrlq.Short.ring_le (h : q.Short) (hl : q.Ledger) :
    (q.used.map Prod.fst ++ q.available).length ≤ q.size := by
  have hsum := List.length_le_sum_of_one_le
    ((q.used.map Prod.fst ++ q.available).map RingEntry.descs) (by
      intro n hn
      obtain ⟨e,he,rfl⟩ := List.mem_map.mp hn
      exact h.held e he)
  have hroom := hl.room
  rw [List.length_map] at hsum
  omega

lemma Ctrlq.Short.inFlight_le (h : q.Short) (hl : q.Ledger) : q.inFlight.length ≤ 2*q.size := by
  have hring := h.ring_le hl
  have hrec := h.reclaimed
  rw [Ctrlq.inFlight,List.length_append,List.length_map]
  omega

lemma Ctrlq.Short.step (h : q.Short) (hl : q.Ledger) (hq : q.step e = some q') : q'.Short := by
  cases e with
  | queue v fence tries =>
    cases queue_cases hq with
    | noTable | unplugged | warned => exact ⟨h.held,h.reclaimed⟩
    | added =>
      refine ⟨?_,h.reclaimed⟩
      intro e he
      rw [← List.append_assoc] at he
      rcases List.mem_append.mp he with he | he
      · exact h.held e he
      · rw [List.mem_singleton.mp he]
        exact takes_pos
  | use i resp =>
    obtain ⟨r,hr,rfl⟩ := use_cases hq
    refine ⟨?_,h.reclaimed⟩
    intro e he
    apply h.held e
    simp only [List.map_append,List.map_cons,List.map_nil,List.append_assoc,
      List.singleton_append] at he
    exact ((perm_eraseIdx hr).symm.append_left _).mem_iff.mp he
  | reclaim =>
    have hring := h.ring_le hl
    obtain ⟨_,_,rfl⟩ := reclaim_cases hq
    refine ⟨fun e he => h.held e (List.mem_append_right _ he),?_⟩
    rw [List.length_append,List.length_map] at hring
    exact (Nat.le_add_right _ _).trans hring
  | respond =>
    obtain ⟨_,_,rest,hrec,rfl⟩ := respond_cases hq
    refine ⟨h.held,?_⟩
    have hle := h.reclaimed
    rw [hrec,List.length_cons] at hle
    exact (Nat.le_succ _).trans hle
  | release =>
    obtain ⟨_,_,_,_,rfl⟩ := release_cases hq
    exact ⟨h.held,h.reclaimed⟩

/-- The pending fences are those of the commands in flight, in order, and the fences before them are
signalled, in order. -/
structure Ctrlq.Fifo (q : Ctrlq) : Prop where
  pending : q.fences.drv.fences = q.inFlight.filterMap RingEntry.fence
  own : signalled q.fences.out = (q.released ++ q.answered).filterMap RingEntry.fence
  split : q.fences.emitted = signalled q.fences.out ++ q.fences.drv.fences

lemma Ctrlq.Fifo.step (h : q.Fifo) (hs : q.Sound) (hc : q.Coupled) (hl : q.Ledger) (hshort : q.Short)
    (hsize : q.size ≤ 2^30) (hq : q.step e = some q') (hord : Ctrlq.RingOrder e)
    (hfew : q'.fences.emitted.length < 2^64) (hlost : q'.lost = []) : q'.Fifo := by
  cases e with
  | queue v fence tries =>
    cases queue_cases hq with
    | noTable | warned => cases hlost
    | unplugged => exact ⟨h.pending,h.own,h.split⟩
    | added =>
      have hin : q.reclaimed.map Prod.fst ++ (q.used.map Prod.fst ++
          (q.available ++ [q.entry v fence tries])) = q.inFlight ++ [q.entry v fence tries] := by
        simp only [Ctrlq.inFlight,List.append_assoc]
      cases fence with
      | none =>
        refine ⟨?_,h.own,h.split⟩
        rw [Ctrlq.inFlight,hin,List.filterMap_append,← h.pending]
        exact (List.append_nil _).symm
      | some f =>
        refine ⟨?_,h.own,?_⟩
        · rw [Ctrlq.inFlight,hin,List.filterMap_append,← h.pending]
          rfl
        · rw [Ctrlq.emit,FenceTrace.call,h.split,List.append_assoc]
          rfl
  | use i resp =>
    obtain rfl : i = 0 := hord
    obtain ⟨r,hr,rfl⟩ := use_cases hq
    refine ⟨h.pending.trans ?_,h.own,h.split⟩
    cases ha : q.available with
    | nil => simp [ha] at hr
    | cons r' rest =>
      rw [ha] at hr
      obtain rfl : r' = r := Option.some.inj hr
      simp [Ctrlq.inFlight,ha]
  | reclaim =>
    have hin := inFlight_reclaim hq
    obtain ⟨_,_,rfl⟩ := reclaim_cases hq
    exact ⟨by rw [hin]; exact h.pending,h.own,h.split⟩
  | respond =>
    have hnum := hs.numbered ((step_emitted_le hq).trans_lt hfew)
    obtain ⟨r,resp,rest,hrec,rfl⟩ := respond_cases hq
    have hpend := h.pending
    rw [inFlight_cons hrec] at hpend
    rcases hc.head hrec with ⟨hnot,hr⟩ | ⟨hfenced,f,hr,hid⟩
    · rw [if_neg hnot]
      refine ⟨?_,h.own.trans ?_,h.split⟩
      · rw [hpend,List.filterMap_cons_none hr]
        rfl
      · rw [filterMap_respond,hr]
        exact (List.append_nil _).symm
    · rw [List.filterMap_cons_some hr] at hpend
      have hlen : q.fences.drv.fences.length ≤ 2^31 := by
        have hflight := hshort.inFlight_le hl
        have hle := List.length_filterMap_le RingEntry.fence q.inFlight
        rw [← h.pending] at hle
        omega
      have hpair := hs.listed.pairwise hnum
      have hold : q.fences.drv.fences.filter (fun g => g.context = f.context) =
          f::fencesOf f.context (rest.map Prod.fst ++ (q.used.map Prod.fst ++ q.available)) := by
        rw [hpend,List.filter_cons_of_pos (by simp)]
        rfl
      have hone := hs.listed.answer_oldest hnum (hnum.inWindow h.split hpend hlen) hold
      have hrest : q.fences.drv.fences.filter (fun g => g.fenceId ≠ f.fenceId) =
          (rest.map Prod.fst ++ (q.used.map Prod.fst ++ q.available)).filterMap RingEntry.fence := by
        rw [hpend] at hpair ⊢
        rw [List.filter_cons_of_neg (by simp)]
        exact List.filter_eq_self.mpr fun g hg => by
          simpa using ((List.pairwise_cons.mp hpair).1 g hg).ne'
      rw [if_pos hfenced,hid,FenceTrace.call,hone]
      refine ⟨hrest,?_,?_⟩
      · rw [signalled_append,signalled_retire,h.own,filterMap_respond,hr]
        rfl
      · rw [signalled_append,signalled_retire,hrest,h.split,hpend,List.append_assoc]
        rfl
  | release =>
    obtain ⟨r,rest,_,hans,rfl⟩ := release_cases hq
    refine ⟨h.pending,h.own.trans ?_,h.split⟩
    rw [hans,List.append_assoc,List.singleton_append]

lemma step_size (hq : q.step e = some q') : q'.size = q.size := by
  cases e with
  | queue v fence tries => cases queue_cases hq <;> rfl
  | use i resp => obtain ⟨_,_,rfl⟩ := use_cases hq; rfl
  | reclaim => obtain ⟨_,_,rfl⟩ := reclaim_cases hq; rfl
  | respond => obtain ⟨_,_,_,_,rfl⟩ := respond_cases hq; rfl
  | release => obtain ⟨_,_,_,_,rfl⟩ := release_cases hq; rfl

/-- A host that echoes and keeps the order of the ring signals the fences in the order of emission, each
with the answer to its own command: at most two rings full of fences are pending, too few for the 32 bits
of the comparison to go wrong. -/
theorem fences_in_ring_order {hasIndirect : Bool} {size context : ℕ} (hsize : size ≤ 2^30)
    {es : List CtrlqEvent}
    (h : (Ctrlq.start hasIndirect size context).RunsWith
      (fun q e => q.HostEchoes e ∧ Ctrlq.RingOrder e) es q)
    (hfew : q.fences.emitted.length < 2^64) (hlost : q.lost = []) : q.Fifo := by
  have hinv := h.invariant (I := fun q => q.Sound ∧ q.Coupled ∧ q.Ledger ∧ q.Short ∧ q.size ≤ 2^30 ∧
      (q.fences.emitted.length < 2^64 → q.lost = [] → q.Fifo)) ?_ ?_
  · exact hinv.2.2.2.2.2 hfew hlost
  · rintro q e q' ⟨hs,hc,hl,hsh,hsz,hi⟩ ⟨hq,hecho,hord⟩
    refine ⟨hs.step hq,hc.step hq hecho,hl.step hq,hsh.step hl hq,(step_size hq).symm ▸ hsz,
      fun hfew hlost => ?_⟩
    exact (hi ((step_emitted_le hq).trans_lt hfew) (lost_of_step hq hlost)).step hs hc hl hsh hsz hq
      hord hfew hlost
  · refine ⟨Ctrlq.sound_start _ _ _,Ctrlq.coupled_start _ _ _,Ctrlq.ledger_start _ _ _,⟨?_,?_⟩,hsize,
      fun _ _ => ⟨rfl,rfl,rfl⟩⟩
    · intro e he
      cases he
    · exact Nat.zero_le _

/-- Two commands with fences of one context, answered in the order of the ring. -/
theorem two_commands_in_ring_order : ∃ q, (Ctrlq.start false 64 1).RunsWith
    (fun q e => q.HostEchoes e ∧ Ctrlq.RingOrder e)
    [.queue ⟨1,0,false,24,false,none⟩ (some ⟨1,0,0,0,false,none⟩) .willing,
      .queue ⟨2,0,false,24,false,none⟩ (some ⟨1,0,0,0,false,none⟩) .willing,
      .use 0 ⟨1,1,0⟩,.use 0 ⟨1,2,0⟩,.reclaim,.respond,.respond,.release,.release] q ∧
    signalled q.fences.out = [⟨1,1,0,1,false,none⟩,⟨1,2,0,2,false,none⟩] ∧ q.Fifo := by
  have h := Ctrlq.RunsWith.of_isSome (q := Ctrlq.start false 64 1)
    (C := fun q e => q.HostEchoes e ∧ Ctrlq.RingOrder e)
    ([.queue ⟨1,0,false,24,false,none⟩ (some ⟨1,0,0,0,false,none⟩) .willing,
      .queue ⟨2,0,false,24,false,none⟩ (some ⟨1,0,0,0,false,none⟩) .willing,
      .use 0 ⟨1,1,0⟩,.use 0 ⟨1,2,0⟩,.reclaim,.respond,.respond,.release,.release]) (by decide)
  exact ⟨_,h,rfl,fences_in_ring_order (by decide) h (by decide) rfl⟩

end Fifo
end GuestAdditions

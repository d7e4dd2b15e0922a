import GuestAdditions.Ctrlq.Queue

/-! When the commands of the control queue are done their fences are signalled. The host answers a command
with the fence of its header; beyond that it may be free, keep the order of each context, or keep the order
of the ring. -/
namespace GuestAdditions
open Keyed

/-- The answer has the fence of the command, and none if the command has none. -/
def Echoes (cmd resp : CtrlHdr) : Prop :=
  (resp.Fenced ↔ cmd.Fenced) ∧ (cmd.Fenced → resp.fenceId = cmd.fenceId)

instance (cmd resp : CtrlHdr) : Decidable (Echoes cmd resp) := inferInstanceAs (Decidable (_ ∧ _))

/-- The header of the entry names its fence. -/
def RingEntry.Carries (e : RingEntry) : Prop :=
  (e.hdr.Fenced ↔ e.fence.isSome) ∧ ∀ f ∈ e.fence, e.hdr.fenceId = f.fenceId

namespace Ctrlq

/-- The host echoes the fence of the command. -/
def HostEchoes (q : Ctrlq) : CtrlqEvent → Prop
  | .use i resp => ∀ e ∈ q.available[i]?, Echoes e.hdr resp
  | _ => True

/-- The host does the commands with a fence in one context in the order of the ring. -/
def ContextOrder (q : Ctrlq) : CtrlqEvent → Prop
  | .use i _ => ∀ e ∈ q.available[i]?, ∀ f ∈ e.fence, ∀ e' ∈ q.available.take i, ∀ f' ∈ e'.fence,
      f'.context ≠ f.context
  | _ => True

/-- The host does all commands in the order of the ring. -/
def RingOrder : CtrlqEvent → Prop
  | .use i _ => i = 0
  | _ => True

/-- The answer to be processed finds the fences of its context within half the range of a word. -/
def AnswerInWindow (q : Ctrlq) : CtrlqEvent → Prop
  | .respond => ∀ u ∈ q.reclaimed.head?, q.fences.drv.InWindow (.answer u.2.fenceId)
  | _ => True

instance (q : Ctrlq) (e : CtrlqEvent) : Decidable (q.HostEchoes e) :=
  match e with
  | .use _ _ => inferInstanceAs (Decidable (∀ e ∈ _, _))
  | .queue _ _ _ | .reclaim | .respond | .release => inferInstanceAs (Decidable True)

instance (q : Ctrlq) (e : CtrlqEvent) : Decidable (q.ContextOrder e) :=
  match e with
  | .use _ _ => inferInstanceAs (Decidable (∀ e ∈ _, ∀ f ∈ _, ∀ e' ∈ _, ∀ f' ∈ _, _))
  | .queue _ _ _ | .reclaim | .respond | .release => inferInstanceAs (Decidable True)

instance (e : CtrlqEvent) : Decidable (RingOrder e) :=
  match e with
  | .use _ _ => inferInstanceAs (Decidable (_ = _))
  | .queue _ _ _ | .reclaim | .respond | .release => inferInstanceAs (Decidable True)

instance (q : Ctrlq) (e : CtrlqEvent) : Decidable (q.AnswerInWindow e) :=
  match e with
  | .respond => inferInstanceAs (Decidable (∀ u ∈ _, FenceDrv.InWindow _ _))
  | .queue _ _ _ | .use _ _ | .reclaim | .release => inferInstanceAs (Decidable True)

/-- The events are possible, and each is as the condition says. -/
abbrev RunsWith (C : Ctrlq → CtrlqEvent → Prop) (q : Ctrlq) (es : List CtrlqEvent) (q' : Ctrlq) : Prop :=
  Transition.Run (fun q e q' => q.step e = some q' ∧ C q e) q es q'

/-- A step that the condition allows. -/
def stepWith (C : Ctrlq → CtrlqEvent → Prop) [∀ q e, Decidable (C q e)] (q : Ctrlq) (e : CtrlqEvent) :
    Option Ctrlq := if C q e then q.step e else none

lemma RunsWith.of_isSome {C : Ctrlq → CtrlqEvent → Prop} [∀ q e, Decidable (C q e)] {q : Ctrlq}
    (es : List CtrlqEvent) (h : (es.foldlM (stepWith C) q).isSome = true) :
    q.RunsWith C es ((es.foldlM (stepWith C) q).get h) := by
  refine (Transition.Run.of_isSome es h).mono fun q e q' hs => ?_
  unfold stepWith at hs
  split_ifs at hs with hc
  exact ⟨hs,hc⟩

end Ctrlq

section Sound
variable {q q' : Ctrlq} {v : Vbuf} {fence : Option Fence} {tries : QueueTries} {e : CtrlqEvent}

lemma entry_carries : (q.entry v fence tries).Carries := by
  cases fence with
  | none => simp [Ctrlq.entry,RingEntry.Carries,CtrlHdr.Fenced]
  | some f =>
    cases hi : f.emitFenceInfo <;>
      simp [Ctrlq.entry,RingEntry.Carries,CtrlHdr.Fenced,FenceDrv.emitHdr,FenceDrv.numbered,hi]

/-- A step is at most one call about the fences. -/
theorem step_fences (hq : q.step e = some q') :
    q'.fences = q.fences ∨ ∃ c, q'.fences = q.fences.call c := by
  cases e with
  | queue v fence tries =>
    cases queue_cases hq with
    | noTable | unplugged => exact .inl rfl
    | warned | added =>
      cases fence with
      | none => exact .inl rfl
      | some f => exact .inr ⟨.emit f,rfl⟩
  | use i resp =>
    obtain ⟨_,_,rfl⟩ := use_cases hq
    exact .inl rfl
  | reclaim =>
    obtain ⟨_,_,rfl⟩ := reclaim_cases hq
    exact .inl rfl
  | respond =>
    obtain ⟨_,resp,_,_,rfl⟩ := respond_cases hq
    by_cases hf : resp.Fenced
    · exact .inr ⟨.answer resp.fenceId,if_pos hf⟩
    · exact .inl (if_neg hf)
  | release =>
    obtain ⟨_,_,_,_,rfl⟩ := release_cases hq
    exact .inl rfl

/-- A property of the fences that every call keeps is kept by every step. -/
theorem step_keeps_fences {I : FenceTrace → Prop} (hcall : ∀ t c, I t → I (t.call c))
    (hq : q.step e = some q') (h : I q.fences) : I q'.fences := by
  rcases step_fences hq with hf | ⟨c,hf⟩
  · rw [hf]
    exact h
  · rw [hf]
    exact hcall _ c h

/-- The fences are numbered while the counter has not wrapped, listed and conserved. -/
structure Ctrlq.Sound (q : Ctrlq) : Prop where
  numbered : q.fences.emitted.length < 2^64 → q.fences.Numbered
  listed : q.fences.Listed
  conserved : q.fences.Conserved

lemma Ctrlq.Sound.step (h : q.Sound) (hq : q.step e = some q') : q'.Sound := by
  refine ⟨?_,step_keeps_fences (fun _ c ht => ht.call c) hq h.listed,
    step_keeps_fences (fun _ c ht => ht.call c) hq h.conserved⟩
  refine step_keeps_fences (I := fun t => t.emitted.length < 2^64 → t.Numbered) ?_ hq h.numbered
  intro t c ht hfew
  exact (ht ((t.emitted_length_call c).trans_lt hfew)).call hfew

lemma Ctrlq.sound_start (hasIndirect : Bool) (size context : ℕ) :
    (start hasIndirect size context).Sound :=
  ⟨fun _ => FenceTrace.numbered_start context,List.Sublist.refl _,⟨.refl _,rfl,rfl⟩⟩

lemma step_emitted_le (hq : q.step e = some q') :
    q.fences.emitted.length ≤ q'.fences.emitted.length := by
  rcases step_fences hq with hf | ⟨c,hf⟩
  · rw [hf]
  · rw [hf]
    exact q.fences.emitted_length_call c

/-- A loss is for good. -/
theorem lost_of_step (hq : q.step e = some q') (h : q'.lost = []) : q.lost = [] := by
  cases e with
  | queue v fence tries =>
    cases queue_cases hq with
    | noTable | warned => cases h
    | unplugged | added => exact h
  | use i resp =>
    obtain ⟨_,_,rfl⟩ := use_cases hq
    exact h
  | reclaim =>
    obtain ⟨_,_,rfl⟩ := reclaim_cases hq
    exact h
  | respond =>
    obtain ⟨_,_,_,_,rfl⟩ := respond_cases hq
    exact h
  | release =>
    obtain ⟨_,_,_,_,rfl⟩ := release_cases hq
    exact h

end Sound

section Echo
variable {q q' : Ctrlq} {v : Vbuf} {fence : Option Fence} {tries : QueueTries} {e : CtrlqEvent}
  {r : RingEntry} {resp : CtrlHdr} {rest : List (RingEntry × CtrlHdr)}

lemma inFlight_use {i : ℕ} (hq : q.use i resp = some q') : q'.inFlight.Perm q.inFlight := by
  obtain ⟨e,he,rfl⟩ := use_cases hq
  simp only [Ctrlq.inFlight,List.map_append,List.map_cons,List.map_nil,List.append_assoc]
  exact ((perm_eraseIdx he).symm.append_left _).append_left _

lemma inFlight_reclaim (hq : q.reclaim = some q') : q'.inFlight = q.inFlight := by
  obtain ⟨hrec,_,rfl⟩ := reclaim_cases hq
  simp [Ctrlq.inFlight,hrec]

lemma inFlight_cons (hrec : q.reclaimed = (r,resp)::rest) :
    q.inFlight = r::(rest.map Prod.fst ++ (q.used.map Prod.fst ++ q.available)) := by
  rw [Ctrlq.inFlight,hrec]
  rfl

/-- The headers name the fences, and the answers the headers. -/
structure Ctrlq.Coupled (q : Ctrlq) : Prop where
  carries : ∀ e ∈ q.inFlight, e.Carries
  echoes : ∀ u ∈ q.reclaimed ++ q.used, Echoes u.1.hdr u.2

lemma Ctrlq.Coupled.step (h : q.Coupled) (hq : q.step e = some q') (hc : q.HostEchoes e) :
    q'.Coupled := by
  cases e with
  | queue v fence tries =>
    cases queue_cases hq with
    | noTable | unplugged | warned => exact ⟨h.carries,h.echoes⟩
    | added =>
      refine ⟨?_,h.echoes⟩
      intro e he
      rw [Ctrlq.inFlight,← List.append_assoc,← List.append_assoc,List.append_assoc (q.reclaimed.map _)] at he
      rcases List.mem_append.mp he with he | he
      · exact h.carries e he
      · rw [List.mem_singleton.mp he]
        exact entry_carries
  | use i resp =>
    refine ⟨fun e he => h.carries e ((inFlight_use hq).mem_iff.mp he),?_⟩
    obtain ⟨e,he,rfl⟩ := use_cases hq
    intro u hu
    rw [← List.append_assoc] at hu
    rcases List.mem_append.mp hu with hu | hu
    · exact h.echoes u hu
    · rw [List.mem_singleton.mp hu]
      exact hc e he
  | reclaim =>
    refine ⟨fun e he => h.carries e (inFlight_reclaim hq ▸ he),?_⟩
    obtain ⟨hrec,_,rfl⟩ := reclaim_cases hq
    intro u hu
    rw [List.append_nil] at hu
    exact h.echoes u (List.mem_append_right _ hu)
  | respond =>
    obtain ⟨r,resp,rest,hrec,rfl⟩ := respond_cases hq
    refine ⟨fun e he => h.carries e ?_,fun u hu => h.echoes u ?_⟩
    · rw [inFlight_cons hrec]
      exact .tail _ he
    · rw [hrec]
      exact .tail _ hu
  | release =>
    obtain ⟨_,_,_,_,rfl⟩ := release_cases hq
    exact ⟨h.carries,h.echoes⟩

lemma Ctrlq.coupled_start (hasIndirect : Bool) (size context : ℕ) :
    (start hasIndirect size context).Coupled := by
  constructor <;> simp [start,inFlight]

/-- The answer at the head of the list has the number of the fence of its command, if that has one. -/
theorem Ctrlq.Coupled.head (h : q.Coupled) (hrec : q.reclaimed = (r,resp)::rest) :
    (¬ resp.Fenced ∧ r.fence = none) ∨
      (resp.Fenced ∧ ∃ f, r.fence = some f ∧ resp.fenceId = f.fenceId) := by
  have hcar := h.carries r (by rw [inFlight_cons hrec]; exact .head _)
  have hecho := h.echoes (r,resp) (by rw [hrec]; exact .head _)
  cases hf : r.fence with
  | none =>
    have hnot : ¬ r.hdr.Fenced := by
      rw [hcar.1,hf]
      simp
    exact .inl ⟨fun hr => hnot (hecho.1.mp hr),rfl⟩
  | some f =>
    have hfenced : r.hdr.Fenced := by
      rw [hcar.1,hf]
      rfl
    exact .inr ⟨hecho.1.mpr hfenced,f,rfl,(hecho.2 hfenced).trans (hcar.2 f hf)⟩

/-- Each pending fence has its command in flight. -/
def Ctrlq.Backed (q : Ctrlq) : Prop := ∀ f ∈ q.fences.drv.fences, ∃ e ∈ q.inFlight, e.fence = some f

lemma Ctrlq.Backed.step (h : q.Backed) (hs : q.Sound) (hc : q.Coupled) (hq : q.step e = some q')
    (hfew : q'.fences.emitted.length < 2^64) (hlost : q'.lost = []) : q'.Backed := by
  cases e with
  | queue v fence tries =>
    cases queue_cases hq with
    | noTable | warned => cases hlost
    | unplugged => exact h
    | added =>
      intro f hf
      have hin : ∀ e, e ∈ q.inFlight ∨ e = q.entry v fence tries →
          e ∈ q.reclaimed.map Prod.fst ++ (q.used.map Prod.fst ++ (q.available ++ [q.entry v fence tries])) := by
        intro e he
        rw [← List.append_assoc,← List.append_assoc,List.append_assoc (q.reclaimed.map _)]
        exact List.mem_append.mpr (he.imp_right List.mem_singleton.mpr)
      have hold : f ∈ q.fences.drv.fences → ∃ e ∈ q.reclaimed.map Prod.fst ++ (q.used.map Prod.fst ++
          (q.available ++ [q.entry v fence tries])), e.fence = some f := by
        intro hf
        obtain ⟨e,he,hfe⟩ := h f hf
        exact ⟨e,hin e (.inl he),hfe⟩
      cases fence with
      | none => exact hold hf
      | some g =>
        rcases List.mem_append.mp hf with hf | hf
        · exact hold hf
        · refine ⟨_,hin _ (.inr rfl),?_⟩
          rw [List.mem_singleton.mp hf]
          rfl
  | use i resp =>
    intro f hf
    have hfences : q'.fences = q.fences := by
      obtain ⟨_,_,rfl⟩ := use_cases hq
      rfl
    obtain ⟨e,he,hfe⟩ := h f (hfences ▸ hf)
    exact ⟨e,(inFlight_use hq).mem_iff.mpr he,hfe⟩
  | reclaim =>
    intro f hf
    have hfences : q'.fences = q.fences := by
      obtain ⟨_,_,rfl⟩ := reclaim_cases hq
      rfl
    obtain ⟨e,he,hfe⟩ := h f (hfences ▸ hf)
    exact ⟨e,(inFlight_reclaim hq).symm ▸ he,hfe⟩
  | respond =>
    have hnum := hs.numbered ((step_emitted_le hq).trans_lt hfew)
    obtain ⟨r,resp,rest,hrec,rfl⟩ := respond_cases hq
    intro f hf
    rcases hc.head hrec with ⟨hnot,hr⟩ | ⟨hfenced,g,hr,hid⟩
    · rw [if_neg hnot] at hf
      obtain ⟨e,he,hfe⟩ := h f hf
      rw [inFlight_cons hrec] at he
      cases he with
      | head => rw [hr] at hfe; cases hfe
      | tail _ he => exact ⟨e,he,hfe⟩
    · rw [if_pos hfenced] at hf
      have hne := hs.listed.fenceId_ne hnum hf
      obtain ⟨e,he,hfe⟩ := h f ((fenceEventProcess_sublist _ _).subset hf)
      rw [inFlight_cons hrec] at he
      cases he with
      | head =>
        rw [hr] at hfe
        exact absurd (congrArg Fence.fenceId (Option.some.inj hfe).symm) (hid ▸ hne)
      | tail _ he => exact ⟨e,he,hfe⟩
  | release =>
    obtain ⟨_,_,_,_,rfl⟩ := release_cases hq
    exact h

/-- Whatever the order of the host, once nothing is in flight every fence is signalled. -/
theorem drained_signals_all {hasIndirect : Bool} {size context : ℕ} {es : List CtrlqEvent}
    (h : (Ctrlq.start hasIndirect size context).RunsWith Ctrlq.HostEchoes es q)
    (hfew : q.fences.emitted.length < 2^64) (hlost : q.lost = []) (hdrained : q.inFlight = []) :
    q.fences.drv.fences = [] ∧ (signalled q.fences.out).Perm q.fences.emitted := by
  have hinv := h.invariant (I := fun q => q.Sound ∧ q.Coupled ∧
      (q.fences.emitted.length < 2^64 → q.lost = [] → q.Backed)) ?_ ?_
  · have hnone : q.fences.drv.fences = [] := by
      apply List.eq_nil_iff_forall_not_mem.mpr
      intro f hf
      obtain ⟨e,he,_⟩ := hinv.2.2 hfew hlost f hf
      rw [hdrained] at he
      cases he
    have hperm := hinv.1.conserved.perm
    rw [hnone,List.append_nil] at hperm
    exact ⟨hnone,hperm⟩
  · rintro q e q' ⟨hs,hc,hb⟩ ⟨hq,he⟩
    refine ⟨hs.step hq,hc.step hq he,fun hfew hlost => ?_⟩
    exact (hb ((step_emitted_le hq).trans_lt hfew) (lost_of_step hq hlost)).step hs hc hq hfew hlost
  · refine ⟨Ctrlq.sound_start _ _ _,Ctrlq.coupled_start _ _ _,fun _ _ f hf => ?_⟩
    simp [Ctrlq.start,FenceTrace.start] at hf

end Echo

/-- Two commands with fences of one context, which the host answers in the other order: both fences are
signalled. -/
theorem two_commands_drained : ∃ q, (Ctrlq.start false 64 1).RunsWith Ctrlq.HostEchoes
    [.queue ⟨1,0,false,24,false,none⟩ (some ⟨1,0,0,0,false,none⟩) .willing,
      .queue ⟨2,0,false,24,false,none⟩ (some ⟨1,0,0,0,false,none⟩) .willing,
      .use 1 ⟨1,2,0⟩,.use 0 ⟨1,1,0⟩,.reclaim,.respond,.respond,.release,.release] q ∧
    q.fences.emitted.length = 2 ∧ (signalled q.fences.out).Perm q.fences.emitted := by
  have h := Ctrlq.RunsWith.of_isSome (C := Ctrlq.HostEchoes) (q := Ctrlq.start false 64 1)
    ([.queue ⟨1,0,false,24,false,none⟩ (some ⟨1,0,0,0,false,none⟩) .willing,
      .queue ⟨2,0,false,24,false,none⟩ (some ⟨1,0,0,0,false,none⟩) .willing,
      .use 1 ⟨1,2,0⟩,.use 0 ⟨1,1,0⟩,.reclaim,.respond,.respond,.release,.release]) (by decide)
  exact ⟨_,h,rfl,(drained_signals_all h (by decide) rfl rfl).2⟩

end GuestAdditions

import GuestAdditions.Ctrlq.Fence

/-! What the list of fences is for: each context is a timeline, and an answer moves its mark. The driver
compares 32 bits of the sequence numbers, so that it keeps to the timelines as long as an answer finds the
pending fences of its context within `2^31` numbers. -/
namespace GuestAdditions
open Keyed

/-- The fences emitted, and for each context the last number answered. -/
structure Timeline where
  emitted : List Fence
  mark : ℕ → ℕ

namespace Timeline

def start : Timeline := ⟨[],fun _ => 0⟩

/-- The fences whose context has not come to them. -/
def pending (l : Timeline) : List Fence :=
  Watermark.pending Fence.context Fence.fenceId l.mark l.emitted

/-- The fences of a context that are done, in the order of emission. -/
def done (l : Timeline) (context : ℕ) : List Fence :=
  (Watermark.finished Fence.context Fence.fenceId l.mark l.emitted).filter fun f => f.context = context

/-- An answer counts if it names a pending fence: all up to that fence in its context are done. -/
def call (l : Timeline) : FenceCall → Timeline
  | .emit fence =>
    let number := l.emitted.length+1
    { l with emitted := l.emitted ++ [{ fence with seqno := number, fenceId := number }] }
  | .answer fenceId =>
    match firstAt Fence.fenceId fenceId l.pending with
    | none => l
    | some f => { l with mark := Watermark.raise l.mark f.context fenceId }

def calls (l : Timeline) (cs : List FenceCall) : Timeline := cs.foldl call l

end Timeline

/-- Every answer of a run finds the fences of its context within half the range of a word. -/
def FenceTrace.Windowed : FenceTrace → List FenceCall → Prop
  | _, [] => True
  | t, c::cs => t.drv.InWindow c ∧ (t.call c).Windowed cs

/-- The driver and the timelines agree. -/
structure FenceTrace.Refines (t : FenceTrace) (l : Timeline) : Prop where
  emitted : t.emitted = l.emitted
  fences : t.drv.fences = l.pending
  done : ∀ c, (signalled t.out).filter (fun f => f.context = c) = l.done c
  mark : ∀ c, l.mark c ≤ l.emitted.length

namespace FenceTrace
variable {t : FenceTrace} {l : Timeline}

lemma Refines.listed (h : t.Refines l) : t.Listed := by
  rw [Listed,h.fences,h.emitted]
  exact List.filter_sublist

/-- A new fence goes behind the pending ones. -/
theorem Refines.emit (h : t.Refines l) (hn : t.Numbered) {fence : Fence}
    (hfew : (t.call (.emit fence)).emitted.length < 2^64) : (t.call (.emit fence)).Refines (l.call (.emit fence)) := by
  have hnum : t.drv.numbered fence =
      { fence with seqno := l.emitted.length+1, fenceId := l.emitted.length+1 } := by
    rw [FenceDrv.numbered,nextFenceId_eq hn hfew,h.emitted]
  have hfresh : l.mark fence.context < l.emitted.length+1 := Nat.lt_succ_of_le (h.mark _)
  refine ⟨?_,?_,?_,?_⟩
  · rw [FenceTrace.call,hnum,h.emitted]
    rfl
  · rw [FenceTrace.call,FenceDrv.fenceEmit,hnum,h.fences]
    exact (Watermark.pending_append_fresh hfresh).symm
  · intro c
    rw [FenceTrace.call,h.done c,Timeline.done,Timeline.done,Timeline.call,
      Watermark.finished_append_fresh hfresh]
  · intro c
    rw [Timeline.call,List.length_append]
    exact (h.mark c).trans (Nat.le_add_right _ _)

/-- An answer does to the list what a raised mark does to the timelines. -/
theorem Refines.answer (h : t.Refines l) (hn : t.Numbered) {id : ℕ}
    (hwin : t.drv.InWindow (.answer id)) :
    (t.call (.answer id)).Refines (l.call (.answer id)) := by
  cases hs : firstAt Fence.fenceId id t.drv.fences with
  | none =>
    have hl : l.call (.answer id) = l := by rw [Timeline.call,← h.fences,hs]
    rw [hl,FenceTrace.call,fenceEventProcess_none hs,List.append_nil]
    exact ⟨h.emitted,h.fences,h.done,h.mark⟩
  | some s =>
    have hl : l.call (.answer id) = { l with mark := Watermark.raise l.mark s.context id } := by
      rw [Timeline.call,← h.fences,hs]
    have hsid := (mem_of_firstAt hs).2
    have hpair := h.listed.pairwise hn
    have hsmem := (mem_of_firstAt hs).1
    have hgone : t.drv.fences.filter (fun f => s.GoesWith f) ++ [s] =
        t.drv.fences.filter fun f => f.context = s.context ∧ f.fenceId ≤ id := by
      have hgoes : t.drv.fences.filter (fun f => s.GoesWith f) =
          t.drv.fences.filter fun f => f.context = s.context && decide (f.fenceId < s.fenceId) := by
        apply List.filter_congr
        intro f hf
        rw [← Bool.decide_and]
        exact decide_eq_decide.mpr (h.listed.goesWith_iff hn hwin hs hf)
      rw [hgoes,← Watermark.filter_le_of_mem (p := fun f => decide (f.context = s.context)) hpair hsmem
        (by simp),hsid]
      exact List.filter_congr fun f _ => (Bool.decide_and _ _).symm
    have hstay : eraseAt Fence.fenceId id (t.drv.fences.filter fun f => ¬ s.GoesWith f) =
        t.drv.fences.filter fun f => ¬ (f.context = s.context ∧ f.fenceId ≤ id) := by
      rw [eraseAt_eq_filter (nodup_of_pairwise (hpair.filter _)),List.filter_filter]
      apply List.filter_congr
      intro f hf
      rw [← Bool.decide_and]
      apply decide_eq_decide.mpr
      rw [h.listed.goesWith_iff hn hwin hs hf,hsid]
      refine ⟨fun hk hle => hk.2 ⟨hle.1,lt_of_le_of_ne hle.2 hk.1⟩,fun hk => ⟨fun he => ?_,?_⟩⟩
      · have hfs : f = s := eq_of_fenceId hpair hf hsmem (he.trans hsid.symm)
        exact hk ⟨congrArg Fence.context hfs,he.le⟩
      · exact fun hlt => hk ⟨hlt.1,hlt.2.le⟩
    rw [hl,FenceTrace.call,fenceEventProcess_some hs]
    refine ⟨h.emitted,?_,?_,?_⟩
    · rw [hstay,h.fences]
      exact Watermark.pending_raise.symm
    · intro c
      rw [signalled_append,signalled_append,signalled_flatMap,signalled_retire,hgone,List.filter_append,
        h.done c,h.fences]
      exact (Watermark.finished_raise (h.emitted ▸ hn.pairwise)).symm
    · intro c
      have hid : id ≤ l.emitted.length := by
        rw [← hsid,← h.emitted]
        exact hn.id_le (h.listed.subset hsmem)
      exact Watermark.raise_le (h.mark c) hid

/-- One call, on either level. -/
theorem Refines.call (h : t.Refines l) (hn : t.Numbered) {c : FenceCall}
    (hfew : (t.call c).emitted.length < 2^64) (hwin : t.drv.InWindow c) :
    (t.call c).Refines (l.call c) := by
  cases c with
  | emit fence => exact h.emit hn hfew
  | answer id => exact h.answer hn hwin

lemma Refines.calls (h : t.Refines l) (hn : t.Numbered) {cs : List FenceCall}
    (hfew : (t.calls cs).emitted.length < 2^64) (hwin : t.Windowed cs) :
    (t.calls cs).Refines (l.calls cs) := by
  induction cs generalizing t l with
  | nil => exact h
  | cons c cs ih =>
    have hone := (emitted_length_calls (t.call c) cs).trans_lt hfew
    exact ih (h.call hn hone hwin.1) (hn.call hone) hfew hwin.2

lemma refines_start (context : ℕ) : (start context).Refines Timeline.start :=
  ⟨rfl,rfl,fun _ => rfl,fun _ => le_rfl⟩

/-- As long as each answer finds the fences of its context within half the range of a 32-bit word, the
list is what is pending on the timelines, and the fences of each context are signalled in the order of
their emission, up to the last number answered. -/
theorem timelines_kept (context : ℕ) (cs : List FenceCall)
    (hfew : ((start context).calls cs).emitted.length < 2^64) (hwin : (start context).Windowed cs) :
    ((start context).calls cs).drv.fences = (Timeline.start.calls cs).pending ∧
      ∀ c, (signalled ((start context).calls cs).out).filter (fun f => f.context = c) =
        (Timeline.start.calls cs).done c := by
  have h := (refines_start context).calls (numbered_start context) hfew hwin
  exact ⟨h.fences,h.done⟩

/-- Exactly which fences go with an answer, in any state: of its context, the ones before it by less than
`2^31` numbers modulo `2^32`, and the ones behind it by more. -/
theorem answer_signals_iff (context : ℕ) (cs : List FenceCall) {id : ℕ} {s f : Fence}
    (hs : firstAt Fence.fenceId id ((start context).calls cs).drv.fences = some s)
    (hf : f ∈ ((start context).calls cs).drv.fences) :
    f ∈ signalled (((start context).calls cs).drv.fenceEventProcess id).2 ↔
      f = s ∨ f.context = s.context ∧
        ((f.fenceId < s.fenceId ∧ 0 < (s.fenceId-f.fenceId) % 2^32 ∧
            (s.fenceId-f.fenceId) % 2^32 < 2^31) ∨
          (s.fenceId < f.fenceId ∧ 2^31 < (f.fenceId-s.fenceId) % 2^32)) := by
  have hlisted : ((start context).calls cs).Listed :=
    calls_invariant (fun _ c h => h.call c) (List.Sublist.refl _) cs
  have hseq := calls_seqno context cs f (hlisted.subset hf)
  have hseqs := calls_seqno context cs s (hlisted.subset (mem_of_firstAt hs).1)
  have hmem : f ∈ signalled (((start context).calls cs).drv.fenceEventProcess id).2 ↔
      f = s ∨ s.GoesWith f := by
    rw [fenceEventProcess_some hs,signalled_append,signalled_flatMap,signalled_retire,
      List.mem_append,List.mem_singleton,List.mem_filter,or_comm]
    simp [hf]
  have hlater : dmaFenceIsLater s.fenceId f.fenceId = true ↔
      (f.fenceId < s.fenceId ∧ 0 < (s.fenceId-f.fenceId) % 2^32 ∧
          (s.fenceId-f.fenceId) % 2^32 < 2^31) ∨
        (s.fenceId < f.fenceId ∧ 2^31 < (f.fenceId-s.fenceId) % 2^32) := by
    rcases Nat.lt_trichotomy f.fenceId s.fenceId with hlt | heq | hgt
    · rw [isLater_of_le hlt.le]
      omega
    · rw [heq,isLater_self]
      simp
    · rw [isLater_of_ge hgt.le]
      omega
  rw [hmem,Fence.GoesWith,hseq,hseqs,hlater,eq_comm (a := s.context)]

/-- The answer for the second of two fences signals the first. -/
theorem first_goes_with_second : (⟨1,1,0,1,false,none⟩ : Fence) ∈ signalled
    (((start 1).calls [.emit ⟨1,0,0,0,false,none⟩,.emit ⟨1,0,0,0,false,none⟩]).drv.fenceEventProcess 2).2 := by
  have hs : firstAt Fence.fenceId 2
      ((start 1).calls [.emit ⟨1,0,0,0,false,none⟩,.emit ⟨1,0,0,0,false,none⟩]).drv.fences =
      some ⟨1,2,0,2,false,none⟩ := rfl
  exact (answer_signals_iff 1 _ hs List.mem_cons_self).mpr (.inr ⟨rfl,.inl (by decide)⟩)

/-- An answer for the second of two fences finds both in the window. -/
theorem two_fences_kept :
    ((start 1).calls [.emit ⟨1,0,0,0,false,none⟩,.emit ⟨1,0,0,0,false,none⟩,.answer 2]).drv.fences =
      (Timeline.start.calls [.emit ⟨1,0,0,0,false,none⟩,.emit ⟨1,0,0,0,false,none⟩,.answer 2]).pending := by
  have hl : ∀ g ∈ [(⟨1,1,0,1,false,none⟩ : Fence),⟨1,2,0,2,false,none⟩], g.seqno = 1 ∨ g.seqno = 2 := by
    decide
  have hwin : (start 1).Windowed
      [.emit ⟨1,0,0,0,false,none⟩,.emit ⟨1,0,0,0,false,none⟩,.answer 2] := by
    refine ⟨trivial,trivial,?_,trivial⟩
    intro s hs f hf _
    have hf' := hl f hf
    have hs' := hl s (mem_of_firstAt hs).1
    omega
  exact (timelines_kept 1 _ (by decide) hwin).1

end FenceTrace
end GuestAdditions

import GuestAdditions.Kernel.DmaFence
import GuestAdditions.Library.Keyed
import GuestAdditions.Library.Watermark

/-! The fences of the control queue. Each command that has one puts it on the list of the driver under the
next number, and an answer of the host that names the number signals it, with what is older in its context. -/
namespace GuestAdditions
open Keyed

abbrev VIRTIO_GPU_FLAG_FENCE : ℕ := 1
abbrev VIRTIO_GPU_FLAG_INFO_RING_IDX : ℕ := 2

/-- `struct virtio_gpu_fence`, with the context and the sequence number of its `struct dma_fence`, and the
event that the file of a waiter is to get. -/
structure Fence where
  context : ℕ
  seqno : ℕ
  ringIdx : ℕ
  fenceId : ℕ
  emitFenceInfo : Bool
  e : Option ℕ
  deriving DecidableEq

/-- The fields of `struct virtio_gpu_ctrl_hdr` that a fence sets. -/
structure CtrlHdr where
  flags : ℕ
  fenceId : ℕ
  ringIdx : ℕ
  deriving DecidableEq

/-- The header has a fence. -/
def CtrlHdr.Fenced (h : CtrlHdr) : Prop := h.flags &&& VIRTIO_GPU_FLAG_FENCE ≠ 0

instance (h : CtrlHdr) : Decidable h.Fenced := inferInstanceAs (Decidable (_ ≠ _))

/-- `struct virtio_gpu_fence_driver`. -/
structure FenceDrv where
  lastFenceId : ℕ
  currentFenceId : ℕ
  context : ℕ
  fences : List Fence

/-- What the driver does to a fence that it signals: `dma_fence_signal_locked`, `drm_send_event` and
`dma_fence_put`. -/
inductive FenceOut
  | signal (f : Fence)
  | sendEvent (e : ℕ)
  | put (f : Fence)
  deriving DecidableEq

namespace FenceDrv

/-- `virtio_gpu_fence_alloc`, with the memory at hand. -/
def fenceAlloc (drv : FenceDrv) (baseFenceCtx ringIdx : ℕ) : Fence :=
  ⟨wrap64 (baseFenceCtx+ringIdx),0,ringIdx,0,!(baseFenceCtx == drv.context),none⟩

/-- The number that the next fence gets. -/
def nextFenceId (drv : FenceDrv) : ℕ := wrap64 (drv.currentFenceId+1)

/-- The fence as it goes on the list. -/
def numbered (drv : FenceDrv) (fence : Fence) : Fence :=
  { fence with seqno := drv.nextFenceId, fenceId := drv.nextFenceId }

/-- `virtio_gpu_fence_emit`: the driver's side. -/
def fenceEmit (drv : FenceDrv) (fence : Fence) : FenceDrv :=
  { drv with currentFenceId := drv.nextFenceId, fences := drv.fences ++ [drv.numbered fence] }

/-- `virtio_gpu_fence_emit`: the header of the command. -/
def emitHdr (drv : FenceDrv) (fence : Fence) (hdr : CtrlHdr) : CtrlHdr :=
  let hdr := { hdr with flags := hdr.flags ||| VIRTIO_GPU_FLAG_FENCE, fenceId := drv.nextFenceId }
  if fence.emitFenceInfo then
    { hdr with flags := hdr.flags ||| VIRTIO_GPU_FLAG_INFO_RING_IDX, ringIdx := fence.ringIdx % 256 }
  else hdr

end FenceDrv

/-- A fence is signalled, its event sent and its reference dropped. -/
def Fence.retire (f : Fence) : List FenceOut :=
  .signal f::(f.e.toList.map FenceOut.sendEvent ++ [.put f])

/-- The fences that go with `signaled`. -/
def Fence.GoesWith (signaled curr : Fence) : Prop :=
  signaled.context = curr.context ∧ dmaFenceIsLater signaled.seqno curr.seqno = true

instance (signaled curr : Fence) : Decidable (signaled.GoesWith curr) :=
  inferInstanceAs (Decidable (_ ∧ _))

/-- The inner loop of `virtio_gpu_fence_event_process`: the fences that stay, and what happens to the
others. -/
def signalOlder (signaled : Fence) : List Fence → List Fence × List FenceOut
  | [] => ([],[])
  | curr::rest =>
    let r := signalOlder signaled rest
    if signaled.context ≠ curr.context then (curr::r.1,r.2)
    else if dmaFenceIsLater signaled.seqno curr.seqno = false then (curr::r.1,r.2)
    else (r.1,curr.retire ++ r.2)

/-- `virtio_gpu_fence_event_process`. The outer loop stops at the first fence with the number. -/
def FenceDrv.fenceEventProcess (drv : FenceDrv) (fenceId : ℕ) : FenceDrv × List FenceOut :=
  let drv := { drv with lastFenceId := fenceId }
  match firstAt Fence.fenceId fenceId drv.fences with
  | none => (drv,[])
  | some signaled =>
    let r := signalOlder signaled drv.fences
    ({ drv with fences := eraseAt Fence.fenceId fenceId r.1 },r.2 ++ signaled.retire)

/-- What happens to the list of fences: a command with a fence goes on the queue, or the host answers with
a number, of its own choice. -/
inductive FenceCall
  | emit (fence : Fence)
  | answer (fenceId : ℕ)

/-- An answer finds the fences of its context within half the range of a 32-bit word. -/
def FenceDrv.InWindow (drv : FenceDrv) : FenceCall → Prop
  | .emit _ => True
  | .answer fenceId => ∀ s ∈ firstAt Fence.fenceId fenceId drv.fences, ∀ f ∈ drv.fences,
      f.context = s.context → f.seqno < s.seqno+2^31 ∧ s.seqno < f.seqno+2^31

instance (drv : FenceDrv) (c : FenceCall) : Decidable (drv.InWindow c) :=
  match c with
  | .emit _ => inferInstanceAs (Decidable True)
  | .answer _ => inferInstanceAs (Decidable (∀ s ∈ _, ∀ f ∈ _, _ → _ ∧ _))

/-- The driver, the fences that it has emitted and what it has done to them, both in order. -/
structure FenceTrace where
  drv : FenceDrv
  emitted : List Fence
  out : List FenceOut

namespace FenceTrace

/-- `virtio_gpu_init`, with the context that it took. -/
def start (context : ℕ) : FenceTrace := ⟨⟨0,0,context,[]⟩,[],[]⟩

def call (t : FenceTrace) : FenceCall → FenceTrace
  | .emit fence => { t with drv := t.drv.fenceEmit fence, emitted := t.emitted ++ [t.drv.numbered fence] }
  | .answer fenceId =>
    let r := t.drv.fenceEventProcess fenceId
    { t with drv := r.1, out := t.out ++ r.2 }

def calls (t : FenceTrace) (cs : List FenceCall) : FenceTrace := cs.foldl call t

end FenceTrace

/-- The fences signalled, in order. -/
def signalled (out : List FenceOut) : List Fence :=
  out.filterMap fun | .signal f => some f | _ => none

/-- The references dropped, in order. -/
def dropped (out : List FenceOut) : List Fence :=
  out.filterMap fun | .put f => some f | _ => none

/-- The events sent, in order. -/
def eventsSent (out : List FenceOut) : List ℕ :=
  out.filterMap fun | .sendEvent e => some e | _ => none

section Answer
variable {drv : FenceDrv} {signaled : Fence} {id : ℕ} {l : List Fence} {out out' : List FenceOut}

@[simp] lemma signalled_append :
    signalled (out ++ out') = signalled out ++ signalled out' := List.filterMap_append

@[simp] lemma signalled_retire (f : Fence) : signalled f.retire = [f] := by
  cases he : f.e <;> simp [signalled,Fence.retire,he]

/-- Every fence signalled has its reference dropped and its event sent, and no other does. -/
def Settles (out : List FenceOut) : Prop :=
  dropped out = signalled out ∧ eventsSent out = (signalled out).filterMap Fence.e

lemma Settles.append (h : Settles out) (h' : Settles out') : Settles (out ++ out') := by
  refine ⟨?_,?_⟩
  · rw [dropped,List.filterMap_append,signalled_append]
    exact congrArg₂ _ h.1 h'.1
  · rw [eventsSent,List.filterMap_append,signalled_append,List.filterMap_append]
    exact congrArg₂ _ h.2 h'.2

lemma settles_retire (f : Fence) : Settles f.retire := by
  cases he : f.e <;> simp [Settles,dropped,signalled,eventsSent,Fence.retire,he]

lemma settles_flatMap (l : List Fence) : Settles (l.flatMap Fence.retire) := by
  induction l with
  | nil => exact ⟨rfl,rfl⟩
  | cons f l ih => exact (settles_retire f).append ih

lemma signalled_flatMap (l : List Fence) : signalled (l.flatMap Fence.retire) = l := by
  induction l with
  | nil => rfl
  | cons f l ih => rw [List.flatMap_cons,signalled_append,signalled_retire,ih,List.singleton_append]

/-- The loop takes what goes with the fence off the list and retires it, in the order of the list. -/
theorem signalOlder_eq : signalOlder signaled l =
    (l.filter fun f => ¬ signaled.GoesWith f,
      (l.filter fun f => signaled.GoesWith f).flatMap Fence.retire) := by
  induction l with
  | nil => rfl
  | cons curr rest ih =>
    by_cases hc : signaled.context = curr.context
    · cases hl : dmaFenceIsLater signaled.seqno curr.seqno <;>
        simp [signalOlder,ih,Fence.GoesWith,hc,hl]
    · simp [signalOlder,ih,Fence.GoesWith,hc]

lemma goesWith_irrefl (f : Fence) : ¬ f.GoesWith f := fun h => by
  rw [Fence.GoesWith,isLater_self] at h
  exact Bool.false_ne_true h.2

/-- A number that no fence has changes nothing but the last number. -/
theorem fenceEventProcess_none (h : firstAt Fence.fenceId id drv.fences = none) :
    drv.fenceEventProcess id = ({ drv with lastFenceId := id },[]) := by
  simp only [FenceDrv.fenceEventProcess,h]

/-- What an answer for a pending fence does. -/
theorem fenceEventProcess_some (h : firstAt Fence.fenceId id drv.fences = some signaled) :
    drv.fenceEventProcess id =
      ({ drv with
          lastFenceId := id
          fences := eraseAt Fence.fenceId id (drv.fences.filter fun f => ¬ signaled.GoesWith f) },
        (drv.fences.filter fun f => signaled.GoesWith f).flatMap Fence.retire ++ signaled.retire) := by
  simp only [FenceDrv.fenceEventProcess,h,signalOlder_eq]

/-- The first fence with a number is still the first one behind the loop. -/
theorem firstAt_filter_goesWith (h : firstAt Fence.fenceId id l = some signaled) :
    firstAt Fence.fenceId id (l.filter fun f => ¬ signaled.GoesWith f) = some signaled := by
  induction l with
  | nil => simp at h
  | cons f l ih =>
    by_cases hf : f.fenceId = id
    · rw [firstAt_cons_self hf] at h
      obtain rfl := Option.some.inj h
      rw [List.filter_cons_of_pos (by simpa using goesWith_irrefl f),firstAt_cons_self hf]
    · rw [firstAt_cons_ne hf] at h
      by_cases hg : signaled.GoesWith f
      · rw [List.filter_cons_of_neg (by simpa using hg)]
        exact ih h
      · rw [List.filter_cons_of_pos (by simpa using hg),firstAt_cons_ne hf]
        exact ih h

/-- An answer moves fences from the list to the signalled ones. -/
theorem fenceEventProcess_perm (drv : FenceDrv) (id : ℕ) :
    (signalled (drv.fenceEventProcess id).2 ++ (drv.fenceEventProcess id).1.fences).Perm drv.fences := by
  cases h : firstAt Fence.fenceId id drv.fences with
  | none => rw [fenceEventProcess_none h]; exact .refl _
  | some signaled =>
    have hperm := perm_eraseAt (firstAt_filter_goesWith h)
    rw [fenceEventProcess_some h,signalled_append,signalled_flatMap,signalled_retire,List.append_assoc,
      List.singleton_append]
    refine (hperm.symm.append_left _).trans ?_
    have hnot : (fun f => decide (¬ signaled.GoesWith f)) = fun f => !decide (signaled.GoesWith f) := by
      funext f
      exact decide_not
    rw [hnot]
    exact List.filter_append_perm _ _

lemma fenceEventProcess_sublist (drv : FenceDrv) (id : ℕ) :
    (drv.fenceEventProcess id).1.fences.Sublist drv.fences := by
  cases h : firstAt Fence.fenceId id drv.fences with
  | none => rw [fenceEventProcess_none h]
  | some signaled =>
    rw [fenceEventProcess_some h]
    exact (List.eraseP_sublist).trans List.filter_sublist

lemma fenceEventProcess_settles (drv : FenceDrv) (id : ℕ) :
    Settles (drv.fenceEventProcess id).2 := by
  cases h : firstAt Fence.fenceId id drv.fences with
  | none => rw [fenceEventProcess_none h]; exact ⟨rfl,rfl⟩
  | some signaled =>
    rw [fenceEventProcess_some h]
    exact (settles_flatMap _).append (settles_retire _)

/-- All fences that an answer signals are of one context. -/
theorem context_of_answer {f : Fence} (hf : f ∈ signalled (drv.fenceEventProcess id).2) :
    ∀ s ∈ firstAt Fence.fenceId id drv.fences, f.context = s.context := by
  intro s hs
  rw [fenceEventProcess_some hs,signalled_append,signalled_flatMap,signalled_retire] at hf
  rcases List.mem_append.mp hf with hf | hf
  · have hg : s.GoesWith f := of_decide_eq_true (List.mem_filter.mp hf).2
    exact hg.1.symm
  · rw [List.mem_singleton.mp hf]

end Answer

namespace FenceTrace

/-- What every call keeps holds after any calls. -/
theorem calls_invariant {I : FenceTrace → Prop} (hcall : ∀ t c, I t → I (t.call c)) {t : FenceTrace}
    (ht : I t) (cs : List FenceCall) : I (t.calls cs) := by
  induction cs generalizing t with
  | nil => exact ht
  | cons c cs ih => exact ih (hcall t c ht)

/-- The fences emitted are those signalled and those on the list. -/
structure Conserved (t : FenceTrace) : Prop where
  perm : (signalled t.out ++ t.drv.fences).Perm t.emitted
  settles : Settles t.out

lemma Conserved.call {t : FenceTrace} (h : t.Conserved) (c : FenceCall) : (t.call c).Conserved := by
  cases c with
  | emit fence =>
    refine ⟨?_,h.settles⟩
    rw [FenceTrace.call,FenceDrv.fenceEmit,← List.append_assoc]
    exact h.perm.append_right _
  | answer id =>
    refine ⟨?_,h.settles.append (fenceEventProcess_settles _ _)⟩
    rw [FenceTrace.call,signalled_append,List.append_assoc]
    exact ((fenceEventProcess_perm _ _).append_left _).trans h.perm

lemma calls_conserved (context : ℕ) (cs : List FenceCall) : ((start context).calls cs).Conserved :=
  calls_invariant (fun _ c h => h.call c) ⟨.refl _,rfl,rfl⟩ cs

lemma emitted_length_call (t : FenceTrace) (c : FenceCall) :
    t.emitted.length ≤ (t.call c).emitted.length := by
  cases c <;> simp [FenceTrace.call]

lemma emitted_length_calls (t : FenceTrace) (cs : List FenceCall) :
    t.emitted.length ≤ (t.calls cs).emitted.length :=
  calls_invariant (I := fun t' => t.emitted.length ≤ t'.emitted.length)
    (fun t' c h => h.trans (emitted_length_call t' c)) le_rfl cs

/-- The fences are numbered from 1 on in the order of emission. -/
structure Numbered (t : FenceTrace) : Prop where
  current : t.drv.currentFenceId = t.emitted.length
  ids : t.emitted.map Fence.fenceId = List.range' 1 t.emitted.length
  seqno : ∀ f ∈ t.emitted, f.seqno = f.fenceId

lemma nextFenceId_eq {t : FenceTrace} (h : t.Numbered) {fence : Fence}
    (hfew : (t.call (.emit fence)).emitted.length < 2^64) :
    t.drv.nextFenceId = t.emitted.length+1 := by
  rw [FenceTrace.call,List.length_append,List.length_singleton] at hfew
  rw [FenceDrv.nextFenceId,h.current,wrap64_of_lt hfew]

lemma Numbered.call {t : FenceTrace} (h : t.Numbered) {c : FenceCall}
    (hfew : (t.call c).emitted.length < 2^64) : (t.call c).Numbered := by
  cases c with
  | answer id =>
    have hcur : (t.drv.fenceEventProcess id).1.currentFenceId = t.drv.currentFenceId := by
      cases hf : firstAt Fence.fenceId id t.drv.fences with
      | none => rw [fenceEventProcess_none hf]
      | some signaled => rw [fenceEventProcess_some hf]
    exact ⟨hcur.trans h.current,h.ids,h.seqno⟩
  | emit fence =>
    have hnext := nextFenceId_eq h hfew
    refine ⟨?_,?_,?_⟩
    · rw [FenceTrace.call,FenceDrv.fenceEmit,List.length_append]
      exact hnext
    · rw [FenceTrace.call,List.map_append,h.ids,List.length_append,List.length_singleton,
        List.range'_concat]
      simp [FenceDrv.numbered,hnext,Nat.add_comm]
    · intro f hf
      rcases List.mem_append.mp hf with hf | hf
      · exact h.seqno f hf
      · rw [List.mem_singleton.mp hf]
        rfl

lemma numbered_start (context : ℕ) : (start context).Numbered := by
  refine ⟨rfl,rfl,?_⟩
  intro f hf
  simp [start] at hf

lemma calls_numbered (context : ℕ) {cs : List FenceCall}
    (hfew : ((start context).calls cs).emitted.length < 2^64) : ((start context).calls cs).Numbered := by
  refine calls_invariant (I := fun t => t.emitted.length < 2^64 → t.Numbered) ?_ ?_ cs hfew
  · intro t c ht hfew
    exact (ht ((emitted_length_call t c).trans_lt hfew)).call hfew
  · exact fun _ => numbered_start context

/-- The number of a fence is its sequence number, also once the counter has wrapped. -/
theorem calls_seqno (context : ℕ) (cs : List FenceCall) :
    ∀ f ∈ ((start context).calls cs).emitted, f.seqno = f.fenceId := by
  refine calls_invariant (I := fun t => ∀ f ∈ t.emitted, f.seqno = f.fenceId) ?_ ?_ cs
  · intro t c ht f hf
    cases c with
    | answer id => exact ht f hf
    | emit fence =>
      rcases List.mem_append.mp hf with hf | hf
      · exact ht f hf
      · rw [List.mem_singleton.mp hf]
        rfl
  · intro f hf
    simp [start] at hf

lemma Numbered.nodup {t : FenceTrace} (h : t.Numbered) : (t.emitted.map Fence.fenceId).Nodup := by
  rw [h.ids]
  exact List.nodup_range'

lemma Numbered.pairwise {t : FenceTrace} (h : t.Numbered) :
    t.emitted.Pairwise fun f g => f.fenceId < g.fenceId := by
  rw [← List.pairwise_map,h.ids]
  exact List.pairwise_lt_range'

lemma Numbered.id_le {t : FenceTrace} (h : t.Numbered) {f : Fence} (hf : f ∈ t.emitted) :
    f.fenceId ≤ t.emitted.length := by
  have hmem := List.mem_map_of_mem (f := Fence.fenceId) hf
  rw [h.ids,List.mem_range'_1] at hmem
  omega

lemma nodup_of_pairwise {l : List Fence} (h : l.Pairwise fun f g => f.fenceId < g.fenceId) :
    (l.map Fence.fenceId).Nodup :=
  List.nodup_iff_pairwise_ne.mpr (List.pairwise_map.mpr (h.imp ne_of_lt))

lemma eq_of_fenceId {l : List Fence} (h : l.Pairwise fun f g => f.fenceId < g.fenceId) {f g : Fence}
    (hf : f ∈ l) (hg : g ∈ l) (he : f.fenceId = g.fenceId) : f = g :=
  List.inj_on_of_nodup_map (nodup_of_pairwise h) hf hg he

/-- The list has fences that were emitted, in the order of emission. -/
def Listed (t : FenceTrace) : Prop := t.drv.fences.Sublist t.emitted

lemma Listed.call {t : FenceTrace} (h : t.Listed) (c : FenceCall) : (t.call c).Listed := by
  cases c with
  | emit fence => exact h.append (List.Sublist.refl _)
  | answer id => exact (fenceEventProcess_sublist _ _).trans h

lemma Listed.pairwise {t : FenceTrace} (h : t.Listed) (hn : t.Numbered) :
    t.drv.fences.Pairwise fun f g => f.fenceId < g.fenceId := hn.pairwise.sublist h

/-- An answer leaves no fence with its number. -/
theorem Listed.fenceId_ne {t : FenceTrace} (h : t.Listed) (hn : t.Numbered) {f : Fence} {id : ℕ}
    (hf : f ∈ (t.drv.fenceEventProcess id).1.fences) : f.fenceId ≠ id := by
  cases hs : firstAt Fence.fenceId id t.drv.fences with
  | none =>
    rw [fenceEventProcess_none hs] at hf
    exact firstAt_eq_none.mp hs f hf
  | some s =>
    rw [fenceEventProcess_some hs,eraseAt_eq_filter (nodup_of_pairwise ((h.pairwise hn).filter _))] at hf
    simpa using (List.mem_filter.mp hf).2

/-- Within the window, what goes with a fence is what is before it in its context. -/
theorem Listed.goesWith_iff {t : FenceTrace} (h : t.Listed) (hn : t.Numbered) {s f : Fence} {id : ℕ}
    (hwin : t.drv.InWindow (.answer id)) (hs : firstAt Fence.fenceId id t.drv.fences = some s)
    (hf : f ∈ t.drv.fences) :
    s.GoesWith f ↔ f.context = s.context ∧ f.fenceId < s.fenceId := by
  have hseq := hn.seqno f (h.subset hf)
  have hseqs := hn.seqno s (h.subset (mem_of_firstAt hs).1)
  refine ⟨fun hg => ?_,fun hg => ?_⟩
  · have hin := hwin s hs f hf hg.1.symm
    rw [hseq,hseqs] at hin
    have hlt := (isLater_iff_lt hin.2 hin.1).mp (by rw [← hseq,← hseqs]; exact hg.2)
    exact ⟨hg.1.symm,hlt⟩
  · have hin := hwin s hs f hf hg.1
    rw [hseq,hseqs] at hin
    refine ⟨hg.1.symm,?_⟩
    rw [hseq,hseqs]
    exact (isLater_iff_lt hin.2 hin.1).mpr hg.2

/-- Whatever the host answers, each fence is signalled at most once, its event goes out and its reference
is dropped with the signal, and it is on the list until then. -/
theorem fences_settled_once (context : ℕ) (cs : List FenceCall)
    (hfew : ((start context).calls cs).emitted.length < 2^64) :
    let t := (start context).calls cs
    (signalled t.out ++ t.drv.fences).Perm t.emitted ∧
      ((signalled t.out ++ t.drv.fences).map Fence.fenceId).Nodup ∧
      dropped t.out = signalled t.out ∧ eventsSent t.out = (signalled t.out).filterMap Fence.e := by
  have h := calls_conserved context cs
  refine ⟨h.perm,?_,h.settles⟩
  exact (h.perm.map _).nodup_iff.mpr (calls_numbered context hfew).nodup

/-- Two fences in one context, and an answer for the second, then for the first. -/
theorem two_fences_settled_once :
    let t := (start 1).calls [.emit ⟨1,0,0,0,false,some 7⟩,.emit ⟨1,0,0,0,false,none⟩,.answer 2,.answer 1]
    signalled t.out = [⟨1,1,0,1,false,some 7⟩,⟨1,2,0,2,false,none⟩] ∧ eventsSent t.out = [7] ∧
      ((signalled t.out ++ t.drv.fences).map Fence.fenceId).Nodup :=
  ⟨by decide,by decide,(fences_settled_once 1 _ (by decide)).2.1⟩

end FenceTrace
end GuestAdditions

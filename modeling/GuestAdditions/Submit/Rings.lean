import GuestAdditions.Ctrlq.Fence
import GuestAdditions.Gem.Context
import GuestAdditions.Library.Transition

/-! The fence contexts of the device and of the rings of each open file. The kernel hands out the numbers
of contexts to all its drivers from one counter. -/
namespace GuestAdditions

/-- Where a command with a fence is submitted: to the device, or to a ring of an open file. -/
inductive FenceRing
  | device
  | ring (file idx : ℕ)
  deriving DecidableEq

/-- The counter of `dma_fence_context_alloc`, `fence_drv.context`, and the `base_fence_ctx` and `num_rings`
of the open files; a file without rings has base 0. -/
structure FenceContexts where
  counter : ℕ
  drv : ℕ
  baseFenceCtx : ℕ → ℕ
  numRings : ℕ → ℕ

/-- A file sets `VIRTGPU_CONTEXT_PARAM_NUM_RINGS`, or another driver takes contexts. -/
inductive ContextEvent
  | numRings (file value : ℕ)
  | others (num : ℕ)

namespace FenceContexts

/-- `virtio_gpu_init`, with the counter that it finds. -/
def init (counter : ℕ) : FenceContexts :=
  let r := dmaFenceContextAlloc counter 1
  ⟨r.2,r.1,fun _ => 0,fun _ => 0⟩

/-- `VIRTGPU_CONTEXT_PARAM_NUM_RINGS` in `virtio_gpu_context_init_ioctl`. -/
def setNumRings (s : FenceContexts) (file value : ℕ) : ℤ × FenceContexts :=
  if s.baseFenceCtx file ≠ 0 then (-EINVAL,s)
  else if value > MAX_RINGS then (-EINVAL,s)
  else
    let r := dmaFenceContextAlloc s.counter value
    (0,{ s with
      counter := r.2
      baseFenceCtx := Function.update s.baseFenceCtx file r.1
      numRings := Function.update s.numRings file value })

def step (s : FenceContexts) : ContextEvent → FenceContexts
  | .numRings file value => (s.setNumRings file value).2
  | .others num => { s with counter := (dmaFenceContextAlloc s.counter num).2 }

def run (s : FenceContexts) (es : List ContextEvent) : FenceContexts := es.foldl step s

/-- `fence_ctx` and `ring_idx` in `virtio_gpu_execbuffer_ioctl`. -/
def select (s : FenceContexts) : FenceRing → Except ℤ (ℕ × ℕ)
  | .device => .ok (s.drv,0)
  | .ring file idx =>
    if idx ≥ s.numRings file then .error (-EINVAL)
    else if s.baseFenceCtx file = 0 then .error (-EINVAL)
    else .ok (s.baseFenceCtx file,idx)

/-- The fence of a command for the ring. -/
def fenceFor (s : FenceContexts) (drv : FenceDrv) (r : FenceRing) : Except ℤ Fence :=
  (s.select r).map fun sel => drv.fenceAlloc sel.1 sel.2

/-- The context of a fence is that of the ring. -/
def On (s : FenceContexts) (drv : FenceDrv) (r : FenceRing) (f : Fence) : Prop :=
  ∃ f', s.fenceFor drv r = .ok f' ∧ f.context = f'.context

/-- The device and the files have contexts of their own. -/
structure Apart (s : FenceContexts) : Prop where
  drv_pos : 0 < s.drv
  drv_lt : s.drv < s.counter
  base : ∀ i, s.baseFenceCtx i ≠ 0 → s.drv < s.baseFenceCtx i ∧
    s.baseFenceCtx i+s.numRings i ≤ s.counter ∧ s.numRings i ≤ MAX_RINGS
  apart : ∀ i j, i ≠ j → s.baseFenceCtx i ≠ 0 → s.baseFenceCtx j ≠ 0 →
    s.baseFenceCtx i+s.numRings i ≤ s.baseFenceCtx j ∨ s.baseFenceCtx j+s.numRings j ≤ s.baseFenceCtx i

lemma apart_init {counter : ℕ} (h : 0 < counter) : (init counter).Apart :=
  ⟨h,Nat.lt_succ_self _,fun _ hi => absurd rfl hi,fun _ _ _ hi => absurd rfl hi⟩

lemma Apart.setNumRings {s : FenceContexts} (h : s.Apart) (file value : ℕ) :
    (s.setNumRings file value).2.Apart := by
  unfold FenceContexts.setNumRings
  split
  · exact h
  split
  · exact h
  rename_i _ hmax
  have hdrv := h.drv_lt
  refine ⟨h.drv_pos,?_,?_,?_⟩
  · exact hdrv.trans_le (Nat.le_add_right _ _)
  · intro i hi
    by_cases hif : i = file
    · subst hif
      simp only [dmaFenceContextAlloc,Function.update_self]
      omega
    · simp only [dmaFenceContextAlloc,Function.update_of_ne hif] at hi ⊢
      have hb := h.base i hi
      omega
  · have hnew : ∀ i, i ≠ file → s.baseFenceCtx i ≠ 0 →
        s.baseFenceCtx i+s.numRings i ≤ s.counter := fun i _ hi => (h.base i hi).2.1
    intro i j hij hi hj
    by_cases hif : i = file
    · have hjf : j ≠ file := fun hjf => hij (hif.trans hjf.symm)
      simp only [dmaFenceContextAlloc,hif,Function.update_self,Function.update_of_ne hjf] at hj ⊢
      exact .inr (hnew j hjf hj)
    · by_cases hjf : j = file
      · simp only [dmaFenceContextAlloc,hjf,Function.update_self,Function.update_of_ne hif] at hi ⊢
        exact .inl (hnew i hif hi)
      · simp only [dmaFenceContextAlloc,Function.update_of_ne hif,Function.update_of_ne hjf] at hi hj ⊢
        exact h.apart i j hij hi hj

lemma Apart.step {s : FenceContexts} (h : s.Apart) (e : ContextEvent) : (s.step e).Apart := by
  cases e with
  | numRings file value => exact h.setNumRings file value
  | others num =>
    have hle : s.counter ≤ s.counter+num := Nat.le_add_right _ _
    exact ⟨h.drv_pos,h.drv_lt.trans_le hle,
      fun i hi => ⟨(h.base i hi).1,(h.base i hi).2.1.trans hle,(h.base i hi).2.2⟩,h.apart⟩

lemma Apart.run {s : FenceContexts} (h : s.Apart) (es : List ContextEvent) : (s.run es).Apart := by
  induction es generalizing s with
  | nil => exact h
  | cons e es ih => exact ih (h.step e)

section Fences
variable {s : FenceContexts} {drv : FenceDrv} {r r' : FenceRing} {f f' : Fence} {file idx : ℕ}

lemma select_error {ret : ℤ} (h : s.select r = .error ret) : ret = -EINVAL := by
  cases r with
  | device => cases h
  | ring file idx =>
    simp only [select] at h
    split_ifs at h
    · exact (Except.error.inj h).symm
    · exact (Except.error.inj h).symm

lemma fenceFor_ring (h : s.fenceFor drv (.ring file idx) = .ok f) :
    idx < s.numRings file ∧ s.baseFenceCtx file ≠ 0 ∧ f = drv.fenceAlloc (s.baseFenceCtx file) idx := by
  simp only [fenceFor,select] at h
  split at h
  · cases h
  split at h
  · cases h
  rename_i hidx hbase
  exact ⟨not_le.mp hidx,hbase,(Except.ok.inj h).symm⟩

lemma fenceFor_device (h : s.fenceFor drv .device = .ok f) : f = drv.fenceAlloc s.drv 0 :=
  (Except.ok.inj h).symm

lemma Apart.ring_context (h : s.Apart) (hfew : s.counter < 2^64)
    (hf : s.fenceFor drv (.ring file idx) = .ok f) :
    f.context = s.baseFenceCtx file+idx ∧ s.drv < f.context := by
  obtain ⟨hidx,hbase,rfl⟩ := fenceFor_ring hf
  have hb := h.base file hbase
  have hctx : (drv.fenceAlloc (s.baseFenceCtx file) idx).context = s.baseFenceCtx file+idx :=
    wrap64_of_lt (by omega)
  rw [hctx]
  exact ⟨rfl,by omega⟩

lemma Apart.device_context (h : s.Apart) (hfew : s.counter < 2^64)
    (hf : s.fenceFor drv .device = .ok f) : f.context = s.drv := by
  obtain rfl := fenceFor_device hf
  have hlt := h.drv_lt
  exact wrap64_of_lt (by omega)

/-- Two rings have two contexts. -/
theorem Apart.ring_eq (h : s.Apart) (hfew : s.counter < 2^64) (hf : s.fenceFor drv r = .ok f)
    (hf' : s.fenceFor drv r' = .ok f') (hc : f.context = f'.context) : r = r' := by
  cases r with
  | device =>
    cases r' with
    | device => rfl
    | ring file' idx' =>
      have hd := h.device_context hfew hf
      have hr := h.ring_context hfew hf'
      omega
  | ring file idx =>
    have hr := h.ring_context hfew hf
    cases r' with
    | device =>
      have hd := h.device_context hfew hf'
      omega
    | ring file' idx' =>
      have hr' := h.ring_context hfew hf'
      have hb := fenceFor_ring hf
      have hb' := fenceFor_ring hf'
      by_cases hff : file = file'
      · subst hff
        have hidx : idx = idx' := by omega
        rw [hidx]
      · have hap := h.apart file file' hff hb.2.1 hb'.2.1
        omega

end Fences

/-- The header of a command says which ring it is for. -/
def Says (hdr : CtrlHdr) : FenceRing → Prop
  | .device => hdr.flags &&& VIRTIO_GPU_FLAG_INFO_RING_IDX = 0
  | .ring _ idx => hdr.flags &&& VIRTIO_GPU_FLAG_INFO_RING_IDX ≠ 0 ∧ hdr.ringIdx = idx

lemma Apart.says {s : FenceContexts} (h : s.Apart) {drv : FenceDrv} (hdrv : drv.context = s.drv)
    {r : FenceRing} {f : Fence} (hf : s.fenceFor drv r = .ok f) : Says (drv.emitHdr f ⟨0,0,0⟩) r := by
  cases r with
  | device =>
    obtain rfl := fenceFor_device hf
    simp [Says,FenceDrv.emitHdr,FenceDrv.fenceAlloc,hdrv]
  | ring file idx =>
    obtain ⟨hidx,hbase,rfl⟩ := fenceFor_ring hf
    have hb := h.base file hbase
    have hne : s.baseFenceCtx file ≠ drv.context := by
      rw [hdrv]
      exact hb.1.ne'
    have hmod : idx % 256 = idx := Nat.mod_eq_of_lt (by have := hb.2.2; unfold MAX_RINGS at this; omega)
    simp [Says,FenceDrv.emitHdr,FenceDrv.fenceAlloc,hne,hmod]

/-- Whoever takes contexts in which order: two rings never share a context, the header of a command names
its ring, and an answer for a fence on one ring signals no fence of another. -/
theorem rings_isolated {counter : ℕ} (hpos : 0 < counter) (es : List ContextEvent)
    (hfew : ((init counter).run es).counter < 2^64) {drv : FenceDrv}
    (hdrv : drv.context = ((init counter).run es).drv) :
    (∀ r r' f f', ((init counter).run es).fenceFor drv r = .ok f →
      ((init counter).run es).fenceFor drv r' = .ok f' → (f.context = f'.context ↔ r = r')) ∧
    (∀ r f, ((init counter).run es).fenceFor drv r = .ok f → Says (drv.emitHdr f ⟨0,0,0⟩) r) ∧
    ∀ id r r', ∀ f ∈ signalled (drv.fenceEventProcess id).2,
      ∀ f' ∈ signalled (drv.fenceEventProcess id).2, ((init counter).run es).On drv r f →
        ((init counter).run es).On drv r' f' → r = r' := by
  have h := (apart_init hpos).run es
  refine ⟨fun r r' f f' hf hf' => ⟨h.ring_eq hfew hf hf',fun hr => ?_⟩,fun r f hf => h.says hdrv hf,?_⟩
  · subst hr
    exact congrArg Fence.context (Except.ok.inj (hf.symm.trans hf'))
  · rintro id r r' f hf f' hf' ⟨g,hg,hfg⟩ ⟨g',hg',hfg'⟩
    refine h.ring_eq hfew hg hg' ?_
    cases hs : Keyed.firstAt Fence.fenceId id drv.fences with
    | none =>
      rw [fenceEventProcess_none hs] at hf
      cases hf
    | some s => rw [← hfg,← hfg',context_of_answer hf s hs,context_of_answer hf' s hs]

/-- Two files with rings, and a driver that takes contexts in between. -/
theorem two_files_isolated : ∃ f f',
    ((init 1).run [.numRings 0 2,.others 3,.numRings 1 1]).fenceFor ⟨0,0,1,[]⟩ (.ring 0 1) = .ok f ∧
    ((init 1).run [.numRings 0 2,.others 3,.numRings 1 1]).fenceFor ⟨0,0,1,[]⟩ (.ring 1 0) = .ok f' ∧
    f.context ≠ f'.context := by
  have hdrv : (⟨0,0,1,[]⟩ : FenceDrv).context =
      ((init 1).run [.numRings 0 2,.others 3,.numRings 1 1]).drv := rfl
  have hiso := rings_isolated Nat.one_pos [.numRings 0 2,.others 3,.numRings 1 1] (by decide) hdrv
  refine ⟨_,_,rfl,rfl,fun hc => ?_⟩
  cases (hiso.1 (.ring 0 1) (.ring 1 0) _ _ rfl rfl).mp hc

end FenceContexts
end GuestAdditions

import GuestAdditions.GuestPool.Safety
import GuestAdditions.Library.Bytes

/-! `virtio_gpu_guest_pool_create` up to the call of `virtio_gpu_cmd_resource_create_blob`: the number
of blocks, and the memory entries that tell the host where they are. -/
namespace GuestAdditions

/-- `struct virtio_gpu_mem_entry`. -/
structure MemEntry where
  addr : UInt64
  length : UInt32
  padding : UInt32
  deriving DecidableEq, Repr

/-- The entry as it lies in the array, field by field in little-endian order. -/
def MemEntry.bytes (e : MemEntry) : List UInt8 :=
  leBytes 8 e.addr.toNat ++ leBytes 4 e.length.toNat ++ leBytes 4 e.padding.toNat

/-- The arguments of `virtio_gpu_cmd_resource_create_blob` that describe the memory: `params->size`, the
array and the number of its entries. -/
structure CreateBlob where
  size : ℕ
  ents : List UInt8
  nents : ℕ
  deriving DecidableEq

/-- How the calls that a create makes end, and what an entry of the fresh array holds. -/
structure CreatePort where
  objectAlloc : Bool
  mmapOffset : ℤ
  resourceIdGet : ℤ
  arrayAlloc : Bool
  stale : MemEntry

/-- Every call succeeds. -/
def CreatePort.willing : CreatePort := ⟨true,0,0,true,⟨0,0,0⟩⟩

/-- One entry of the loop. -/
def memEntry (base : ℕ) (block : Block) : MemEntry :=
  ⟨UInt64.ofNat (base+block.offset),UInt32.ofNat block.size,0⟩

/-- The loop that fills the array. The counter `i` has 32 bits, and a write behind the end of the array
does not change an entry of it. -/
def fillEnts (base : ℕ) : List Block → ℕ → List MemEntry → List MemEntry
  | [], _, ents => ents
  | block::blocks, i, ents =>
    fillEnts base blocks (wrap32 (i+1)) (ents.set i (memEntry base block))

/-- The check of the number of blocks against the module parameter. -/
def NentsExceeded (maxNents : ℤ) (nents : ℕ) : Prop := 0 < maxNents ∧ maxNents < nents

instance (maxNents : ℤ) (nents : ℕ) : Decidable (NentsExceeded maxNents nents) :=
  inferInstanceAs (Decidable (_ ∧ _))

section Model
variable {σ β : Type} (H : PoolHost σ) (B : DrmBuddy β)

/-- `virtio_gpu_guest_pool_create`. The module parameter can change between the allocation, which sees
`maxNents`, and the check, which sees `maxNents'`. -/
def guestPoolCreate (maxNents maxNents' : ℤ) (port : CreatePort) (size : ℕ) (g : Guest σ β) :
    ℤ × Option CreateBlob × Guest σ β :=
  let size := align size PAGE_SIZE
  let a := guestPoolAlloc H B maxNents size g
  if a.1 ≠ 0 then (-ENOMEM,none,a.2.2)
  else
    let freed := guestPoolFree H B a.2.1 a.2.2
    if port.objectAlloc = false then (-ENOMEM,none,freed)
    else if port.mmapOffset ≠ 0 then (port.mmapOffset,none,freed)
    else if port.resourceIdGet ≠ 0 then (port.resourceIdGet,none,freed)
    else
      let nents := wrap32 a.2.1.length
      if NentsExceeded maxNents' nents then (-ENOSPC,none,freed)
      else if port.arrayAlloc = false then (-ENOMEM,none,freed)
      else
        let ents := fillEnts g.pool.base a.2.1 0 (List.replicate nents port.stale)
        (0,some ⟨size,ents.flatMap MemEntry.bytes,nents⟩,a.2.2)

end Model

variable {σ β : Type} {H : PoolHost σ} {B : DrmBuddy β} {g : Guest σ β} {maxNents maxNents' : ℤ}
  {port : CreatePort} {size : ℕ}

/-- A create that succeeds has got its blocks and describes them in the array. -/
theorem guestPoolCreate_ok {c : CreateBlob} {g' : Guest σ β}
    (h : guestPoolCreate H B maxNents maxNents' port size g = (0,some c,g')) :
    (guestPoolAlloc H B maxNents (align size PAGE_SIZE) g).1 = 0 ∧
      c.size = align size PAGE_SIZE ∧
      c.nents = wrap32 (guestPoolAlloc H B maxNents (align size PAGE_SIZE) g).2.1.length ∧
      c.ents = (fillEnts g.pool.base (guestPoolAlloc H B maxNents (align size PAGE_SIZE) g).2.1 0
        (List.replicate c.nents port.stale)).flatMap MemEntry.bytes := by
  simp only [guestPoolCreate] at h
  split_ifs at h with h₁ h₂ h₃ h₄ h₅ h₆ <;>
    simp only [Prod.mk.injEq,Option.some.injEq,reduceCtorEq,false_and,and_false] at h
  obtain ⟨-,rfl,-⟩ := h
  exact ⟨not_not.mp h₁,rfl,rfl,rfl⟩

/-- When every other call succeeds, only the check answers -ENOSPC. -/
theorem guestPoolCreate_enospc
    (h : (guestPoolCreate H B maxNents maxNents' .willing size g).1 = -ENOSPC) :
    (guestPoolAlloc H B maxNents (align size PAGE_SIZE) g).1 = 0 ∧ NentsExceeded maxNents'
      (wrap32 (guestPoolAlloc H B maxNents (align size PAGE_SIZE) g).2.1.length) := by
  simp only [guestPoolCreate,CreatePort.willing,Bool.true_eq_false,ne_eq,not_true_eq_false,
    if_false] at h
  split_ifs at h with h₁ h₂
  · exact ⟨h₁,h₂⟩
  · simp at h
  · simp at h

/-- An allocation that succeeds was served by the allocator with the rounded size. -/
theorem guestPoolAlloc_served (hB : B.Sound)
    (h : (guestPoolAlloc H B maxNents size g).1 = 0) : ∃ (g' : Guest σ β) (mm' : β),
      Rises H B g g' ∧ B.allocBlocks g'.mm 0 g'.pool.backed (guestPoolRound maxNents size).1
        (guestPoolRound maxNents size).2 = (0,(guestPoolAlloc H B maxNents size g).2.1,mm') := by
  rcases guestPoolAlloc_outcome (H := H) hB maxNents size g with
    ⟨ret,g',retry,ne,-,heq⟩ | ⟨g',bs,mm',hrises,-,asked,heq⟩
  · exact absurd ((congrArg Prod.fst heq).symm.trans h) ne
  · exact ⟨g',mm',hrises,by rw [heq]; exact asked⟩

end GuestAdditions

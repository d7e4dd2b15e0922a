import GuestAdditions.GuestPool.Interface
import GuestAdditions.Kernel.Word

/-! The device-tree layout of the guest-alloc pool and `virtio_gpu_guest_pool_init`. -/
namespace GuestAdditions

/-- A child of `/reserved-memory`. `reg` is the start and size of its first resource, and the other
fields are the `droidvm,` properties it may carry. -/
structure DtNode where
  name : String
  reg : Option (UInt64 × UInt64)
  poolSize : Option UInt64
  preAllocSize : Option UInt64
  stepSize : Option UInt64
  poolId : Option UInt32

/-- The node of a pool at 4 GiB that starts with `prealloc` bytes and grows to `size` by `step`. -/
def gpuGuestNode (prealloc size step : UInt64) : DtNode where
  name := "gpu_guest@100000000"
  reg := some (0x100000000,prealloc)
  poolSize := some size
  preAllocSize := some prealloc
  stepSize := some step
  poolId := some 0

/-- The guest-pool fields of `struct virtio_gpu_device`; `reclaimArmed` says that
`guest_pool_reclaim_work` is pending. -/
structure GuestPool where
  base : ℕ
  size : ℕ
  poolId : ℕ
  prealloc : ℕ
  backed : ℕ
  step : ℕ
  ready : Bool
  reclaimArmed : Bool
  deriving DecidableEq, Repr

/-- The local variables that the device-tree loop fills. -/
structure DtLayout where
  base : ℕ
  size : ℕ
  prealloc : ℕ
  step : ℕ
  poolId : ℕ

/-- The body of the loop for a node whose resource could be read. -/
def DtNode.layout (child : DtNode) (reg : UInt64 × UInt64) : DtLayout where
  base := reg.1.toNat
  size := (child.poolSize.getD reg.2).toNat
  prealloc := (child.preAllocSize.getD reg.2).toNat
  step := (child.stepSize.getD 0).toNat
  poolId := (child.poolId.getD 0).toNat

/-- The first child named `gpu_guest…` whose resource can be read decides; without one the local
variables keep their initial zeros. -/
def dtLayout : List DtNode → DtLayout
  | [] => ⟨0,0,0,0,0⟩
  | child::rest =>
    if "gpu_guest".toList.isPrefixOf child.name.toList then
      match child.reg with
      | some reg => child.layout reg
      | none => dtLayout rest
    else dtLayout rest

/-- `virtio_gpu_guest_pool_init`. Without a node, a base or a size the pool stays off and the result
is 0. -/
def guestPoolInit {β : Type} (B : DrmBuddy β) (reservedMemory : Option (List DtNode)) :
    ℤ × Option (GuestPool × β) :=
  match reservedMemory with
  | none => (0,none)
  | some children =>
    let dt := dtLayout children
    if dt.base = 0 ∨ dt.size = 0 then (0,none)
    else
      let size := alignDown dt.size PAGE_SIZE
      if size = 0 then (0,none)
      else if size < dt.prealloc ∨ isAligned dt.prealloc PAGE_SIZE = false then (-EINVAL,none)
      else if dt.step ≠ 0 ∧ (dt.step % SZ_2M ≠ 0 ∨ isAligned size dt.step = false ∨
          isAligned dt.prealloc dt.step = false) then (-EINVAL,none)
      else if dt.step = 0 ∧ dt.prealloc ≠ size then (-EINVAL,none)
      else
        let mm := B.init size PAGE_SIZE
        if mm.1 ≠ 0 then (mm.1,none)
        else
          (0,some ({ base := dt.base, size := size, poolId := dt.poolId, prealloc := dt.prealloc,
                     backed := dt.prealloc, step := dt.step, ready := true,
                     reclaimArmed := false },mm.2))

lemma dtLayout_size_lt (children : List DtNode) : (dtLayout children).size < 2^64 := by
  induction children with
  | nil => simp [dtLayout]
  | cons child rest ih =>
    simp only [dtLayout]
    split
    · split
      · exact UInt64.toNat_lt _
      · exact ih
    · exact ih

/-- What an accepted layout says of the pool it starts. -/
structure GuestPool.Accepted (p : GuestPool) : Prop where
  size_lt : p.size < 2^64
  size_page : PAGE_SIZE ∣ p.size
  size_pos : 0 < p.size
  prealloc_le : p.prealloc ≤ p.size
  prealloc_page : PAGE_SIZE ∣ p.prealloc
  backed_eq : p.backed = p.prealloc
  step_folio : SZ_2M ∣ p.step
  fixed : p.step = 0 → p.prealloc = p.size
  ready : p.ready = true
  idle : p.reclaimArmed = false
  base_pos : 0 < p.base

/-- Every pool that `virtio_gpu_guest_pool_init` enables is an accepted one with a fresh buddy. -/
theorem guestPoolInit_accepted {β : Type} {B : DrmBuddy β} {reservedMemory : Option (List DtNode)}
    {ret : ℤ} {p : GuestPool} {mm : β} (h : guestPoolInit B reservedMemory = (ret,some (p,mm))) :
    p.Accepted ∧ B.init p.size PAGE_SIZE = (0,mm) := by
  cases reservedMemory with
  | none => simp [guestPoolInit] at h
  | some children =>
    have hlt := dtLayout_size_lt children
    simp only [guestPoolInit] at h
    split_ifs at h with h₁ h₂ h₃ h₄ h₅ h₆ <;>
      simp only [Prod.mk.injEq, Option.some.injEq, reduceCtorEq, and_false] at h
    obtain ⟨-,rfl,rfl⟩ := h
    simp only [not_or, not_and, not_not, not_lt, Bool.not_eq_false] at h₁ h₃ h₄ h₅ h₆
    refine ⟨⟨?_,dvd_alignDown_page _,Nat.pos_of_ne_zero h₂,h₃.1,(isAligned_page _).mp h₃.2,rfl,?_,h₅,
      rfl,rfl,Nat.pos_of_ne_zero h₁.1⟩,Prod.ext h₆ rfl⟩
    · exact (alignDown_le _ _).trans_lt hlt
    · by_cases h0 : (dtLayout children).step = 0
      · exact h0 ▸ dvd_zero _
      · exact Nat.dvd_of_mod_eq_zero (h₄ h0).1

end GuestAdditions

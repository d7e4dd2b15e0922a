import GuestAdditions.GuestPool.Layout

/-! The VRAM objects that the driver creates: those mapped by the host, in the host-visible window or
in its own pool, and those of the guest pool. -/
namespace GuestAdditions

abbrev VIRTIO_GPU_RESP_OK_MAP_INFO : ℕ := 0x1106
abbrev VIRTGPU_BLOB_FLAG_USE_MAPPABLE : ℕ := 0x0001
abbrev VIRTIO_GPU_MAP_CACHE_MASK : ℕ := 0x0f
abbrev VIRTIO_GPU_MAP_CACHE_CACHED : ℕ := 0x01
abbrev VIRTIO_GPU_MAP_CACHE_UNCACHED : ℕ := 0x02
abbrev VIRTIO_GPU_MAP_CACHE_WC : ℕ := 0x03
abbrev VIRTIO_GPU_MAP_INFO_POOL : ℕ := 2^31

/-- `STATE_INITIALIZING`, `STATE_OK` and `STATE_ERR`. -/
inductive MapState
  | initializing
  | ok
  | err
  deriving DecidableEq

/-- What the code about VRAM objects reads of `struct virtio_gpu_device`. A pool base of 0 says that
the pool is absent. -/
structure VramDev where
  hasHostVisible : Bool
  hasResourceAssignUuid : Bool
  hostVisibleAddr : ℕ
  gpuPoolBase : ℕ
  guestPool : GuestPool

/-- `struct virtio_gpu_object_vram` with the fields of its base that matter here. `vmaNode` is the
fake mmap offset, in pages. -/
structure Vram where
  size : ℕ
  blobFlags : ℕ
  vmaNode : UInt64
  mapState : MapState
  mapInfo : ℕ
  poolResident : Bool
  poolOffset : ℕ
  guestPoolOwned : Bool
  guestPoolBlocks : List Block
  nodeStart : ℕ
  nodeSize : ℕ
  deriving DecidableEq

/-- How the calls that a create makes end: `drm_gem_create_mmap_offset`, the resource id,
`drm_mm_insert_node_generic` and `virtio_gpu_cmd_map`. -/
structure VramPort where
  objectAlloc : Bool
  mmapOffset : ℤ × UInt64
  resourceIdGet : ℤ
  insertNode : ℕ → ℤ × ℕ
  arrayAlloc : Bool
  cmdMap : ℕ → ℤ

/-- `drm_mm` refuses a node of no size. -/
def VramPort.Sound (port : VramPort) : Prop := ∀ size, (port.insertNode size).1 = 0 → 0 < size

namespace Vram

def UseMappable (v : Vram) : Prop := v.blobFlags &&& VIRTGPU_BLOB_FLAG_USE_MAPPABLE ≠ 0

instance (v : Vram) : Decidable v.UseMappable := inferInstanceAs (Decidable (_ ≠ _))

/-- `virtio_gpu_vram_map`, with `drm_mm_remove_node` on its errors. -/
def map (dev : VramDev) (port : VramPort) (v : Vram) : ℤ × Vram :=
  if dev.hasHostVisible = false then (-EINVAL,v)
  else
    let node := port.insertNode (align v.size SZ_2M)
    if node.1 ≠ 0 then (node.1,v)
    else if port.arrayAlloc = false then (-ENOMEM,v)
    else
      let ret := port.cmdMap (wrap64 (node.2+(2^64 - dev.hostVisibleAddr)))
      if ret ≠ 0 then (ret,v)
      else (0,{ v with nodeStart := node.2, nodeSize := align v.size SZ_2M })

/-- `virtio_gpu_vram_create`. -/
def create (dev : VramDev) (port : VramPort) (size blobFlags : ℕ) : ℤ × Option Vram :=
  if port.objectAlloc = false then (-ENOMEM,none)
  else if port.mmapOffset.1 ≠ 0 then (port.mmapOffset.1,none)
  else if port.resourceIdGet ≠ 0 then (port.resourceIdGet,none)
  else
    let v : Vram :=
      { size := align size PAGE_SIZE, blobFlags := blobFlags, vmaNode := port.mmapOffset.2,
        mapState := .initializing, mapInfo := 0, poolResident := false, poolOffset := 0,
        guestPoolOwned := false, guestPoolBlocks := [], nodeStart := 0, nodeSize := 0 }
    if v.UseMappable then
      let r := v.map dev port
      if r.1 ≠ 0 then (r.1,none) else (0,some r.2)
    else (0,some v)

/-- `virtio_gpu_cmd_resource_map_cb`: `type`, `mapInfo` and `padding` are the fields of the
response. -/
def resourceMapCb (type mapInfo padding : UInt32) (v : Vram) : Vram :=
  if type.toNat = VIRTIO_GPU_RESP_OK_MAP_INFO then
    if mapInfo.toNat &&& VIRTIO_GPU_MAP_INFO_POOL ≠ 0 then
      { v with
        poolResident := true
        poolOffset := padding.toNat
        mapInfo := mapInfo.toNat &&& VIRTIO_GPU_MAP_CACHE_MASK
        mapState := .ok }
    else { v with mapInfo := mapInfo.toNat, mapState := .ok }
  else { v with mapState := .err }

/-- The object that `virtio_gpu_guest_pool_create` returns for the blocks it was given. -/
def guestPoolCreate (size blobFlags : ℕ) (vmaNode : UInt64) (blocks : List Block) : Vram :=
  { size := align size PAGE_SIZE, blobFlags := blobFlags, vmaNode := vmaNode,
    mapState := .initializing, mapInfo := VIRTIO_GPU_MAP_CACHE_CACHED, poolResident := true,
    poolOffset := 0, guestPoolOwned := true, guestPoolBlocks := blocks, nodeStart := 0,
    nodeSize := align size PAGE_SIZE }

end Vram

/-- A block list from the allocator of the pool: whole pages of the pool, none of them twice. -/
structure GuestPool.Served (p : GuestPool) (blocks : List Block) : Prop where
  offset_page : ∀ b ∈ blocks, PAGE_SIZE ∣ b.offset
  size_page : ∀ b ∈ blocks, PAGE_SIZE ∣ b.size
  within : ∀ b ∈ blocks, b.stop ≤ p.size
  separate : Separate blocks

/-- The objects of a device, with or without the host's response to their map command. -/
inductive Vram.Created (dev : VramDev) : Vram → Prop
  | unanswered {port size blobFlags v} (sound : VramPort.Sound port)
      (created : Vram.create dev port size blobFlags = (0,some v)) : Created dev v
  | answered {port size blobFlags v} (sound : VramPort.Sound port)
      (created : Vram.create dev port size blobFlags = (0,some v)) (type mapInfo padding) :
      Created dev (v.resourceMapCb type mapInfo padding)
  | guestPool {blocks} (accepted : dev.guestPool.base ≠ 0 ∧ dev.guestPool.size < 2^64)
      (served : dev.guestPool.Served blocks) (size blobFlags vmaNode) :
      Created dev (Vram.guestPoolCreate size blobFlags vmaNode blocks)

namespace Vram
variable {dev : VramDev} {v : Vram}

/-- A mappable object of the host has a node of its size, rounded up to whole folios. -/
structure HostMapped (v : Vram) : Prop where
  size_page : PAGE_SIZE ∣ v.size
  size_lt : v.size < 2^64
  nodeSize_eq : v.nodeSize = align v.size SZ_2M
  nodeSize_pos : 0 < v.nodeSize
  notOwned : v.guestPoolOwned = false

lemma map_ok {port : VramPort} {v' : Vram} (h : v.map dev port = (0,v')) :
    ∃ start, port.insertNode (align v.size SZ_2M) = (0,start) ∧
      v' = { v with nodeStart := start, nodeSize := align v.size SZ_2M } := by
  simp only [map] at h
  split_ifs at h with h₁ h₂ h₃ h₄
  · exact absurd (Prod.mk.inj h).1 (by decide)
  · exact absurd (Prod.mk.inj h).1 h₂
  · exact absurd (Prod.mk.inj h).1 (by decide)
  · exact absurd (Prod.mk.inj h).1 h₄
  · exact ⟨_,Prod.ext (not_not.mp h₂) rfl,(Prod.mk.inj h).2.symm⟩

lemma create_hostMapped {port : VramPort} {size blobFlags : ℕ} (sound : port.Sound)
    (h : Vram.create dev port size blobFlags = (0,some v)) (hflag : v.UseMappable) :
    v.HostMapped := by
  simp only [create] at h
  split_ifs at h with h₁ h₂ h₃ h₄ h₅
  · exact absurd (Prod.mk.inj h).2 (by simp)
  · exact absurd (Prod.mk.inj h).2 (by simp)
  · exact absurd (Prod.mk.inj h).2 (by simp)
  · exact absurd (Prod.mk.inj h).2 (by simp)
  · obtain ⟨start,hnode,hv⟩ := map_ok (Prod.ext (not_not.mp h₅) rfl)
    obtain rfl := (Option.some.inj (Prod.mk.inj h).2).symm.trans hv
    have hpos := sound _ (congrArg Prod.fst hnode)
    exact ⟨dvd_align_page _,align_lt _ _,rfl,hpos,rfl⟩
  · exact absurd hflag (by rwa [← Option.some.inj (Prod.mk.inj h).2])

lemma HostMapped.resourceMapCb (h : v.HostMapped) (type mapInfo padding : UInt32) :
    (v.resourceMapCb type mapInfo padding).HostMapped := by
  simp only [Vram.resourceMapCb]
  split_ifs <;> exact ⟨h.size_page,h.size_lt,h.nodeSize_eq,h.nodeSize_pos,h.notOwned⟩

@[simp] lemma resourceMapCb_useMappable (type mapInfo padding : UInt32) :
    (v.resourceMapCb type mapInfo padding).UseMappable ↔ v.UseMappable := by
  simp only [Vram.resourceMapCb, UseMappable]
  split_ifs <;> rfl

/-- A guest-pool object: its blocks are whole pages of a pool with a base. -/
structure GuestBacked (dev : VramDev) (v : Vram) : Prop where
  size_page : PAGE_SIZE ∣ v.size
  size_lt : v.size < 2^64
  nodeSize_eq : v.nodeSize = v.size
  base_ne : dev.guestPool.base ≠ 0
  pool_lt : dev.guestPool.size < 2^64
  served : dev.guestPool.Served v.guestPoolBlocks
  owned : v.guestPoolOwned = true

lemma Created.cases (h : Created dev v) (hflag : v.UseMappable) :
    v.HostMapped ∨ v.GuestBacked dev := by
  cases h with
  | unanswered sound created => exact .inl (create_hostMapped sound created hflag)
  | answered sound created type mapInfo padding =>
    exact .inl ((create_hostMapped sound created (resourceMapCb_useMappable .. |>.mp hflag)).resourceMapCb
      type mapInfo padding)
  | guestPool accepted served =>
    exact .inr ⟨dvd_align_page _,align_lt _ _,rfl,accepted.1,accepted.2,served,rfl⟩

end Vram
end GuestAdditions

import GuestAdditions.Blob.Lifecycle
import GuestAdditions.Vram.Object
import Mathlib.Logic.Function.Basic

/-! The host-visible window. A mappable blob takes a node of `host_visible_mm` at a 2 MiB boundary, the
host is asked to map the blob there, and the node goes back when the answer to RESOURCE_UNREF comes.
The host processes the control queue in order and may answer with any response type. -/
namespace GuestAdditions

/-- `host_visible_region`. -/
structure Window where
  addr : ℕ
  len : ℕ
  fits : addr+len ≤ 2^64

/-- Where an object is in its life: before `drm_mm_insert_node_generic`, between that and
`virtio_gpu_cmd_map`, in use, with its UNREF queued, and cleaned up. -/
inductive WindowPhase
  | creating
  | inserted
  | live
  | unrefQueued
  | gone
  deriving DecidableEq

/-- A `struct virtio_gpu_object_vram` of the window. While `mapPending`, the MAP_BLOB holds a reference.
The last two fields record what a MAP_BLOB was sent for and how the UNREF was answered. -/
structure WindowObject where
  size : ℕ
  phase : WindowPhase
  node : Option Extent
  mapState : MapState
  mapPending : Bool
  mapped : Option Extent
  answer : Option ℕ
  deriving DecidableEq

/-- The commands. A MAP_BLOB goes with the size that the host knows the blob to have. -/
inductive WindowCmd
  | createBlob (obj : ℕ)
  | mapBlob (obj offset size : ℕ)
  | unmapBlob (obj : ℕ)
  | resourceUnref (obj : ℕ)
  deriving DecidableEq

/-- A blob that the host has mapped into the window. -/
structure HostMapping where
  obj : ℕ
  start : ℕ
  size : ℕ
  deriving DecidableEq

/-- The objects, the commands not yet processed by the host, the responses not yet seen by the driver,
and the mappings of the host. -/
structure WindowDev where
  objects : ℕ → Option WindowObject
  ctrlq : List WindowCmd
  replies : List (WindowCmd × ℕ)
  mappings : List HostMapping

/-- What `drm_mm_insert_node_generic` may return for a size, at an alignment of 2 MiB. -/
structure WindowDev.Free (W : Window) (s : WindowDev) (size : ℕ) (e : Extent) : Prop where
  size_eq : e.size = size
  aligned : SZ_2M ∣ e.offset
  within : e.Within W.addr (W.addr+W.len)
  apart : ∀ j o f, s.objects j = some o → o.node = some f → e.Disjoint f

/-- What the host may do for a command that it answers with a type: an error to UNMAP_BLOB or
RESOURCE_UNREF may leave the mapping in place. -/
def WindowCmd.Allows (W : Window) (type : ℕ) (old new : List HostMapping) : WindowCmd → Prop
  | createBlob _ => new ⊆ old
  | mapBlob i offset size => ∀ h ∈ new, h ∈ old ∨ h = ⟨i,W.addr+offset,size⟩
  | unmapBlob i => new ⊆ old ∧ (type = VIRTIO_GPU_RESP_OK_NODATA → ∀ h ∈ new, h.obj ≠ i)
  | resourceUnref i => new ⊆ old ∧ (ConfirmsUnref type → ∀ h ∈ new, h.obj ≠ i)

namespace WindowDev

def start : WindowDev := ⟨fun _ => none,[],[],[]⟩

def put (s : WindowDev) (i : ℕ) (o : WindowObject) : WindowDev :=
  { s with objects := Function.update s.objects i (some o) }

/-- `virtio_gpu_queue_ctrl_buffer`. -/
def queueCtrlBuffer (s : WindowDev) (cmd : WindowCmd) : WindowDev :=
  { s with ctrlq := s.ctrlq ++ [cmd] }

/-- `virtio_gpu_vram_create` up to `virtio_gpu_vram_map`. -/
def vramCreate (s : WindowDev) (i size : ℕ) (mappable : Bool) : WindowDev :=
  (s.queueCtrlBuffer (.createBlob i)).put i
    ⟨align size PAGE_SIZE,if mappable then .creating else .live,none,.initializing,false,none,none⟩

def insertNode (s : WindowDev) (i : ℕ) (o : WindowObject) (e : Extent) : WindowDev :=
  s.put i { o with node := some e, phase := .inserted }

/-- `virtio_gpu_cmd_map`, after which the create has succeeded. -/
def cmdMap (W : Window) (s : WindowDev) (i : ℕ) (o : WindowObject) (e : Extent) : WindowDev :=
  (s.queueCtrlBuffer (.mapBlob i (wrap64 (e.offset+(2^64-W.addr))) o.size)).put i
    { o with phase := .live, mapPending := true, mapped := some e }

/-- `virtio_gpu_vram_free`, up to the answer to the UNREF. -/
def vramFree (s : WindowDev) (i : ℕ) (o : WindowObject) : WindowDev :=
  let s := if o.node.isSome then s.queueCtrlBuffer (.unmapBlob i) else s
  (s.queueCtrlBuffer (.resourceUnref i)).put i { o with phase := .unrefQueued }

/-- `virtio_gpu_cmd_resource_map_cb`, with the reference of the command dropped. -/
def cmdResourceMapCb (s : WindowDev) (i : ℕ) (o : WindowObject) (type : ℕ) : WindowDev :=
  s.put i { o with
    mapState := if type = VIRTIO_GPU_RESP_OK_MAP_INFO then .ok else .err
    mapPending := false }

/-- `virtio_gpu_cleanup_object`. -/
def cleanupObject (s : WindowDev) (i : ℕ) (o : WindowObject) : WindowDev :=
  s.put i { o with node := none, phase := .gone }

/-- `virtio_gpu_cmd_unref_cb` for an object that has no blocks of the guest pool. -/
def cmdUnrefCb (s : WindowDev) (i : ℕ) (o : WindowObject) (type : ℕ) : WindowDev :=
  s.cleanupObject i { o with answer := some type }

end WindowDev

inductive WindowEvent
  | create (i size : ℕ) (mappable : Bool)
  | insertNode (i : ℕ) (e : Extent)
  | insertFail (i : ℕ)
  | mapFail (i : ℕ)
  | cmdMap (i : ℕ)
  | lastPut (i : ℕ)
  | host (cmd : WindowCmd) (type : ℕ)
  | response (cmd : WindowCmd) (type : ℕ)

/-- The transitions. -/
inductive WindowStep (W : Window) : WindowDev → WindowEvent → WindowDev → Prop
  | create {s i size mappable} (fresh : s.objects i = none) :
      WindowStep W s (.create i size mappable) (s.vramCreate i size mappable)
  | insertNode {s i o e} (at_i : s.objects i = some o) (phase : o.phase = .creating)
      (free : s.Free W (align o.size SZ_2M) e) :
      WindowStep W s (.insertNode i e) (s.insertNode i o e)
  | insertFail {s i o} (at_i : s.objects i = some o) (phase : o.phase = .creating) :
      WindowStep W s (.insertFail i) (s.vramFree i o)
  | mapFail {s i o} (at_i : s.objects i = some o) (phase : o.phase = .inserted) :
      WindowStep W s (.mapFail i) (s.vramFree i { o with node := none })
  | cmdMap {s i o e} (at_i : s.objects i = some o) (phase : o.phase = .inserted)
      (node : o.node = some e) : WindowStep W s (.cmdMap i) (s.cmdMap W i o e)
  | lastPut {s i o} (at_i : s.objects i = some o) (phase : o.phase = .live)
      (released : o.mapPending = false) : WindowStep W s (.lastPut i) (s.vramFree i o)
  | host {s cmd rest type mappings} (head : s.ctrlq = cmd::rest)
      (allows : cmd.Allows W type s.mappings mappings) :
      WindowStep W s (.host cmd type) { s with
        ctrlq := rest
        replies := s.replies ++ [(cmd,type)]
        mappings := mappings }
  | responseMap {s i offset size o type before after} (at_i : s.objects i = some o)
      (seen : s.replies = before ++ (.mapBlob i offset size,type)::after) :
      WindowStep W s (.response (.mapBlob i offset size) type)
        (({ s with replies := before ++ after } : WindowDev).cmdResourceMapCb i o type)
  | responseUnref {s i o type before after} (at_i : s.objects i = some o)
      (seen : s.replies = before ++ (.resourceUnref i,type)::after) :
      WindowStep W s (.response (.resourceUnref i) type)
        (({ s with replies := before ++ after } : WindowDev).cmdUnrefCb i o type)
  | responseOther {s cmd type before after} (seen : s.replies = before ++ (cmd,type)::after)
      (other : ∀ i, (∀ offset size, cmd ≠ .mapBlob i offset size) ∧ cmd ≠ .resourceUnref i) :
      WindowStep W s (.response cmd type) { s with replies := before ++ after }

end GuestAdditions

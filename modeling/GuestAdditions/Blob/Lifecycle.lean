import GuestAdditions.GuestPool.Runs

/-! The life of a guest-pool blob: `virtio_gpu_guest_pool_create` up to its error labels,
`virtio_gpu_vram_free` on the last reference, and the RESOURCE_UNREF response that returns the
blocks. The host processes the control queue in order and may answer with any response type. Each
transition holds `guest_pool_lock` at most once. -/
namespace GuestAdditions

abbrev VIRTIO_GPU_RESP_OK_NODATA : ℕ := 0x1100
abbrev VIRTIO_GPU_RESP_ERR_INVALID_RESOURCE_ID : ℕ := 0x1203

/-- A command on the control queue, with the object it is for. `entries` are the blocks behind the
memory entries of a CREATE_BLOB. -/
inductive CtrlCmd
  | createBlob (obj resId : ℕ) (entries : List Block)
  | resourceUnref (obj resId : ℕ)
  deriving DecidableEq

def CtrlCmd.obj : CtrlCmd → ℕ
  | createBlob obj _ _ => obj
  | resourceUnref obj _ => obj

inductive ObjectPhase
  | creating
  | live
  | unrefQueued
  | done
  deriving DecidableEq

/-- Why a block list went back to the allocator. -/
inductive ReturnReason
  | createFailed
  | answered (type : ℕ)
  | notQueued
  deriving DecidableEq

/-- A `struct virtio_gpu_object_vram` of the guest pool. The fields from `createQueued` on only
record its history. -/
structure VramObject where
  blocks : List Block
  owned : Bool
  resId : ℕ
  phase : ObjectPhase
  createQueued : Bool
  unrefQueued : Bool
  answer : Option ℕ
  returns : List ReturnReason
  deriving DecidableEq

/-- Memory that the host holds for a resource. -/
structure HostHold where
  obj : ℕ
  resId : ℕ
  blocks : List Block
  deriving DecidableEq

/-- The device with its guest pool, its objects, the commands not yet processed by the host, the
responses not yet seen by the driver, and what the host holds. -/
structure BlobDev (σ β : Type) where
  guest : Guest σ β
  objects : List VramObject
  ctrlq : List CtrlCmd
  replies : List (CtrlCmd × ℕ)
  holds : List HostHold
  unplugged : Bool

/-- The response types after which `virtio_gpu_cmd_unref_cb` releases the blocks. -/
def ConfirmsUnref (type : ℕ) : Prop :=
  type = VIRTIO_GPU_RESP_OK_NODATA ∨ type = VIRTIO_GPU_RESP_ERR_INVALID_RESOURCE_ID

instance (type : ℕ) : Decidable (ConfirmsUnref type) := inferInstanceAs (Decidable (_ ∨ _))

section Model
variable {σ β : Type} (H : PoolHost σ) (B : DrmBuddy β)

namespace BlobDev

/-- `virtio_gpu_queue_ctrl_buffer`. The table for a vmalloc'd data buffer is built before the device
is entered, and a command that `virtqueue_add_sgs` refuses is lost behind a warning. -/
def queueCtrlBuffer (s : BlobDev σ β) (cmd : CtrlCmd) (tableOk addOk : Bool) : ℤ × BlobDev σ β :=
  if tableOk = false then (-ENOMEM,s)
  else if s.unplugged then (-ENODEV,s)
  else (0,if addOk then { s with ctrlq := s.ctrlq ++ [cmd] } else s)

/-- `virtio_gpu_guest_pool_free` of an object's list, which it leaves empty. -/
def giveBack (s : BlobDev σ β) (i : ℕ) (o : VramObject) (reason : ReturnReason) : BlobDev σ β :=
  { s with
    guest := guestPoolFree H B o.blocks s.guest
    objects := s.objects.set i { o with
      blocks := if s.guest.pool.ready then [] else o.blocks
      owned := false
      phase := .done
      returns := reason::o.returns } }

/-- `virtio_gpu_cleanup_object`, after `virtio_gpu_guest_pool_release_object` when `release` gives a
reason. -/
def finish (s : BlobDev σ β) (i : ℕ) (o : VramObject) (release : Option ReturnReason) :
    BlobDev σ β :=
  match release with
  | some reason =>
    if o.owned then s.giveBack H B i o reason
    else { s with objects := s.objects.set i { o with phase := .done } }
  | none => { s with objects := s.objects.set i { o with phase := .done } }

/-- The first critical section of `virtio_gpu_guest_pool_create`. -/
def createBegin (s : BlobDev σ β) (maxNents : ℤ) (size : ℕ) : BlobDev σ β :=
  let a := guestPoolAlloc H B maxNents (align size PAGE_SIZE) s.guest
  if a.1 = 0 then
    { s with
      guest := a.2.2
      objects := s.objects ++ [⟨a.2.1,false,0,.creating,false,false,none,[]⟩] }
  else { s with guest := a.2.2 }

/-- The labels `err_pool` and `err_obj`. -/
def createAbort (s : BlobDev σ β) (i : ℕ) (o : VramObject) : BlobDev σ β :=
  s.giveBack H B i o .createFailed

/-- The end of a create: the object owns its blocks and CREATE_BLOB is queued. The result of the
queueing is ignored, as in the source. -/
def createCommit (s : BlobDev σ β) (i : ℕ) (o : VramObject) (resId : ℕ)
    (tableOk addOk : Bool) : BlobDev σ β :=
  let q := s.queueCtrlBuffer (.createBlob i resId o.blocks) tableOk addOk
  { q.2 with objects := q.2.objects.set i { o with
      owned := true
      resId := resId
      phase := .live
      createQueued := decide (q.1 = 0) } }

/-- `virtio_gpu_cmd_unref_resource`. -/
def cmdUnrefResource (s : BlobDev σ β) (i : ℕ) (o : VramObject) (addOk : Bool) : BlobDev σ β :=
  let q := s.queueCtrlBuffer (.resourceUnref i o.resId) true addOk
  if q.1 < 0 then q.2.finish H B i o (some .notQueued)
  else { q.2 with objects := q.2.objects.set i { o with phase := .unrefQueued, unrefQueued := true } }

/-- `virtio_gpu_vram_free`: the node of a guest-pool object is never inserted, so there is nothing to
unmap. -/
def vramFree (s : BlobDev σ β) (i : ℕ) (o : VramObject) (addOk : Bool) : BlobDev σ β :=
  s.cmdUnrefResource H B i o addOk

/-- `virtio_gpu_cmd_unref_cb`. -/
def cmdUnrefCb (s : BlobDev σ β) (i : ℕ) (o : VramObject) (type : ℕ) : BlobDev σ β :=
  s.finish H B i o (if ConfirmsUnref type then some (.answered type) else none)

/-- The device after `virtio_gpu_guest_pool_init`. -/
def start (p : GuestPool) (mm : β) (host : σ) : BlobDev σ β := ⟨⟨p,mm,host,[]⟩,[],[],[],[],false⟩

end BlobDev

inductive BlobEvent
  | createBegin (maxNents : ℤ) (size : ℕ)
  | createAbort (i : ℕ)
  | createCommit (i resId : ℕ) (tableOk addOk : Bool)
  | lastPut (i : ℕ) (addOk : Bool)
  | hostCreate (type : ℕ)
  | hostUnref (type : ℕ)
  | response (cmd : CtrlCmd) (type : ℕ)
  | reclaimWork
  | unplug

/-- The transitions. The host takes hold of a blob's memory or not, and gives up what it likes, but
after confirming an UNREF it holds nothing under that resource id. -/
inductive BlobStep : BlobDev σ β → BlobEvent → BlobDev σ β → Prop
  | createBegin {s maxNents size} (plugged : s.unplugged = false) :
      BlobStep s (.createBegin maxNents size) (s.createBegin H B maxNents size)
  | createAbort {s i o} (at_i : s.objects[i]? = some o) (phase : o.phase = .creating) :
      BlobStep s (.createAbort i) (s.createAbort H B i o)
  | createCommit {s i o resId tableOk addOk} (at_i : s.objects[i]? = some o)
      (phase : o.phase = .creating) :
      BlobStep s (.createCommit i resId tableOk addOk) (s.createCommit i o resId tableOk addOk)
  | lastPut {s i o addOk} (at_i : s.objects[i]? = some o) (phase : o.phase = .live) :
      BlobStep s (.lastPut i addOk) (s.vramFree H B i o addOk)
  | hostCreate {s i resId entries rest type holds}
      (head : s.ctrlq = .createBlob i resId entries::rest)
      (sub : ∀ h ∈ holds, h = ⟨i,resId,entries⟩ ∨ h ∈ s.holds) :
      BlobStep s (.hostCreate type) { s with
        ctrlq := rest
        replies := s.replies ++ [(.createBlob i resId entries,type)]
        holds := holds }
  | hostUnref {s i o resId rest type holds} (head : s.ctrlq = .resourceUnref i resId::rest)
      (at_i : s.objects[i]? = some o) (sub : ∀ h ∈ holds, h ∈ s.holds)
      (dropped : ConfirmsUnref type → ∀ h ∈ holds, h.resId ≠ resId) :
      BlobStep s (.hostUnref type) { s with
        ctrlq := rest
        replies := s.replies ++ [(.resourceUnref i resId,type)]
        objects := s.objects.set i { o with answer := some type }
        holds := holds }
  | responseCreate {s i resId entries type before after}
      (seen : s.replies = before ++ (.createBlob i resId entries,type)::after) :
      BlobStep s (.response (.createBlob i resId entries) type)
        { s with replies := before ++ after }
  | responseUnref {s i o resId type before after}
      (seen : s.replies = before ++ (.resourceUnref i resId,type)::after)
      (at_i : s.objects[i]? = some o) :
      BlobStep s (.response (.resourceUnref i resId) type)
        (({ s with replies := before ++ after } : BlobDev σ β).cmdUnrefCb H B i o type)
  | reclaimWork {s} : BlobStep s .reclaimWork { s with guest := guestPoolReclaimWork H B s.guest }
  | unplug {s} : BlobStep s .unplug { s with unplugged := true }

end Model
end GuestAdditions

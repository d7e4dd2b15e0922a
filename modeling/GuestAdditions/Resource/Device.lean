import GuestAdditions.Kernel.Errno
import GuestAdditions.Kernel.Word
import GuestAdditions.Library.Lifetime
import GuestAdditions.Library.Transition
import Mathlib.Logic.Function.Basic

/-! The resources of shmem objects and of imports: their ids, the references to the objects behind them, and the
commands on the control queue that name them. The blobs of the guest pool and of the host are no part of it. -/
namespace GuestAdditions

/-- Where the ids come from: the counter of `virtio_gpu_virglrenderer_workaround`, which is on by default, or
the handles in use of `resource_ida`. -/
inductive ResourceIds
  | seqno (n : ℕ)
  | ida (used : List ℕ)

/-- The least handle that is not in use. -/
def firstFree (used : List ℕ) : ℕ := ((List.range (used.length+1)).find? fun h => h ∉ used).getD 0

/-- `virtio_gpu_resource_id_get`. `ida_alloc` may lack memory, and has no handle from `2^31` on. -/
def ResourceIds.get (memory : Bool) : ResourceIds → Except ℤ (ℕ × ResourceIds)
  | .seqno n => .ok (wrap32 (wrap32 (n+1)+1),.seqno (wrap32 (n+1)))
  | .ida used =>
    if memory = false then .error (-ENOMEM)
    else if firstFree used ≥ 2^31 then .error (-ENOSPC)
    else .ok (firstFree used+1,.ida (firstFree used::used))

/-- `virtio_gpu_resource_id_put`. `ida_free` does nothing for the handle `-1` of an object without an id. -/
def ResourceIds.put (id : ℕ) : ResourceIds → ResourceIds
  | .seqno n => .seqno n
  | .ida used => if id = 0 then .ida used else .ida (used.erase (id-1))

/-- `struct virtio_gpu_object` with the count of its `drm_gem_object`. `users` are the references of handles,
framebuffers and calls that are under way; the other ones are in arrays of objects. The last field records
`virtio_gpu_cleanup_object`. -/
structure GemObject where
  hwResHandle : ℕ
  refs : ℕ
  users : ℕ
  created : Bool
  attached : Bool
  imported : Bool
  sgt : Bool
  cleaned : Bool

/-- No object is at this place yet. -/
def GemObject.absent : GemObject := ⟨0,0,0,false,false,false,false,true⟩

inductive ResKind
  | create2d
  | create3d
  | createBlob
  deriving DecidableEq

/-- The commands on an object that a handle or a framebuffer gives: the transfers, the attach and detach of a
context, the scanouts, the flush, and `ASSIGN_UUID`. -/
inductive ResUse
  | transferToHost2d
  | transferToHost3d
  | transferFromHost3d
  | ctxAttachResource
  | ctxDetachResource
  | setScanout
  | setScanoutBlob
  | resourceFlush
  | resourceAssignUuid
  deriving DecidableEq

/-- A command with the id that it names. -/
inductive ResCmd
  | create (kind : ResKind) (id : ℕ)
  | attachBacking (id : ℕ)
  | detachBacking (id : ℕ)
  | use (u : ResUse) (id : ℕ)
  | submit3d
  | unref (id : ℕ)

/-- What the command does to the resource at the host. -/
def ResCmd.about : ResCmd → Option (ℕ × Lifetime.Act)
  | create _ id => some (id,.creates)
  | attachBacking id | detachBacking id | use _ id => some (id,.uses)
  | submit3d => none
  | unref id => some (id,.destroys)

/-- The resource that is not as the driver takes it to be if this command gets lost: the one that it creates, the
one that it destroys, and the one whose detach is waited for. -/
def ResCmd.needs : ResCmd → Option ℕ
  | create _ id | detachBacking id | unref id => some id
  | attachBacking _ | use _ _ | submit3d => none

/-- A buffer for the control queue: the command, `vbuf->objs`, and the object of `virtio_gpu_cmd_unref_cb`. -/
structure ResVbuf where
  cmd : ResCmd
  objs : Option (List ℕ)
  unrefCb : Option ℕ

/-- What `virtqueue_add_sgs` does with a buffer. A broken ring refuses it, and so does one that cannot map it. The
flag says whether the answer to a later command signals the fence of a refused one. -/
inductive RingEnd
  | takes
  | refuses (signalled : Bool)
  deriving DecidableEq

/-- The driver. `ring` is what becomes of the buffers, the next one first in `given`. `sent` are the commands put
on the ring, in order, and `inFlight` the buffers whose response is not handled; `dropped` are the commands without
a table and those that the ring refuses, and `lost` the references that nobody will ever drop. -/
structure ResDev where
  ring : ℕ → RingEnd
  given : ℕ
  ids : ResourceIds
  objects : ℕ → GemObject
  count : ℕ
  sent : List ResCmd
  inFlight : List ResVbuf
  objFreeList : List (List ℕ)
  dropped : List ResCmd
  lost : List ℕ
  unplugged : Bool

/-- What is created, a dumb buffer or not, and how the calls of `virtio_gpu_object_create` and of the ioctl around
it end: `drm_gem_shmem_create`, the id, `virtio_gpu_object_shmem_init`, the array and its locks where there is a
fence, the table for a vmalloc'd list of entries, and `drm_gem_handle_create`. A call returns 0 or an error. -/
structure CreateCall where
  kind : ResKind
  dumb : Bool
  fence : Bool
  shmemCreate : ℤ
  idMemory : Bool
  shmemInit : ℤ
  nents : ℕ
  arrayAlloc : Bool
  lock : ℤ
  table : Bool
  handle : ℤ

/-- How the calls of `virtgpu_gem_prime_import` end for the buffer of another device. -/
structure ImportCall where
  boAlloc : Bool
  attach : ℤ
  idMemory : Bool
  pin : ℤ
  importSgt : ℤ
  nents : ℕ
  table : Bool

/-- A call of the driver, the response to a buffer, or the removal of the device. `fenceOk` says for which
objects `virtio_gpu_detach_object_fenced` gets a fence. -/
inductive ResEvent
  | create (c : CreateCall)
  | primeImport (c : ImportCall)
  | get (i : ℕ)
  | put (i : ℕ) (fenceOk : ℕ → Bool)
  | command (i : ℕ) (u : ResUse) (array : Bool)
  | submit (objs : List ℕ) (table : Bool)
  | moveNotify (i : ℕ) (fenceOk : Bool)
  | prepare (i : ℕ) (importSgt : ℤ) (table : Bool)
  | respond (n : ℕ)
  | work (fenceOk : ℕ → Bool)
  | unplug

namespace ResDev

def start (ring : ℕ → RingEnd) (ids : ResourceIds) : ResDev :=
  ⟨ring,0,ids,fun _ => .absent,0,[],[],[],[],[],false⟩

/-- A write to an object. -/
def set (s : ResDev) (i : ℕ) (o : GemObject) : ResDev := { s with objects := Function.update s.objects i o }

/-- `drm_gem_object_get` for each object of an array. -/
def getRefs (s : ResDev) (objs : List ℕ) : ResDev :=
  { s with objects := fun i => { s.objects i with refs := (s.objects i).refs+objs.count i } }

/-- `virtio_gpu_queue_fenced_ctrl_buffer` for a buffer whose data is described by a table, if it needs one. The
caller is not told of a buffer that the ring refuses, and nobody drops the references in the array of a buffer that
does not get on the ring. -/
def queueCtrlBuffer (s : ResDev) (table : Bool) (v : ResVbuf) : ℤ × ResDev :=
  let lost := s.lost ++ v.objs.getD []
  if table = false then (-ENOMEM,{ s with lost := lost, dropped := s.dropped ++ [v.cmd] })
  else if s.unplugged then (-ENODEV,{ s with lost := lost })
  else
    match s.ring s.given with
    | .takes => (0,{ s with given := s.given+1, sent := s.sent ++ [v.cmd], inFlight := s.inFlight ++ [v] })
    | .refuses _ => (0,{ s with given := s.given+1, lost := lost, dropped := s.dropped ++ [v.cmd] })

/-- Whether the wait for the fence of the next command comes to an end. No answer comes from a device that is
gone. -/
def waitEnds (s : ResDev) : Bool := !s.unplugged && decide (s.ring s.given ≠ .refuses false)

/-- `virtio_gpu_cleanup_object`. -/
def cleanupObject (s : ResDev) (i : ℕ) : ResDev :=
  { s.set i { s.objects i with cleaned := true } with ids := s.ids.put (s.objects i).hwResHandle }

/-- `virtio_gpu_cmd_unref_resource`. -/
def cmdUnrefResource (s : ResDev) (i : ℕ) : ResDev :=
  let r := s.queueCtrlBuffer true ⟨.unref (s.objects i).hwResHandle,none,some i⟩
  if r.1 < 0 then r.2.cleanupObject i else r.2

/-- `virtgpu_dma_buf_unmap`, with `virtio_gpu_detach_object_fenced`. The call does not come to the end of the
mapping if the fence is never signalled; the flag says whether it does. -/
def dmaBufUnmap (s : ResDev) (fenceOk : Bool) (i : ℕ) : Bool × ResDev :=
  let o := s.objects i
  if o.created = false then (true,s)
  else if o.attached = false ∨ fenceOk = false then (true,s.set i { o with sgt := false })
  else
    let s' := (s.queueCtrlBuffer true ⟨.detachBacking o.hwResHandle,none,none⟩).2
    if s.waitEnds then (true,s'.set i { o with attached := false, sgt := false })
    else (false,s'.set i { o with attached := false })

/-- `virtio_gpu_free_object`, and `virtgpu_dma_buf_free_obj` for an import. -/
def freeObject (s : ResDev) (fenceOk : Bool) (i : ℕ) : ResDev :=
  let r := if (s.objects i).imported then s.dmaBufUnmap fenceOk i else (true,s)
  if r.1 = false then r.2
  else if (s.objects i).created then r.2.cmdUnrefResource i
  else r.2.cleanupObject i

/-- `drm_gem_object_put`. -/
def putRef (fenceOk : ℕ → Bool) (s : ResDev) (i : ℕ) : ResDev :=
  let o := s.objects i
  let s' := s.set i { o with refs := o.refs-1 }
  if o.refs = 1 then s'.freeObject (fenceOk i) i else s'

/-- `virtio_gpu_array_put_free`. -/
def putRefs (fenceOk : ℕ → Bool) (s : ResDev) (objs : List ℕ) : ResDev := objs.foldl (putRef fenceOk) s

/-- A new object. -/
def addObject (s : ResDev) (o : GemObject) : ResDev := { s.set s.count o with count := s.count+1 }

/-- `virtio_gpu_object_create`. On an error the object goes, with its id. -/
def objectCreate (s : ResDev) (c : CreateCall) : ℤ × ResDev :=
  if c.shmemCreate ≠ 0 then (c.shmemCreate,s)
  else
    match s.ids.get c.idMemory with
    | .error e => (e,s)
    | .ok (id,ids) =>
      if c.shmemInit ≠ 0 then (c.shmemInit,{ s with ids := ids.put id })
      else if c.fence && !c.arrayAlloc then (-ENOMEM,{ s with ids := ids.put id })
      else if c.fence && decide (c.lock ≠ 0) then (c.lock,{ s with ids := ids.put id })
      else
        let i := s.count
        let objs := if c.fence then some [i] else none
        let attached := decide (c.kind ≠ .createBlob ∨ c.nents ≠ 0)
        let o := ⟨id,1+(objs.getD []).count i,1,true,attached,false,false,false⟩
        let s := { s with ids := ids }.addObject o
        if c.kind = .createBlob then
          let s := { s with lost := s.lost ++ objs.getD [] }
          (0,(s.queueCtrlBuffer c.table ⟨.create c.kind id,none,none⟩).2)
        else
          let s := (s.queueCtrlBuffer true ⟨.create c.kind id,objs,none⟩).2
          (0,(s.queueCtrlBuffer c.table ⟨.attachBacking id,none,none⟩).2)

/-- `virtio_gpu_gem_create` and the ends of the ioctls: the reference of the creation goes to the handle. Without
one, the ioctl for a blob drops it; the others call `drm_gem_object_release`, which does not. -/
def gemCreate (s : ResDev) (c : CreateCall) : ℤ × ResDev :=
  let i := s.count
  let r := s.objectCreate c
  if r.1 ≠ 0 then r
  else if c.handle ≠ 0 then
    let s := r.2.set i { r.2.objects i with users := 0 }
    if c.kind = .createBlob ∧ c.dumb = false then (c.handle,putRef (fun _ => false) s i)
    else (c.handle,{ s with lost := s.lost ++ [i] })
  else r

/-- `virtgpu_gem_prime_import` and `virtgpu_dma_buf_init_obj`. -/
def gemPrimeImport (s : ResDev) (c : ImportCall) : ℤ × ResDev :=
  if c.boAlloc = false then (-ENOMEM,s)
  else if c.attach ≠ 0 then (c.attach,s)
  else
    match s.ids.get c.idMemory with
    | .error e => (e,{ s with ids := s.ids.put 0 })
    | .ok (id,ids) =>
      if c.pin ≠ 0 then (c.pin,{ s with ids := ids.put id })
      else if c.importSgt ≠ 0 then (c.importSgt,{ s with ids := ids.put id })
      else
        let o := ⟨id,1,1,true,decide (c.nents ≠ 0),true,true,false⟩
        (0,({ s with ids := ids }.addObject o |>.queueCtrlBuffer c.table
          ⟨.create .createBlob id,none,none⟩).2)

/-- A command with an object of the caller, in an array of its own or not. -/
def command (s : ResDev) (i : ℕ) (u : ResUse) (array : Bool) : ResDev :=
  let id := (s.objects i).hwResHandle
  if array then ((s.getRefs [i]).queueCtrlBuffer true ⟨.use u id,some [i],none⟩).2
  else (s.queueCtrlBuffer true ⟨.use u id,none,none⟩).2

/-- `virtio_gpu_prepare_imported_obj`, with `virtio_gpu_object_attach`. -/
def prepareImportedObj (s : ResDev) (i : ℕ) (importSgt : ℤ) (table : Bool) : ResDev :=
  let o := s.objects i
  if o.sgt then s
  else if importSgt ≠ 0 then s
  else if o.attached then s.set i { o with sgt := true }
  else (s.set i { o with sgt := true, attached := true }
    |>.queueCtrlBuffer table ⟨.attachBacking o.hwResHandle,none,none⟩).2

/-- `virtio_gpu_dequeue_ctrl_func` for one buffer: its callback, then its array. -/
def respond (s : ResDev) (n : ℕ) : Option ResDev :=
  match s.inFlight[n]? with
  | none => none
  | some v =>
    let s := { s with inFlight := s.inFlight.eraseIdx n }
    let s := match v.unrefCb with
      | none => s
      | some i => s.cleanupObject i
    some { s with objFreeList := s.objFreeList ++ v.objs.toList }

/-- An event, if it is possible. Who has no reference has nothing to do with an object. -/
def step (s : ResDev) : ResEvent → Option ResDev
  | .create c => some (s.gemCreate c).2
  | .primeImport c => some (s.gemPrimeImport c).2
  | .get i =>
    if (s.objects i).users = 0 then none
    else some (s.set i { s.objects i with refs := (s.objects i).refs+1, users := (s.objects i).users+1 })
  | .put i fenceOk =>
    if (s.objects i).users = 0 then none
    else some ((s.set i { s.objects i with users := (s.objects i).users-1 }).putRef fenceOk i)
  | .command i u array => if (s.objects i).users = 0 then none else some (s.command i u array)
  | .submit objs table =>
    if ∃ i ∈ objs, (s.objects i).users = 0 then none
    else some ((s.getRefs objs).queueCtrlBuffer table ⟨.submit3d,some objs,none⟩).2
  | .moveNotify i fenceOk =>
    if (s.objects i).refs = 0 ∨ (s.objects i).imported = false then none
    else some (s.dmaBufUnmap fenceOk i).2
  | .prepare i importSgt table =>
    if (s.objects i).users = 0 ∨ (s.objects i).imported = false then none
    else some (s.prepareImportedObj i importSgt table)
  | .respond n => s.respond n
  | .work fenceOk =>
    match s.objFreeList with
    | [] => none
    | objs::rest => some ({ s with objFreeList := rest }.putRefs fenceOk objs)
  | .unplug => some { s with unplugged := true }

abbrev Runs (s : ResDev) (es : List ResEvent) (s' : ResDev) : Prop :=
  Transition.Run (fun s e s' => step s e = some s') s es s'

end ResDev
end GuestAdditions

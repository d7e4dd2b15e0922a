import GuestAdditions.Library.Holding
import GuestAdditions.Submit.Rings

/-! `virtio_gpu_execbuffer_ioctl`: the fences, syncobjs, buffers and file descriptors of a job, from the
arguments of the ioctl to the submission or the error. -/
namespace GuestAdditions

/-- What the ioctl takes: references, allocations, a reserved event, the reservation locks of the buffer
objects and a file descriptor. `cursor` is the reference of `dma_fence_unwrap_first`. Syncobjs and chain
nodes go by their place in the arrays of the user. -/
inductive ExecRes
  | outFence
  | event
  | boHandles
  | buflist
  | resv
  | buf
  | fd (n : ℤ)
  | syncFile
  | inFence
  | cursor
  | inArray
  | inObj (i : ℕ)
  | outArray
  | chain (i : ℕ)
  | outObj (i : ℕ)
  deriving DecidableEq

/-- What the ioctl does. A resource is taken, and then dropped or given to the queue, the file table or a
syncobj. A wait has the result of `dma_fence_wait`, and a syncobj is written with the fence of the job or
with none. -/
inductive ExecEvent
  | take (r : ExecRes)
  | drop (r : ExecRes)
  | give (r : ExecRes)
  | context
  | wait (context : ℕ) (ret : ℤ)
  | lock
  | submit
  | attach (i : ℕ) (fence : Bool)
  | reset (i : ℕ)
  deriving DecidableEq

/-- A wait needs the reference of the walk, a lock the array, and a syncobj is written by reference. -/
def ExecEvent.effect : ExecEvent → Holding.Effect ExecRes
  | take r => .takes r
  | drop r | give r => .ends r
  | wait _ _ => .uses .cursor
  | lock => .uses .buflist
  | attach i _ => .uses (.outObj i)
  | reset i => .uses (.inObj i)
  | context | submit => .quiet

/-- A fence to wait for, and what `dma_fence_wait` returns. -/
structure InFence where
  context : ℕ
  wait : ℤ

/-- A `struct drm_virtgpu_execbuffer_syncobj` to wait for: whether it can be copied, its flags, the result of
`drm_syncobj_find_fence` with the fences unwrapped, and whether `drm_syncobj_find` finds it. -/
structure InDesc where
  copied : Bool
  unknownFlags : Bool
  reset : Bool
  fenceRet : ℤ
  fences : List InFence
  found : Bool

/-- One to be signalled: whether it can be copied, whether it has flags, its point, whether
`dma_fence_chain_alloc` succeeds, and whether `drm_syncobj_find` finds it. -/
structure OutDesc where
  copied : Bool
  flags : Bool
  point : ℕ
  chainAlloc : Bool
  found : Bool

/-- `struct drm_virtgpu_execbuffer`: the flags, the ring, whether there are buffer objects, and the
syncobjs. -/
structure ExecArgs where
  unknownFlags : Bool
  fenceFdIn : Bool
  fenceFdOut : Bool
  ringIdxFlag : Bool
  ringIdx : ℕ
  hasBos : Bool
  inSyncobjs : List InDesc
  outSyncobjs : List OutDesc

/-- How the queueing of a command ends: the table for a vmalloc'd buffer cannot be built, the device is gone,
`virtqueue_add_sgs` refuses, or the command is on the ring. -/
inductive QueueEnd
  | noTable
  | unplugged
  | notAdded
  | added
  deriving DecidableEq

/-- How the calls of the ioctl end: the allocations, `drm_event_reserve_init`, the two copies from the user
and `virtio_gpu_array_from_handles`, `get_unused_fd_flags`, `sync_file_create`, `sync_file_get_fence` with the
fences unwrapped, `virtio_gpu_array_lock_resv`, and the queueing. -/
structure ExecEnv where
  fenceAlloc : Bool
  eventAlloc : Bool
  eventReserve : ℤ
  handlesAlloc : Bool
  handlesCopied : Bool
  arrayFound : Bool
  command : ℤ
  unusedFd : ℤ
  syncFile : Bool
  outAlloc : Bool
  inAlloc : Bool
  fdFence : Option (List InFence)
  lock : ℤ
  queue : QueueEnd

/-- The device and the file as the ioctl finds them. -/
structure ExecFile where
  hasVirgl3d : Bool
  contexts : FenceContexts
  file : ℕ
  ringIdxMask : ℕ

/-- An entry of `post_deps`: the syncobj, and whether there is a chain node. -/
structure PostDep where
  obj : ℕ
  chain : Bool

/-- `struct virtio_gpu_submit`, as far as it holds resources. `event` is `out_fence->e`, and `locked` says
that the objects of `buflist` are reserved. -/
structure SubmitState where
  outFence : Bool
  event : Bool
  buflist : Bool
  locked : Bool
  buf : Bool
  outFenceFd : ℤ
  syncFile : Bool
  inSyncobjs : Option (List (Option ℕ))
  postDeps : Option (List PostDep)

/-- `memset(submit, 0, sizeof(*submit))`. -/
def SubmitState.zero : SubmitState := ⟨false,false,false,false,false,0,false,none,none⟩

/-- The state from the fence on. -/
def SubmitState.fenced (outFence event : Bool) : SubmitState :=
  ⟨outFence,event,false,false,false,-1,false,none,none⟩

/-- A part of the ioctl: its result, the state behind it and what it did. -/
abbrev ExecPart := SubmitState → ℤ × SubmitState × List ExecEvent

/-- `if (ret) goto cleanup;` between two parts. -/
def ExecPart.andThen (f g : ExecPart) : ExecPart := fun s =>
  let r := f s
  if r.1 ≠ 0 then r
  else
    let r' := g r.2.1
    (r'.1,r'.2.1,r.2.2 ++ r'.2.2)

/-- The event for a resource that is there. -/
def whenHeld (b : Bool) (e : ExecEvent) : List ExecEvent := if b then [e] else []

/-- `dma_fence_unwrap_for_each` from one fence on: those of the ring itself are not waited for. The walk
drops its reference at its end, which the early return does not get to. -/
def walkFences (context : ℕ) : List InFence → ℤ × List ExecEvent
  | [] => (0,[.drop .cursor])
  | f::fs =>
    if f.context = context then walkFences context fs
    else if f.wait ≠ 0 then (f.wait,[.wait f.context f.wait])
    else
      let r := walkFences context fs
      (r.1,.wait f.context f.wait::r.2)

/-- `virtio_gpu_dma_fence_wait`. -/
def dmaFenceWait (context : ℕ) (fences : List InFence) : ℤ × List ExecEvent :=
  let r := walkFences context fences
  (r.1,.take .cursor::r.2)

/-- The loop of `virtio_gpu_parse_deps` from one syncobj on: its result, the entries of the array that it
filled and what it did. -/
def parseDepsFrom (context : ℕ) (i : ℕ) : List InDesc → ℤ × List (Option ℕ) × List ExecEvent
  | [] => (0,[],[])
  | d::ds =>
    if d.copied = false then (-EFAULT,[],[])
    else if d.unknownFlags then (-EINVAL,[],[])
    else if d.fenceRet ≠ 0 then (d.fenceRet,[],[])
    else
      let w := dmaFenceWait context d.fences
      let done := .take .inFence::(w.2 ++ [.drop .inFence])
      if w.1 ≠ 0 then (w.1,[],done)
      else if d.reset then
        if d.found = false then (-EINVAL,[],done)
        else
          let r := parseDepsFrom context (i+1) ds
          (r.1,some i::r.2.1,done ++ .take (.inObj i)::r.2.2)
      else
        let r := parseDepsFrom context (i+1) ds
        (r.1,none::r.2.1,done ++ r.2.2)

/-- `virtio_gpu_free_syncobjs`. -/
def freeSyncobjs (syncobjs : List (Option ℕ)) : List ExecEvent :=
  (syncobjs.reverse.filterMap id).map (fun i => .drop (.inObj i)) ++ [.drop .inArray]

/-- `virtio_gpu_parse_deps`. -/
def parseDeps (a : ExecArgs) (env : ExecEnv) (context : ℕ) : ExecPart := fun s =>
  if a.inSyncobjs = [] then (0,s,[])
  else if env.inAlloc = false then (-ENOMEM,s,[])
  else
    let r := parseDepsFrom context 0 a.inSyncobjs
    if r.1 ≠ 0 then (r.1,s,.take .inArray::(r.2.2 ++ freeSyncobjs r.2.1))
    else (0,{ s with inSyncobjs := some r.2.1 },.take .inArray::r.2.2)

/-- `virtio_gpu_wait_in_fence`. -/
def waitInFence (a : ExecArgs) (env : ExecEnv) (context : ℕ) : ExecPart := fun s =>
  if a.fenceFdIn then
    match env.fdFence with
    | none => (-EINVAL,s,[])
    | some fences =>
      let w := dmaFenceWait context fences
      (w.1,s,.take .inFence::(w.2 ++ [.drop .inFence]))
  else (0,s,[])

/-- `virtio_gpu_reset_syncobjs`. -/
def resetSyncobjs (syncobjs : List (Option ℕ)) : List ExecEvent :=
  (syncobjs.filterMap id).map .reset

/-- The loop of `virtio_gpu_parse_post_deps` from one syncobj on. -/
def parsePostDepsFrom (i : ℕ) : List OutDesc → ℤ × List PostDep × List ExecEvent
  | [] => (0,[],[])
  | d::ds =>
    if d.copied = false then (-EFAULT,[],[])
    else if d.flags then (-EINVAL,[],[])
    else if d.point ≠ 0 ∧ d.chainAlloc = false then (-ENOMEM,[],[])
    else
      let chain := decide (d.point ≠ 0)
      let taken := whenHeld chain (.take (.chain i))
      if d.found = false then (-EINVAL,[],taken ++ whenHeld chain (.drop (.chain i)))
      else
        let r := parsePostDepsFrom (i+1) ds
        (r.1,⟨i,chain⟩::r.2.1,taken ++ .take (.outObj i)::r.2.2)

/-- `virtio_gpu_free_post_deps`. -/
def freePostDeps (postDeps : List PostDep) : List ExecEvent :=
  postDeps.reverse.flatMap (fun d => whenHeld d.chain (.drop (.chain d.obj)) ++ [.drop (.outObj d.obj)]) ++
    [.drop .outArray]

/-- `virtio_gpu_parse_post_deps`. -/
def parsePostDeps (a : ExecArgs) (env : ExecEnv) : ExecPart := fun s =>
  if a.outSyncobjs = [] then (0,s,[])
  else if env.outAlloc = false then (-ENOMEM,s,[])
  else
    let r := parsePostDepsFrom 0 a.outSyncobjs
    if r.1 ≠ 0 then (r.1,s,.take .outArray::(r.2.2 ++ freePostDeps r.2.1))
    else (0,{ s with postDeps := some r.2.1 },.take .outArray::r.2.2)

/-- `virtio_gpu_process_post_deps`: a chain node goes to its syncobj. Without memory for the fence its
address is that of the `dma_fence` at its start, and a syncobj without a point gets none. -/
def processPostDeps (outFence : Bool) (postDeps : List PostDep) : List ExecEvent :=
  postDeps.flatMap fun d => .attach d.obj outFence::whenHeld d.chain (.give (.chain d.obj))

/-- `virtio_gpu_init_submit_buflist`. -/
def initSubmitBuflist (a : ExecArgs) (env : ExecEnv) : ExecPart := fun s =>
  if a.hasBos = false then (0,s,[])
  else if env.handlesAlloc = false then (-ENOMEM,s,[])
  else if env.handlesCopied = false then (-EFAULT,s,[.take .boHandles,.drop .boHandles])
  else if env.arrayFound = false then (-ENOENT,s,[.take .boHandles,.drop .boHandles])
  else (0,{ s with buflist := true },[.take .boHandles,.take .buflist,.drop .boHandles])

/-- The copy of the command. -/
def initSubmitBuf (env : ExecEnv) : ExecPart := fun s =>
  if env.command ≠ 0 then (env.command,s,[]) else (0,{ s with buf := true },[.take .buf])

/-- The file descriptor for the fence of the job. -/
def initSubmitFd (a : ExecArgs) (env : ExecEnv) : ExecPart := fun s =>
  if a.fenceFdOut = false then (0,s,[])
  else if env.unusedFd < 0 then (env.unusedFd,s,[])
  else if env.syncFile = false then
    (-ENOMEM,{ s with outFenceFd := env.unusedFd },[.take (.fd env.unusedFd)])
  else (0,{ s with outFenceFd := env.unusedFd, syncFile := true },
    [.take (.fd env.unusedFd),.take .syncFile])

/-- `virtio_gpu_lock_buflist`. -/
def lockBuflist (env : ExecEnv) : ExecPart := fun s =>
  if s.buflist = false then (0,s,[])
  else if env.lock ≠ 0 then (env.lock,s,[.lock])
  else (0,{ s with locked := true },[.lock,.take .resv])

/-- `virtio_gpu_cmd_submit`, which drops the result of the queueing. The buffer objects are unlocked on every
path, but only for a job with a fence. The fence is on its list, with its event, from the call of
`virtqueue_add_sgs` on, also if that refuses. A command that does not get to the ring is freed with its data
if the device is gone, and else forgotten. -/
def cmdSubmit (queue : QueueEnd) (s : SubmitState) : List ExecEvent :=
  let unlock := whenHeld (s.outFence && s.locked) (.drop .resv)
  match queue with
  | .noTable => unlock
  | .unplugged => unlock ++ whenHeld s.buf (.drop .buf)
  | .notAdded => unlock ++ whenHeld s.event (.give .event)
  | .added => unlock ++ whenHeld s.event (.give .event) ++
      .submit::(whenHeld s.buf (.give .buf) ++ whenHeld s.buflist (.give .buflist))

/-- The fence of the job goes on its list. -/
def QueueEnd.emits : QueueEnd → Bool
  | noTable | unplugged => false
  | notAdded | added => true

/-- `virtio_gpu_submit`, `virtio_gpu_install_out_fence_fd`, `virtio_gpu_process_post_deps` and
`virtio_gpu_complete_submit`, which take the job for submitted. -/
def submitJob (queue : QueueEnd) : ExecPart := fun s =>
  (0,{ s with
      event := s.event && !queue.emits
      buf := false
      buflist := false
      locked := s.locked && !s.outFence
      syncFile := false
      outFenceFd := -1
      postDeps := s.postDeps.map (·.map fun d => { d with chain := false }) },
    cmdSubmit queue s ++
      ((if s.syncFile then [.give (.fd s.outFenceFd),.give .syncFile] else []) ++
        processPostDeps s.outFence (s.postDeps.getD [])))

/-- `virtio_gpu_cleanup_submit`. -/
def cleanupSubmit (s : SubmitState) : List ExecEvent :=
  (s.inSyncobjs.map fun objs => resetSyncobjs objs ++ freeSyncobjs objs).getD [] ++
    (s.postDeps.map freePostDeps).getD [] ++ whenHeld s.buf (.drop .buf) ++
    whenHeld s.buflist (.drop .buflist) ++
    (if 0 ≤ s.outFenceFd then [.drop (.fd s.outFenceFd)] else []) ++
    whenHeld s.outFence (.drop .outFence) ++ whenHeld s.syncFile (.drop .syncFile)

/-- The parts between the fence of the job and its submission. -/
def prepareJob (a : ExecArgs) (env : ExecEnv) (context : ℕ) : ExecPart :=
  ExecPart.andThen (initSubmitBuflist a env) <| ExecPart.andThen (initSubmitBuf env) <|
    ExecPart.andThen (initSubmitFd a env) <| ExecPart.andThen (parsePostDeps a env) <|
    ExecPart.andThen (parseDeps a env context) <| ExecPart.andThen (waitInFence a env context) <|
    lockBuflist env

/-- The parts behind the fence of the job. -/
def execParts (a : ExecArgs) (env : ExecEnv) (context : ℕ) : ExecPart :=
  ExecPart.andThen (prepareJob a env context) (submitJob env.queue)

/-- Whether the file wants an event when the fence is signalled. -/
def ExecArgs.polled (a : ExecArgs) (f : ExecFile) (ringIdx : ℕ) : Bool :=
  a.ringIdxFlag && f.ringIdxMask.testBit ringIdx

/-- Whether the job gets a fence, if there is memory for one. -/
def ExecArgs.wantsFence (a : ExecArgs) (f : ExecFile) (ringIdx : ℕ) : Bool :=
  a.fenceFdOut || !a.outSyncobjs.isEmpty || a.hasBos || a.polled f ringIdx

/-- The ring that the arguments name. -/
def ExecArgs.ring (a : ExecArgs) (f : ExecFile) : FenceRing :=
  if a.ringIdxFlag then .ring f.file a.ringIdx else .device

/-- The ioctl gets to the fence of the job, wants it and has the memory for it. -/
def ExecArgs.hasFence (a : ExecArgs) (f : ExecFile) (env : ExecEnv) : Bool :=
  match f.contexts.select (a.ring f) with
  | .error _ => false
  | .ok r => a.wantsFence f r.2 && env.fenceAlloc

/-- A syncobj gets a point, for which `drm_syncobj_add_point` makes a chain node of the job's fence. -/
def ExecArgs.hasPoint (a : ExecArgs) : Bool := a.outSyncobjs.any fun d => d.point ≠ 0

/-- `virtio_gpu_execbuffer_ioctl` and `virtio_gpu_init_submit`: the result and what was done. There is none
if the event is written through the fence that was not allocated, or if a chain node is made of it, for which
`dma_fence_chain_init` looks into it. When the event cannot be had, the cleanup sees a
`struct virtio_gpu_submit` that is still zero. -/
def execbufferIoctl (f : ExecFile) (a : ExecArgs) (env : ExecEnv) : Option (ℤ × List ExecEvent) :=
  if f.hasVirgl3d = false then some (-ENOSYS,[])
  else if a.unknownFlags then some (-EINVAL,[])
  else
    match f.contexts.select (a.ring f) with
    | .error e => some (e,[])
    | .ok (fenceCtx,ringIdx) =>
      let outFence := a.wantsFence f ringIdx && env.fenceAlloc
      let start := .context::whenHeld outFence (.take .outFence)
      let polled := a.polled f ringIdx
      if polled && !env.eventAlloc then
        some (-ENOMEM,start ++ whenHeld outFence (.drop .outFence) ++ cleanupSubmit .zero)
      else if polled && decide (env.eventReserve ≠ 0) then
        some (env.eventReserve,start ++ [.take .event,.drop .event] ++
          whenHeld outFence (.drop .outFence) ++ cleanupSubmit .zero)
      else if polled && !outFence then none
      else
        let r := execParts a env (wrap64 (fenceCtx+ringIdx)) (.fenced outFence polled)
        if decide (r.1 = 0) && !outFence && a.hasPoint then none
        else some (r.1,start ++ whenHeld polled (.take .event) ++ r.2.2 ++ cleanupSubmit r.2.1)

end GuestAdditions

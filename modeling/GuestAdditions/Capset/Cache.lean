import GuestAdditions.Kernel.Errno
import GuestAdditions.Library.Bytes
import GuestAdditions.Library.Transition
import Mathlib.Algebra.Group.Nat.Defs
import Mathlib.Data.List.Basic

/-! The capability sets of the host and the driver's cache of them: any number of callers of
`VIRTGPU_GET_CAPS`, each at a point of its own, and the answers to the commands that they send. -/
namespace GuestAdditions

/-- `struct virtio_gpu_drv_capset`. -/
structure DrvCapset where
  id : ℕ
  maxVersion : ℕ
  maxSize : ℕ

/-- `struct virtio_gpu_drv_cap_cache`. Nothing is in the memory of `size` bytes before the answer is. -/
structure DrvCapCache where
  capsCache : List UInt8
  id : ℕ
  version : ℕ
  size : ℕ
  isValid : Bool

def DrvCapCache.key (e : DrvCapCache) : ℕ × ℕ := (e.id,e.version)

/-- `struct virtio_gpu_get_capset` on the ring, with the room for the data in its response buffer. -/
structure GetCapset where
  capsetId : ℕ
  capsetVersion : ℕ
  room : ℕ

def GetCapset.key (r : GetCapset) : ℕ × ℕ := (r.capsetId,r.capsetVersion)

/-- The size of `struct virtio_gpu_resp_capset`, which is that of its header. -/
def respCapsetSize : ℕ := 24

/-- `capset_data` in the zeroed response buffer after the host has written its response, of whatever type. The
length that the host reports is not looked at. -/
def capsetData (room : ℕ) (resp : List UInt8) : List UInt8 :=
  (padTo (respCapsetSize+room) resp).drop respCapsetSize

/-- `struct drm_virtgpu_get_caps`. -/
structure GetCaps where
  capSetId : ℕ
  capSetVer : ℕ
  size : ℕ

def GetCaps.key (a : GetCaps) : ℕ × ℕ := (a.capSetId,a.capSetVer)

/-- Where a call of `virtio_gpu_get_caps_ioctl` is: before the look at the cache, before
`virtio_gpu_cmd_get_capset`, in it before the command is queued, at `copy_exit` with its entry, or over, with
what it has copied to the user. -/
inductive CapsPc
  | lookup
  | getCapset (foundValid size : ℕ)
  | send (idx ent size : ℕ)
  | wait (ent size : ℕ)
  | done (ret : ℤ) (copied : List UInt8)

structure CapsCall where
  args : GetCaps
  pc : CapsPc

/-- Whether the allocations of `virtio_gpu_cmd_get_capset` succeed. -/
structure CapsetAllocs where
  ent : Bool
  caps : Bool
  resp : Bool

/-- The driver. `sent` are the capability sets asked for, `refused` those whose command the ring did not take, and
`answered` those that the host has answered, with the bytes of the response. -/
structure CapsetDev where
  capsets : List DrvCapset
  capCache : List DrvCapCache
  inFlight : List GetCapset
  calls : List CapsCall
  sent : List (ℕ × ℕ)
  refused : List (ℕ × ℕ)
  answered : List ((ℕ × ℕ) × List UInt8)
  unplugged : Bool

/-- A call begins, or call `n` takes a step: it looks at the cache, takes its entry, queues the command, which
`virtqueue_add_sgs` takes or not, is woken, or waits for too long. The host answers the command `n`, or the device
is removed. -/
inductive CapsEvent
  | call (args : GetCaps)
  | lookup (n : ℕ)
  | getCapset (n : ℕ) (allocs : CapsetAllocs)
  | send (n : ℕ) (addOk : Bool)
  | answer (n : ℕ) (resp : List UInt8)
  | wake (n : ℕ) (faults : Bool)
  | timeout (n : ℕ)
  | unplug

namespace CapsetDev

def start (capsets : List DrvCapset) : CapsetDev := ⟨capsets,[],[],[],[],[],[],false⟩

/-- The loop over the capability sets. -/
def findValid (s : CapsetDev) (key : ℕ × ℕ) : Option ℕ :=
  s.capsets.findIdx? fun c => c.id = key.1 ∧ c.maxVersion ≥ key.2

/-- The loop over the cache. -/
def findEnt (s : CapsetDev) (key : ℕ × ℕ) : Option ℕ := s.capCache.findIdx? fun e => e.key = key

def setPc (s : CapsetDev) (n : ℕ) (c : CapsCall) (pc : CapsPc) : CapsetDev :=
  { s with calls := s.calls.set n { c with pc := pc } }

/-- `virtio_gpu_get_caps_ioctl` up to the cache. -/
def getCapsIoctl (s : CapsetDev) (args : GetCaps) : CapsPc :=
  if s.capsets.length = 0 then .done (-ENOSYS) []
  else if args.size = 0 then .done (-EINVAL) []
  else
    match s.findValid args.key with
    | none => .done (-EINVAL) []
    | some foundValid =>
      let size := min args.size ((s.capsets[foundValid]?.map DrvCapset.maxSize).getD 0)
      match s.findEnt args.key with
      | some ent => .wait ent size
      | none => .getCapset foundValid size

/-- `virtio_gpu_cmd_get_capset` up to the command, with the size that the ioctl keeps. The size of a set is
an `int` here: from `2^31` on, no memory is found for it. -/
def cmdGetCapset (s : CapsetDev) (idx version size : ℕ) (allocs : CapsetAllocs) : CapsPc × CapsetDev :=
  match s.capsets[idx]? with
  | none => (.done (-EINVAL) [],s)
  | some c =>
    if version > c.maxVersion then (.done (-EINVAL) [],s)
    else if allocs.ent = false then (.done (-ENOMEM) [],s)
    else if allocs.caps = false ∨ 2^31 ≤ c.maxSize then (.done (-ENOMEM) [],s)
    else if allocs.resp = false then (.done (-ENOMEM) [],s)
    else
      match s.findEnt (c.id,version) with
      | some ent => (.wait ent size,s)
      | none =>
        (.send idx s.capCache.length size,
          { s with capCache := s.capCache ++ [⟨[],c.id,version,c.maxSize,false⟩] })

/-- The command of `virtio_gpu_cmd_get_capset`. It is not sent where the device is gone, and the caller is not told
of a command that the ring does not take. -/
def queueGetCapset (s : CapsetDev) (c : DrvCapset) (version : ℕ) (addOk : Bool) : CapsetDev :=
  if s.unplugged then s
  else if addOk = false then { s with refused := s.refused ++ [(c.id,version)] }
  else { s with
    inFlight := s.inFlight ++ [⟨c.id,version,c.maxSize⟩]
    sent := s.sent ++ [(c.id,version)] }

/-- `virtio_gpu_cmd_capset_cb`, with the data of the response buffer. -/
def cmdCapsetCb (s : CapsetDev) (key : ℕ × ℕ) (data : List UInt8) : CapsetDev :=
  match s.findEnt key with
  | none => s
  | some ent =>
    { s with capCache := s.capCache.modify ent fun e =>
        { e with capsCache := data.take e.size, isValid := true } }

/-- An event, if it is possible. -/
def step (s : CapsetDev) : CapsEvent → Option CapsetDev
  | .call args => some { s with calls := s.calls ++ [⟨args,.lookup⟩] }
  | .lookup n =>
    match s.calls[n]? with
    | some ⟨args,.lookup⟩ => some (s.setPc n ⟨args,.lookup⟩ (s.getCapsIoctl args))
    | _ => none
  | .getCapset n allocs =>
    match s.calls[n]? with
    | some ⟨args,.getCapset idx size⟩ =>
      let r := s.cmdGetCapset idx args.capSetVer size allocs
      some (r.2.setPc n ⟨args,.getCapset idx size⟩ r.1)
    | _ => none
  | .send n addOk =>
    match s.calls[n]? with
    | some ⟨args,.send idx ent size⟩ =>
      match s.capsets[idx]? with
      | some c =>
        some ((s.queueGetCapset c args.capSetVer addOk).setPc n ⟨args,.send idx ent size⟩ (.wait ent size))
      | none => none
    | _ => none
  | .answer n resp =>
    match s.inFlight[n]? with
    | some r =>
      if respCapsetSize+r.room < resp.length then none
      else some ({ s with
        inFlight := s.inFlight.eraseIdx n
        answered := s.answered ++ [(r.key,resp)] }.cmdCapsetCb r.key (capsetData r.room resp))
    | none => none
  | .wake n faults =>
    match s.calls[n]? with
    | some ⟨args,.wait ent size⟩ =>
      match s.capCache[ent]? with
      | some e =>
        if e.isValid = false then none
        else if faults then some (s.setPc n ⟨args,.wait ent size⟩ (.done (-EFAULT) []))
        else some (s.setPc n ⟨args,.wait ent size⟩ (.done 0 (e.capsCache.take size)))
      | none => none
    | _ => none
  | .timeout n =>
    match s.calls[n]? with
    | some ⟨args,.wait ent size⟩ =>
      if (s.capCache[ent]?.map DrvCapCache.isValid).getD false then none
      else some (s.setPc n ⟨args,.wait ent size⟩ (.done (-EBUSY) []))
    | _ => none
  | .unplug => some { s with unplugged := true }

abbrev Runs (s : CapsetDev) (es : List CapsEvent) (s' : CapsetDev) : Prop :=
  Transition.Run (fun s e s' => step s e = some s') s es s'

end CapsetDev
end GuestAdditions

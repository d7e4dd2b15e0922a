import GuestAdditions.Kernel.Errno
import GuestAdditions.Library.Holding
import Mathlib.Algebra.Order.Group.Multiset
import Mathlib.Tactic.Abel

/-! The life of the device: `virtio_gpu_probe` with its error paths, what the callbacks of the running device
keep, and `virtio_gpu_remove`. -/
namespace GuestAdditions
open Holding

/-- What the driver takes for the device. A command has its buffer, with the response buffer, until the answer to
it is handled; an output has the EDID that the host gave last, and each capability set that was asked for has an
entry in the cache. -/
inductive ProbeRes
  | drmDev
  | hostVisibleMm
  | guestPoolMm
  | vqs
  | vbufs
  | deviceReady
  | registered
  | vbuf
  | respBuf
  | edid (output : ℕ)
  | capCache
  deriving DecidableEq

/-- The calls that take, use and give back. A buffer is taken from the cache of buffers and given back to it. -/
inductive ProbeEvent
  | drmDevAlloc
  | drmDevPut
  | drmMmInit
  | drmMmTakedown
  | drmBuddyInit
  | drmBuddyFini
  | findVqs
  | delVqs
  | allocVbufs
  | freeVbufs
  | deviceReady
  | resetDevice
  | drmDevRegister
  | drmDevUnplug
  | kmemCacheZalloc
  | getVbuf
  | addSgs
  | getBuf
  | kmemCacheFree
  | freeVbuf
  | respBufAlloc
  | edidRead (output : ℕ)
  | edidFree (output : ℕ)
  | capCacheAdd
  | capCacheFree

def ProbeEvent.effect : ProbeEvent → Effect ProbeRes
  | drmDevAlloc => .takes .drmDev
  | drmDevPut => .ends .drmDev
  | drmMmInit => .takes .hostVisibleMm
  | drmMmTakedown => .ends .hostVisibleMm
  | drmBuddyInit => .takes .guestPoolMm
  | drmBuddyFini => .ends .guestPoolMm
  | findVqs => .takes .vqs
  | delVqs => .ends .vqs
  | allocVbufs => .takes .vbufs
  | freeVbufs => .ends .vbufs
  | deviceReady => .takes .deviceReady
  | resetDevice => .ends .deviceReady
  | drmDevRegister => .takes .registered
  | drmDevUnplug => .ends .registered
  | kmemCacheZalloc | kmemCacheFree => .uses .vbufs
  | getVbuf => .takes .vbuf
  | addSgs | getBuf => .uses .vqs
  | freeVbuf => .ends .vbuf
  | respBufAlloc => .takes .respBuf
  | edidRead output => .takes (.edid output)
  | edidFree output => .ends (.edid output)
  | capCacheAdd => .takes .capCache
  | capCacheFree => .ends .capCache

/-- What happens to the device once it is ready: a command is queued, with the table for its data if it needs one
and with what `virtqueue_add_sgs` makes of it, or a capability set of some size is asked for; the answer to a
command is handled, which may be an EDID for an output, readable or not. -/
inductive RunningEvent
  | command (table addOk : Bool)
  | capset (size : ℕ) (addOk : Bool)
  | answer
  | edid (scanout : ℕ) (readable : Bool)

/-- What the device keeps: the outputs with an EDID, the number of entries in the cache, the commands on the ring
and those that never got there, and the response buffers that nobody knows of any more. -/
structure RunningDev where
  edids : List ℕ
  capCache : ℕ
  inFlight : ℕ
  dropped : ℕ
  respBufs : ℕ

/-- The device as `virtio_device_ready` finds it. -/
def RunningDev.new : RunningDev := ⟨[],0,0,0,0⟩

/-- `virtio_gpu_get_vbuf` and `virtio_gpu_queue_ctrl_buffer`. Without a table the buffer does not get to the ring,
and nobody frees it. -/
def queueCommand (table : Bool) : List ProbeEvent :=
  [.kmemCacheZalloc,.getVbuf] ++ if table then [.addSgs] else []

def RunningDev.queued (dev : RunningDev) (onRing : Bool) : RunningDev :=
  if onRing then { dev with inFlight := dev.inFlight+1 } else { dev with dropped := dev.dropped+1 }

/-- `virtio_gpu_dequeue_ctrl_func` for one buffer. -/
def dequeueCommand (respCb : List ProbeEvent) : List ProbeEvent :=
  [.getBuf] ++ respCb ++ [.kmemCacheFree,.freeVbuf]

/-- The commands, `virtio_gpu_cmd_get_capset`, and the answers, with `virtio_gpu_cmd_get_edid_cb`. The response
buffer for an empty capability set is not larger than the room in the command's own buffer, which is taken instead
of it. -/
def RunningDev.step (numScanouts : ℕ) (dev : RunningDev) : RunningEvent → List ProbeEvent × RunningDev
  | .command table addOk => (queueCommand table,dev.queued (table && addOk))
  | .capset size addOk =>
    let dev := { dev with capCache := dev.capCache+1 }
    if size = 0 then
      ([.capCacheAdd,.respBufAlloc] ++ queueCommand true,{ dev with respBufs := dev.respBufs+1 }.queued addOk)
    else ([.capCacheAdd] ++ queueCommand true,dev.queued addOk)
  | .answer =>
    if dev.inFlight = 0 then ([],dev)
    else (dequeueCommand [],{ dev with inFlight := dev.inFlight-1 })
  | .edid scanout readable =>
    if dev.inFlight = 0 then ([],dev)
    else if scanout ≥ numScanouts then (dequeueCommand [],{ dev with inFlight := dev.inFlight-1 })
    else
      (dequeueCommand ((if readable then [.edidRead scanout] else []) ++
          (if scanout ∈ dev.edids then [.edidFree scanout] else [])),
        { dev with
          edids := (if readable then [scanout] else []) ++ dev.edids.erase scanout
          inFlight := dev.inFlight-1 })

/-- The calls of a run, and what is kept at its end. -/
def RunningDev.run (numScanouts : ℕ) (dev : RunningDev) : List RunningEvent → List ProbeEvent × RunningDev
  | [] => ([],dev)
  | e::es =>
    let r := dev.step numScanouts e
    let r' := r.2.run numScanouts es
    (r.1 ++ r'.1,r'.2)

/-- The parameters of the module and the results of the calls. `shmRegion` says whether the device has the
host-visible region and `regionFree` whether it can be reserved; `poolReady` says whether
`virtio_gpu_guest_pool_init` finds a pool and makes its allocator, and `early` are the commands of
`virtio_gpu_get_capsets` and behind it, with the answers that come until `drm_dev_register`. -/
structure ProbeEnv where
  refused : Bool
  devAlloc : ℤ
  pciQuirk : ℤ
  version1 : Bool
  vgdev : Bool
  shmRegion : Bool
  regionFree : Bool
  poolReady : Bool
  findVqs : ℤ
  vbufs : Bool
  numScanouts : ℕ
  modesetInit : ℤ
  early : List RunningEvent
  register : ℤ

/-- `virtio_gpu_init`: its result, what it has done, and the device, unless `dev_private` is cleared. -/
def virtioGpuInit (env : ProbeEnv) : ℤ × List ProbeEvent × Option RunningDev :=
  if env.version1 = false then (-ENODEV,[],none)
  else if env.vgdev = false then (-ENOMEM,[],none)
  else if env.shmRegion && !env.regionFree then (-EBUSY,[],none)
  else
    let log := (if env.shmRegion then [.drmMmInit] else []) ++ (if env.poolReady then [.drmBuddyInit] else [])
    if env.findVqs ≠ 0 then (env.findVqs,log,none)
    else if env.vbufs = false then (-ENOMEM,log ++ [.findVqs,.delVqs],none)
    else if env.modesetInit ≠ 0 then
      (env.modesetInit,log ++ [.findVqs,.allocVbufs,.freeVbufs,.delVqs],none)
    else
      let r := RunningDev.new.run env.numScanouts env.early
      (0,log ++ [.findVqs,.allocVbufs,.deviceReady] ++ r.1,some r.2)

/-- `virtio_gpu_deinit`. The commands on the ring are not taken off it. -/
def virtioGpuDeinit : List ProbeEvent := [.resetDevice,.delVqs]

/-- `virtio_gpu_release`, which the last reference to the device calls before it goes. -/
def virtioGpuRelease (env : ProbeEnv) : Option RunningDev → List ProbeEvent
  | none => []
  | some dev =>
    ((List.range env.numScanouts).filter fun i => i ∈ dev.edids).map .edidFree ++ [.freeVbufs] ++
      List.replicate dev.capCache .capCacheFree ++ (if env.poolReady then [.drmBuddyFini] else []) ++
      (if env.shmRegion then [.drmMmTakedown] else [])

/-- `drm_dev_put` for the last reference. -/
def drmDevPut (env : ProbeEnv) (devPrivate : Option RunningDev) : List ProbeEvent :=
  virtioGpuRelease env devPrivate ++ [.drmDevPut]

/-- `virtio_gpu_probe`, with the device that runs behind it if there is no error. -/
def virtioGpuProbe (env : ProbeEnv) : ℤ × List ProbeEvent × Option RunningDev :=
  if env.refused then (-EINVAL,[],none)
  else if env.devAlloc ≠ 0 then (env.devAlloc,[],none)
  else if env.pciQuirk ≠ 0 then (env.pciQuirk,[.drmDevAlloc] ++ drmDevPut env none,none)
  else
    let init := virtioGpuInit env
    if init.1 ≠ 0 then (init.1,[.drmDevAlloc] ++ init.2.1 ++ drmDevPut env init.2.2,none)
    else if env.register ≠ 0 then
      (env.register,[.drmDevAlloc] ++ init.2.1 ++ virtioGpuDeinit ++ drmDevPut env init.2.2,none)
    else (0,[.drmDevAlloc] ++ init.2.1 ++ [.drmDevRegister],init.2.2)

/-- `virtio_gpu_remove`. -/
def virtioGpuRemove (env : ProbeEnv) (dev : RunningDev) : List ProbeEvent :=
  [.drmDevUnplug] ++ virtioGpuDeinit ++ drmDevPut env (some dev)

/-- The two allocators that `virtio_gpu_init` makes. -/
def ProbeEnv.pools (env : ProbeEnv) : Multiset ProbeRes :=
  (if env.poolReady then {.guestPoolMm} else 0) + if env.shmRegion then {.hostVisibleMm} else 0

/-- What a running device holds from its probe. -/
def ProbeEnv.running (env : ProbeEnv) : Multiset ProbeRes :=
  {.registered,.deviceReady,.vbufs,.vqs,.drmDev} + env.pools

/-- The probe comes past the allocators. -/
def ProbeEnv.PastPools (env : ProbeEnv) : Prop :=
  env.refused = false ∧ env.devAlloc = 0 ∧ env.pciQuirk = 0 ∧ env.version1 = true ∧ env.vgdev = true ∧
    (env.shmRegion = true → env.regionFree = true)

/-- The probe fails in `virtio_gpu_init`, behind the allocators. -/
def ProbeEnv.FailsLate (env : ProbeEnv) : Prop :=
  env.PastPools ∧ (env.findVqs ≠ 0 ∨ env.vbufs = false ∨ env.modesetInit ≠ 0)

/-- The probe comes past `virtio_device_ready`. -/
def ProbeEnv.GetsReady (env : ProbeEnv) : Prop :=
  env.PastPools ∧ env.findVqs = 0 ∧ env.vbufs = true ∧ env.modesetInit = 0

/-- The device behind the commands of the probe. -/
def ProbeEnv.earlyDev (env : ProbeEnv) : RunningDev := (RunningDev.new.run env.numScanouts env.early).2

namespace RunningDev

/-- What no call of the driver gives back: the buffers of commands without an answer, and the response buffers
for empty capability sets. -/
def forgotten (dev : RunningDev) : Multiset ProbeRes :=
  Multiset.replicate (dev.inFlight+dev.dropped) .vbuf+Multiset.replicate dev.respBufs .respBuf

/-- What the running device holds besides. -/
def kept (dev : RunningDev) : Multiset ProbeRes :=
  (dev.edids.map ProbeRes.edid : Multiset ProbeRes)+(Multiset.replicate dev.capCache .capCache+dev.forgotten)

/-- Each output has one EDID at most. -/
def Ok (numScanouts : ℕ) (dev : RunningDev) : Prop := dev.edids.Nodup ∧ ∀ i ∈ dev.edids, i < numScanouts

end RunningDev

instance (env : ProbeEnv) : Decidable env.PastPools := by
  unfold ProbeEnv.PastPools
  infer_instance

instance (env : ProbeEnv) : Decidable env.FailsLate := by
  unfold ProbeEnv.FailsLate
  infer_instance

instance (env : ProbeEnv) : Decidable env.GetsReady := by
  unfold ProbeEnv.GetsReady
  infer_instance

variable {env : ProbeEnv} {dev : RunningDev} {h : Multiset ProbeRes} {numScanouts : ℕ}

/-- What is held after a log. -/
abbrev probeAfter : List ProbeEvent → Multiset ProbeRes → Option (Multiset ProbeRes) := after ProbeEvent.effect

/-- What a log does with nothing it does with anything besides. -/
theorem after_besides {log : List ProbeEvent} {k : Multiset ProbeRes} (hl : probeAfter log 0 = some k)
    (h : Multiset ProbeRes) : probeAfter log h = some (k+h) := by
  have hadd := after_add hl h
  rwa [Multiset.zero_add] at hadd

/-- A command has a buffer more. -/
theorem after_queue (hv : .vbufs ∈ h) (hq : .vqs ∈ h) (table : Bool) :
    probeAfter (queueCommand table) h = some (.vbuf ::ₘ h) := by
  have hzalloc : ProbeEvent.effect .kmemCacheZalloc = .uses .vbufs := rfl
  have hget : ProbeEvent.effect .getVbuf = .takes .vbuf := rfl
  have hadd : ProbeEvent.effect .addSgs = .uses .vqs := rfl
  rw [queueCommand,List.cons_append,List.singleton_append,probeAfter,after_uses hzalloc hv,after_takes hget]
  cases table with
  | true =>
    rw [if_pos rfl,after_uses hadd (Multiset.mem_cons_of_mem hq)]
    rfl
  | false => rfl

/-- An answer ends the buffer of its command, whatever its callback does besides. -/
theorem after_dequeue (hv : .vbufs ∈ h) (hq : .vqs ∈ h) {cb : List ProbeEvent} {k k' : Multiset ProbeRes}
    (hcb : probeAfter cb k = some k') :
    probeAfter (dequeueCommand cb) (h+(.vbuf ::ₘ k)) = some (h+k') := by
  have hget : ProbeEvent.effect .getBuf = .uses .vqs := rfl
  have hfree : ProbeEvent.effect .kmemCacheFree = .uses .vbufs := rfl
  have hend : ProbeEvent.effect .freeVbuf = .ends .vbuf := rfl
  have hhold : h+(.vbuf ::ₘ k) = k+(.vbuf ::ₘ h) := by
    rw [Multiset.add_cons,Multiset.add_cons,Multiset.add_comm]
  have hmid : probeAfter cb (h+(.vbuf ::ₘ k)) = some (k'+(.vbuf ::ₘ h)) := by
    rw [hhold]
    exact after_add hcb _
  have hthere : ProbeRes.vbufs ∈ k'+(.vbuf ::ₘ h) :=
    Multiset.mem_add.mpr (.inr (Multiset.mem_cons_of_mem hv))
  rw [dequeueCommand,List.append_assoc,List.singleton_append,probeAfter,
    after_uses hget (Multiset.mem_add.mpr (.inl hq)),after_trans hmid,after_uses hfree hthere,
    Multiset.add_cons,after_ends hend,after_nil,Multiset.add_comm]

namespace RunningDev

lemma new_ok (numScanouts : ℕ) : new.Ok numScanouts := ⟨List.nodup_nil,fun _ hi => absurd hi List.not_mem_nil⟩

lemma queued_kept (dev : RunningDev) (onRing : Bool) : (dev.queued onRing).kept = .vbuf ::ₘ dev.kept := by
  have hrepl : Multiset.replicate (dev.inFlight+dev.dropped+1) ProbeRes.vbuf =
      .vbuf ::ₘ Multiset.replicate (dev.inFlight+dev.dropped) .vbuf := Multiset.replicate_succ ..
  cases onRing with
  | true =>
    have hcount : dev.inFlight+1+dev.dropped = dev.inFlight+dev.dropped+1 := by omega
    simp only [queued,if_true,kept,forgotten,hcount,hrepl,Multiset.cons_add,Multiset.add_cons]
  | false =>
    have hcount : dev.inFlight+(dev.dropped+1) = dev.inFlight+dev.dropped+1 := by omega
    simp only [queued,Bool.false_eq_true,if_false,kept,forgotten,hcount,hrepl,Multiset.cons_add,
      Multiset.add_cons]

lemma queued_ok (dev : RunningDev) (hdev : dev.Ok numScanouts) (onRing : Bool) : (dev.queued onRing).Ok numScanouts := by
  cases onRing <;> exact hdev

/-- The buffer of a command on the ring. -/
theorem inFlight_kept (hdev : dev.inFlight ≠ 0) :
    dev.kept = .vbuf ::ₘ { dev with inFlight := dev.inFlight-1 }.kept := by
  have hback : ({ dev with inFlight := dev.inFlight-1 } : RunningDev).queued true = dev := by
    simp only [queued,if_true,Nat.sub_add_cancel (Nat.one_le_iff_ne_zero.mpr hdev)]
  have hkept := queued_kept { dev with inFlight := dev.inFlight-1 } true
  rwa [hback] at hkept

lemma forgotten_eq_zero (dev : RunningDev) :
    dev.forgotten = 0 ↔ dev.inFlight = 0 ∧ dev.dropped = 0 ∧ dev.respBufs = 0 := by
  rw [forgotten,← Multiset.card_eq_zero,Multiset.card_add,Multiset.card_replicate,Multiset.card_replicate]
  omega

end RunningDev

/-- The EDID of an output is replaced. -/
theorem edids_after (edids : List ℕ) (scanout : ℕ) (readable : Bool) (k : Multiset ProbeRes) :
    probeAfter ((if readable then [.edidRead scanout] else []) ++
        (if scanout ∈ edids then [.edidFree scanout] else [])) ((edids.map ProbeRes.edid : Multiset ProbeRes)+k) =
      some ((((if readable then [scanout] else []) ++ edids.erase scanout).map ProbeRes.edid :
        Multiset ProbeRes)+k) := by
  have hread : ProbeEvent.effect (.edidRead scanout) = .takes (.edid scanout) := rfl
  have hfree : ProbeEvent.effect (.edidFree scanout) = .ends (.edid scanout) := rfl
  by_cases hmem : scanout ∈ edids
  · have hold : (edids.map ProbeRes.edid : Multiset ProbeRes) =
        .edid scanout ::ₘ ((edids.erase scanout).map ProbeRes.edid : Multiset ProbeRes) :=
      Multiset.coe_eq_coe.mpr ((List.perm_cons_erase hmem).map ProbeRes.edid)
    rw [if_pos hmem,hold,Multiset.cons_add]
    cases readable with
    | true =>
      change probeAfter [.edidRead scanout,.edidFree scanout] _ = _
      rw [probeAfter,after_takes hread,after_ends hfree,after_nil,← Multiset.cons_add]
      rfl
    | false =>
      change probeAfter [.edidFree scanout] _ = _
      rw [probeAfter,after_ends hfree]
      rfl
  · rw [if_neg hmem,List.erase_of_not_mem hmem,List.append_nil]
    cases readable with
    | true =>
      change probeAfter [.edidRead scanout] _ = _
      rw [probeAfter,after_takes hread,← Multiset.cons_add]
      rfl
    | false => rfl

lemma edids_ok (hdev : dev.Ok numScanouts) {scanout : ℕ} (hs : ¬scanout ≥ numScanouts) (readable : Bool) :
    RunningDev.Ok numScanouts { dev with
      edids := (if readable then [scanout] else []) ++ dev.edids.erase scanout
      inFlight := dev.inFlight-1 } := by
  have herase := hdev.1.erase scanout
  have hless : ∀ i ∈ dev.edids.erase scanout, i < numScanouts := fun i hi => hdev.2 i (List.mem_of_mem_erase hi)
  cases readable with
  | true =>
    refine ⟨List.nodup_cons.mpr ⟨hdev.1.not_mem_erase,herase⟩,fun i hi => ?_⟩
    rcases List.mem_cons.mp hi with rfl | hold
    · exact not_le.mp hs
    · exact hless i hold
  | false => exact ⟨herase,hless⟩

/-- One event, with the cache of buffers and the queues held. -/
theorem step_after (hv : .vbufs ∈ h) (hq : .vqs ∈ h) (hdev : dev.Ok numScanouts) (e : RunningEvent) :
    probeAfter (dev.step numScanouts e).1 (h+dev.kept) = some (h+(dev.step numScanouts e).2.kept) ∧
      (dev.step numScanouts e).2.Ok numScanouts := by
  have hqueue : ∀ (k : Multiset ProbeRes) (table : Bool),
      probeAfter (queueCommand table) (h+k) = some (h+(.vbuf ::ₘ k)) := fun k table => by
    rw [after_queue (Multiset.mem_add.mpr (.inl hv)) (Multiset.mem_add.mpr (.inl hq)),Multiset.add_cons]
  have hplain : dev.inFlight ≠ 0 → probeAfter (dequeueCommand []) (h+dev.kept) =
      some (h+{ dev with inFlight := dev.inFlight-1 }.kept) := fun hflight => by
    rw [RunningDev.inFlight_kept hflight]
    exact after_dequeue hv hq rfl
  have hadd : ProbeEvent.effect .capCacheAdd = .takes .capCache := rfl
  have hresp : ProbeEvent.effect .respBufAlloc = .takes .respBuf := rfl
  cases e with
  | command table addOk =>
    refine ⟨?_,RunningDev.queued_ok dev hdev _⟩
    rw [RunningDev.step,RunningDev.queued_kept]
    exact hqueue _ table
  | capset size addOk =>
    have hcache : ({ dev with capCache := dev.capCache+1 } : RunningDev).kept = .capCache ::ₘ dev.kept := by
      simp only [RunningDev.kept,RunningDev.forgotten,Multiset.replicate_succ,Multiset.cons_add,Multiset.add_cons]
    have hbuf : ({ dev with capCache := dev.capCache+1, respBufs := dev.respBufs+1 } : RunningDev).kept =
        .respBuf ::ₘ .capCache ::ₘ dev.kept := by
      simp only [RunningDev.kept,RunningDev.forgotten,Multiset.replicate_succ,Multiset.cons_add,Multiset.add_cons]
    unfold RunningDev.step
    dsimp only
    split
    · refine ⟨?_,RunningDev.queued_ok { dev with
        capCache := dev.capCache+1, respBufs := dev.respBufs+1 } hdev _⟩
      change probeAfter (.capCacheAdd::.respBufAlloc::queueCommand true) _ = _
      rw [probeAfter,after_takes hadd,after_takes hresp,RunningDev.queued_kept,hbuf,← Multiset.add_cons,
        ← Multiset.add_cons]
      exact hqueue _ true
    · refine ⟨?_,RunningDev.queued_ok { dev with capCache := dev.capCache+1 } hdev _⟩
      change probeAfter (.capCacheAdd::queueCommand true) _ = _
      rw [probeAfter,after_takes hadd,RunningDev.queued_kept,hcache,← Multiset.add_cons]
      exact hqueue _ true
  | answer =>
    unfold RunningDev.step
    dsimp only
    split
    · exact ⟨rfl,hdev⟩
    · rename_i hflight
      exact ⟨hplain hflight,hdev⟩
  | edid scanout readable =>
    unfold RunningDev.step
    dsimp only
    split
    · exact ⟨rfl,hdev⟩
    rename_i hflight
    split
    · exact ⟨hplain hflight,hdev⟩
    rename_i hs
    refine ⟨?_,edids_ok hdev hs readable⟩
    rw [RunningDev.inFlight_kept hflight]
    exact after_dequeue hv hq (edids_after dev.edids scanout readable _)

/-- The device keeps what it has, with what it has got since. -/
theorem run_after (hv : .vbufs ∈ h) (hq : .vqs ∈ h) (hdev : dev.Ok numScanouts) (es : List RunningEvent) :
    probeAfter (dev.run numScanouts es).1 (h+dev.kept) = some (h+(dev.run numScanouts es).2.kept) ∧
      (dev.run numScanouts es).2.Ok numScanouts := by
  induction es generalizing dev with
  | nil => exact ⟨rfl,hdev⟩
  | cons e es ih =>
    have hstep := step_after hv hq hdev e
    obtain ⟨hrun,hok⟩ := ih hstep.2
    refine ⟨?_,hok⟩
    rw [RunningDev.run,probeAfter,after_trans hstep.1]
    exact hrun

lemma earlyDev_ok (env : ProbeEnv) : env.earlyDev.Ok env.numScanouts :=
  (run_after (h := {.vbufs,.vqs}) (by decide) (by decide) (RunningDev.new_ok _) env.early).2

lemma after_pools (env : ProbeEnv) : probeAfter ((if env.shmRegion then [.drmMmInit] else []) ++
    (if env.poolReady then [.drmBuddyInit] else [])) 0 = some env.pools := by
  unfold ProbeEnv.pools
  cases env.shmRegion <;> cases env.poolReady <;> decide

/-- How `virtio_gpu_init` ends: with an error and no device, or with the device behind its first commands. -/
theorem virtioGpuInit_cases (env : ProbeEnv) :
    (∃ ret log, virtioGpuInit env = (ret,log,none) ∧ ret ≠ 0 ∧
      (¬(env.version1 = true ∧ env.vgdev = true ∧ (env.shmRegion = true → env.regionFree = true)) ∧
          probeAfter log 0 = some 0 ∨
        (env.version1 = true ∧ env.vgdev = true ∧ (env.shmRegion = true → env.regionFree = true)) ∧
          (env.findVqs ≠ 0 ∨ env.vbufs = false ∨ env.modesetInit ≠ 0) ∧ probeAfter log 0 = some env.pools)) ∨
    ∃ log, virtioGpuInit env = (0,log,some env.earlyDev) ∧
      (env.version1 = true ∧ env.vgdev = true ∧ (env.shmRegion = true → env.regionFree = true)) ∧
      (env.findVqs = 0 ∧ env.vbufs = true ∧ env.modesetInit = 0) ∧
      probeAfter log 0 = some ({.deviceReady,.vbufs,.vqs}+env.earlyDev.kept+env.pools) := by
  have hpools := after_pools env
  unfold virtioGpuInit
  split
  · rename_i hv
    exact .inl ⟨_,_,rfl,by decide,.inl ⟨fun hp => absurd hp.1 (by simp [hv]),rfl⟩⟩
  rename_i hv
  split
  · rename_i hd
    exact .inl ⟨_,_,rfl,by decide,.inl ⟨fun hp => absurd hp.2.1 (by simp [hd]),rfl⟩⟩
  rename_i hd
  split
  · rename_i hr
    rw [Bool.and_eq_true,Bool.not_eq_true'] at hr
    exact .inl ⟨_,_,rfl,by decide,.inl ⟨fun hp => absurd (hp.2.2 hr.1) (by simp [hr.2]),rfl⟩⟩
  rename_i hr
  have hpast : env.version1 = true ∧ env.vgdev = true ∧ (env.shmRegion = true → env.regionFree = true) := by
    simp only [Bool.and_eq_true,Bool.not_eq_true',not_and,Bool.not_eq_false] at hr
    exact ⟨by simpa using hv,by simpa using hd,hr⟩
  generalize (if env.shmRegion then [ProbeEvent.drmMmInit] else []) ++
    (if env.poolReady then [.drmBuddyInit] else []) = pools at hpools ⊢
  have hundone : ∀ log, probeAfter log 0 = some 0 → probeAfter (pools ++ log) 0 = some env.pools := fun log hl => by
    rw [probeAfter,after_trans hpools]
    exact (after_besides hl _).trans (by rw [Multiset.zero_add])
  dsimp only
  split
  · rename_i hq
    exact .inl ⟨_,_,rfl,hq,.inr ⟨hpast,.inl hq,hpools⟩⟩
  rename_i hq
  split
  · rename_i hb
    exact .inl ⟨_,_,rfl,by decide,.inr ⟨hpast,.inr (.inl hb),hundone _ (by decide)⟩⟩
  rename_i hb
  split
  · rename_i hm
    exact .inl ⟨_,_,rfl,hm,.inr ⟨hpast,.inr (.inr hm),hundone _ (by decide)⟩⟩
  rename_i hm
  refine .inr ⟨_,rfl,hpast,⟨not_not.mp hq,by simpa using hb,not_not.mp hm⟩,?_⟩
  have hready : probeAfter [.findVqs,.allocVbufs,.deviceReady] env.pools =
      some ({.deviceReady,.vbufs,.vqs}+env.pools) := after_besides (by decide) env.pools
  have hrun := (run_after (h := {.deviceReady,.vbufs,.vqs}+env.pools) (Multiset.mem_add.mpr (.inl (by decide)))
    (Multiset.mem_add.mpr (.inl (by decide))) (RunningDev.new_ok env.numScanouts) env.early).1
  have hnew : {.deviceReady,.vbufs,.vqs}+env.pools+RunningDev.new.kept = {.deviceReady,.vbufs,.vqs}+env.pools := by
    simp [RunningDev.new,RunningDev.kept,RunningDev.forgotten]
  rw [hnew] at hrun
  rw [List.append_assoc,probeAfter,after_trans hpools,after_trans hready]
  refine hrun.trans (congrArg some ?_)
  rw [ProbeEnv.earlyDev,Multiset.add_assoc,Multiset.add_assoc,Multiset.add_comm env.pools]

/-- `virtio_gpu_release` gives back what the device has kept, but for what is forgotten. -/
theorem virtioGpuRelease_after (hdev : dev.Ok env.numScanouts) :
    probeAfter (virtioGpuRelease env (some dev)) ({.vbufs}+dev.kept+env.pools) = some dev.forgotten := by
  have hedids : probeAfter (((List.range env.numScanouts).filter fun i => i ∈ dev.edids).map .edidFree)
      (dev.edids.map ProbeRes.edid : Multiset ProbeRes) = some 0 := by
    have hperm : dev.edids.Perm ((List.range env.numScanouts).filter fun i => i ∈ dev.edids) := by
      refine (List.perm_ext_iff_of_nodup hdev.1 (List.nodup_range.filter _)).mpr fun i => ?_
      simp only [List.mem_filter,List.mem_range,decide_eq_true_eq]
      exact ⟨fun hi => ⟨hdev.2 i hi,hi⟩,fun hi => hi.2⟩
    rw [Multiset.coe_eq_coe.mpr (hperm.map ProbeRes.edid)]
    have hfree : ∀ i : ℕ, ProbeEvent.effect (.edidFree i) = .ends (.edid i) := fun _ => rfl
    exact after_ends_map hfree _
  have hcaps : probeAfter (List.replicate dev.capCache .capCacheFree)
      (Multiset.replicate dev.capCache .capCache) = some 0 := by
    have hfree : ∀ _ : Unit, ProbeEvent.effect .capCacheFree = .ends .capCache := fun _ => rfl
    have hends := after_ends_map hfree (List.replicate dev.capCache ())
    rwa [List.map_replicate,List.map_replicate,Multiset.coe_replicate] at hends
  have hpools : probeAfter ((if env.poolReady then [.drmBuddyFini] else []) ++
      (if env.shmRegion then [.drmMmTakedown] else [])) env.pools = some 0 := by
    unfold ProbeEnv.pools
    cases env.shmRegion <;> cases env.poolReady <;> decide
  have hvbufs : probeAfter [.freeVbufs] {.vbufs} = some 0 := by decide
  have hall := after_add (after_par (after_par (after_par hedids hvbufs) hcaps) hpools) dev.forgotten
  have hheld : {.vbufs}+dev.kept+env.pools = (dev.edids.map ProbeRes.edid : Multiset ProbeRes)+{.vbufs}+
      Multiset.replicate dev.capCache .capCache+env.pools+dev.forgotten := by
    rw [RunningDev.kept]
    abel
  rw [hheld,virtioGpuRelease,List.append_assoc _ (if env.poolReady then _ else _)]
  refine hall.trans (congrArg some ?_)
  simp only [Multiset.zero_add]

/-- The end of a device that was ready. -/
theorem deinit_after (hdev : dev.Ok env.numScanouts) :
    probeAfter (virtioGpuDeinit ++ drmDevPut env (some dev))
      ({.deviceReady,.vbufs,.vqs,.drmDev}+dev.kept+env.pools) = some dev.forgotten := by
  have hdeinit : probeAfter virtioGpuDeinit {.deviceReady,.vqs} = some 0 := by decide
  have hput : probeAfter [.drmDevPut] {.drmDev} = some 0 := by decide
  have hall := after_par (after_par hdeinit (virtioGpuRelease_after hdev)) hput
  have hheld : {.deviceReady,.vbufs,.vqs,.drmDev}+dev.kept+env.pools =
      {.deviceReady,.vqs}+({.vbufs}+dev.kept+env.pools)+({.drmDev} : Multiset ProbeRes) := by
    simp only [Multiset.insert_eq_cons,← Multiset.singleton_add]
    abel
  rw [hheld,drmDevPut,← List.append_assoc]
  refine hall.trans (congrArg some ?_)
  rw [Multiset.zero_add,Multiset.add_zero]

/-- What `virtio_gpu_probe` leaves. -/
theorem virtioGpuProbe_after (env : ProbeEnv) :
    ((virtioGpuProbe env).1 ≠ 0 → probeAfter (virtioGpuProbe env).2.1 0 =
        some (if env.FailsLate then env.pools else if env.GetsReady then env.earlyDev.forgotten else 0)) ∧
      ((virtioGpuProbe env).1 = 0 → (virtioGpuProbe env).2.2 = some env.earlyDev ∧
        probeAfter (virtioGpuProbe env).2.1 0 = some (env.running+env.earlyDev.kept)) := by
  have halloc : probeAfter [.drmDevAlloc] 0 = some {.drmDev} := by decide
  have hput : probeAfter [.drmDevPut] {.drmDev} = some 0 := by decide
  have hearly : ¬env.PastPools → (if env.FailsLate then env.pools
      else if env.GetsReady then env.earlyDev.forgotten else 0) = 0 := fun hp => by
    rw [if_neg fun hl => hp hl.1,if_neg fun hl => hp hl.1]
  unfold virtioGpuProbe
  split
  · rename_i hr
    refine ⟨fun _ => ?_,fun h0 => by cases h0⟩
    rw [hearly fun hp => by rw [hp.1] at hr; cases hr]
    rfl
  rename_i hr
  split
  · rename_i ha
    refine ⟨fun _ => ?_,fun h0 => absurd h0 ha⟩
    rw [hearly fun hp => ha hp.2.1]
    rfl
  rename_i ha
  split
  · rename_i hq
    refine ⟨fun _ => ?_,fun h0 => absurd h0 hq⟩
    rw [hearly fun hp => hq hp.2.2.1,probeAfter,after_trans halloc]
    exact hput
  rename_i hq
  have hfirst : env.refused = false ∧ env.devAlloc = 0 ∧ env.pciQuirk = 0 :=
    ⟨by simpa using hr,not_not.mp ha,not_not.mp hq⟩
  rcases virtioGpuInit_cases env with ⟨ret,log,hinit,hret,hleft⟩ | ⟨log,hinit,hpast,hfine,hlog⟩
  · rw [hinit]
    dsimp only
    rw [if_pos hret]
    refine ⟨fun _ => ?_,fun h0 => absurd h0 hret⟩
    have hboth : ∀ k, probeAfter log 0 = some k →
        probeAfter ([.drmDevAlloc] ++ log ++ drmDevPut env none) 0 = some k := fun k hl => by
      rw [probeAfter,after_trans ((after_trans halloc).trans (after_besides hl {.drmDev})),Multiset.add_comm]
      exact (after_add hput _).trans (by rw [Multiset.zero_add])
    rcases hleft with ⟨hnot,hl⟩ | ⟨hpast,hlate,hl⟩
    · rw [hearly fun hp => hnot hp.2.2.2]
      exact hboth 0 hl
    · rw [if_pos ⟨⟨hfirst.1,hfirst.2.1,hfirst.2.2,hpast⟩,hlate⟩]
      exact hboth _ hl
  rw [hinit]
  dsimp only
  rw [if_neg (not_not.mpr rfl)]
  have hboth := (after_trans halloc).trans (after_besides hlog {.drmDev})
  split
  · rename_i hreg
    refine ⟨fun _ => ?_,fun h0 => absurd h0 hreg⟩
    have hnot : ¬env.FailsLate := by
      rintro ⟨-,hq | hb | hm⟩
      · exact hq hfine.1
      · rw [hfine.2.1] at hb
        cases hb
      · exact hm hfine.2.2
    rw [if_neg hnot,if_pos ⟨⟨hfirst.1,hfirst.2.1,hfirst.2.2,hpast⟩,hfine⟩,List.append_assoc,probeAfter,
      after_trans hboth]
    have hheld : {.deviceReady,.vbufs,.vqs}+env.earlyDev.kept+env.pools+({.drmDev} : Multiset ProbeRes) =
        {.deviceReady,.vbufs,.vqs,.drmDev}+env.earlyDev.kept+env.pools := by
      simp only [Multiset.insert_eq_cons,← Multiset.singleton_add]
      abel
    rw [hheld]
    exact deinit_after (earlyDev_ok env)
  · refine ⟨fun h0 => absurd rfl h0,fun _ => ⟨rfl,?_⟩⟩
    have hregister : probeAfter [.drmDevRegister] 0 = some {.registered} := by decide
    have hheld : {.registered}+({.deviceReady,.vbufs,.vqs}+env.earlyDev.kept+env.pools+
        ({.drmDev} : Multiset ProbeRes)) = env.running+env.earlyDev.kept := by
      simp only [ProbeEnv.running,Multiset.insert_eq_cons,← Multiset.singleton_add]
      abel
    rw [probeAfter,after_trans hboth,← hheld]
    exact after_besides hregister _

end GuestAdditions

import GuestAdditions.Kernel.Errno
import GuestAdditions.Library.Pairing
import Mathlib.Data.Nat.Bitwise

/-! One open file of the render node: its GEM handles, its rendering context, and the commands about
that context. The context is created by an explicit ioctl or on the first use that needs it. -/
namespace GuestAdditions

abbrev MAX_CAPSET_ID : ℕ := 63
abbrev MAX_RINGS : ℕ := 64
abbrev VIRTIO_GPU_CONTEXT_INIT_CAPSET_ID_MASK : ℕ := 0xff

/-- The features of `struct virtio_gpu_device` that the file operations read. -/
structure RenderDev where
  hasVirgl3d : Bool
  hasContextInit : Bool
  capsetIdMask : ℕ

/-- `struct virtio_gpu_fpriv`, less the name of the context. -/
structure FilePriv where
  ctxId : ℕ
  contextInit : ℕ
  contextCreated : Bool
  numRings : ℕ
  baseFenceCtx : Bool
  ringIdxMask : ℕ
  explicitDebugName : Bool

/-- The commands about a context, and the resources they name. -/
inductive CtxCmd
  | create (ctx contextInit : ℕ)
  | attachResource (ctx res : ℕ)
  | detachResource (ctx res : ℕ)
  | destroy (ctx : ℕ)
  deriving DecidableEq

/-- A parameter of `VIRTGPU_CONTEXT_INIT`. For a name, what `strncpy_from_user` returns. -/
inductive ContextParam
  | capsetId (value : ℕ)
  | numRings (value : ℕ)
  | pollRingsMask (value : ℕ)
  | debugName (copied : ℤ)
  | unknown

/-- An open file: its private data, the resource of every open handle, the commands sent, the newest
first, and whether it is still open. -/
structure RenderFile where
  priv : FilePriv
  handles : List ℕ
  cmds : List CtxCmd
  isOpen : Bool

/-- `virtio_gpu_driver_open`, with the context id that it took. -/
def RenderFile.driverOpen (ctxId : ℕ) : RenderFile :=
  ⟨⟨ctxId,0,false,0,false,0,false⟩,[],[],true⟩

namespace FilePriv

/-- One turn of the parameter loop of `virtio_gpu_context_init_ioctl`. -/
def setParam (dev : RenderDev) (v : FilePriv) : ContextParam → ℤ × FilePriv
  | .capsetId value =>
    if value > MAX_CAPSET_ID then (-EINVAL,v)
    else if dev.capsetIdMask.testBit value = false then (-EINVAL,v)
    else if v.contextInit &&& VIRTIO_GPU_CONTEXT_INIT_CAPSET_ID_MASK ≠ 0 then (-EINVAL,v)
    else (0,{ v with contextInit := v.contextInit ||| value })
  | .numRings value =>
    if v.baseFenceCtx then (-EINVAL,v)
    else if value > MAX_RINGS then (-EINVAL,v)
    else (0,{ v with baseFenceCtx := true, numRings := value })
  | .pollRingsMask value =>
    if v.ringIdxMask ≠ 0 then (-EINVAL,v) else (0,{ v with ringIdxMask := value })
  | .debugName copied =>
    if v.explicitDebugName then (-EINVAL,v)
    else if copied < 0 then (copied,v)
    else (0,{ v with explicitDebugName := true })
  | .unknown => (-EINVAL,v)

/-- The parameter loop. -/
def setParams (dev : RenderDev) : FilePriv → List ContextParam → ℤ × FilePriv
  | v, [] => (0,v)
  | v, p::ps =>
    let r := v.setParam dev p
    if r.1 ≠ 0 then r else setParams dev r.2 ps

/-- The rings that a context has. -/
def validRingMask (v : FilePriv) : ℕ := (List.range v.numRings).foldl (fun m i => m ||| 1 <<< i) 0

/-- The polled rings are rings of the context. -/
def ringsOk (v : FilePriv) : Bool := (2^64-1 ^^^ v.validRingMask) &&& v.ringIdxMask = 0

end FilePriv

namespace RenderFile
variable (dev : RenderDev)

/-- `virtio_gpu_queue_ctrl_buffer` for a command of this file. -/
def queue (f : RenderFile) (cmd : CtxCmd) : RenderFile := { f with cmds := cmd::f.cmds }

def createContextLocked (f : RenderFile) : RenderFile :=
  { f.queue (.create f.priv.ctxId f.priv.contextInit) with
    priv := { f.priv with contextCreated := true } }

def createContext (f : RenderFile) : RenderFile :=
  if f.priv.contextCreated then f else f.createContextLocked

/-- `virtio_gpu_context_init_ioctl`. `copyErr` is the error of `memdup_user`, or 0. -/
def contextInitIoctl (f : RenderFile) (params : List ContextParam) (copyErr : ℤ) :
    ℤ × RenderFile :=
  if !dev.hasContextInit || !dev.hasVirgl3d then (-EINVAL,f)
  else if params.length > 4 then (-EINVAL,f)
  else if copyErr ≠ 0 then (copyErr,f)
  else if f.priv.contextCreated then (-EEXIST,f)
  else
    let r := f.priv.setParams dev params
    let f := { f with priv := r.2 }
    if r.1 ≠ 0 then (r.1,f)
    else if r.2.ringIdxMask ≠ 0 && !r.2.ringsOk then (-EINVAL,f)
    else (0,f.createContextLocked)

/-- `virtio_gpu_gem_object_open`, with the array allocated. -/
def gemObjectOpen (f : RenderFile) (res : ℕ) : RenderFile :=
  if !dev.hasVirgl3d then f
  else
    let f := if !dev.hasContextInit then f.createContext else f
    if f.priv.contextCreated then f.queue (.attachResource f.priv.ctxId res) else f

/-- `virtio_gpu_gem_object_close`, with the array allocated. -/
def gemObjectClose (f : RenderFile) (res : ℕ) : RenderFile :=
  if !dev.hasVirgl3d then f
  else if !f.priv.contextCreated then f
  else f.queue (.detachResource f.priv.ctxId res)

/-- `virtio_gpu_driver_postclose`. -/
def driverPostclose (f : RenderFile) : RenderFile :=
  if !dev.hasVirgl3d then f
  else if f.priv.contextCreated then f.queue (.destroy f.priv.ctxId) else f

end RenderFile

/-- What happens on a file. `use` is any ioctl that creates the context if it is missing. -/
inductive FileEvent
  | gemOpen (res : ℕ)
  | gemClose (res : ℕ)
  | use
  | contextInit (params : List ContextParam) (copyErr : ℤ)
  | close

namespace RenderFile
variable (dev : RenderDev)

/-- The effect of an event. A handle that is not there cannot be closed, and nothing happens on a file
that is closed. When a file is closed, its remaining handles are closed first. -/
def step (f : RenderFile) (e : FileEvent) : RenderFile :=
  if !f.isOpen then f
  else match e with
    | .gemOpen res => { f.gemObjectOpen dev res with handles := f.handles ++ [res] }
    | .gemClose res =>
      if res ∈ f.handles then { f.gemObjectClose dev res with handles := f.handles.erase res } else f
    | .use => if dev.hasVirgl3d then f.createContext else f
    | .contextInit params copyErr => (f.contextInitIoctl dev params copyErr).2
    | .close =>
      { (f.handles.foldl (gemObjectClose dev) f).driverPostclose dev with
        handles := [], isOpen := false }

def run (f : RenderFile) (es : List FileEvent) : RenderFile := es.foldl (step dev) f

/-- The handles that were open when the events created the context. -/
def earlyHandles (f : RenderFile) : List FileEvent → List ℕ
  | [] => []
  | e::es =>
    let g := f.step dev e
    (if !f.priv.contextCreated && g.priv.contextCreated then f.handles else []) ++ earlyHandles g es

end RenderFile

namespace CtxCmd

/-- The context and the resource that a command attaches. -/
def attached : CtxCmd → Option (ℕ × ℕ)
  | attachResource ctx res => some (ctx,res)
  | create _ _ | detachResource _ _ | destroy _ => none

/-- The context and the resource that a command detaches. -/
def detached : CtxCmd → Option (ℕ × ℕ)
  | detachResource ctx res => some (ctx,res)
  | create _ _ | attachResource _ _ | destroy _ => none

/-- Every detach has an attach of its own before it. -/
abbrev DetachesMatched : List CtxCmd → Prop := Pairing.Matched attached detached

/-- The context was created and not destroyed. -/
def Live (ctx : ℕ) (log : List CtxCmd) : Prop :=
  (∃ contextInit, create ctx contextInit ∈ log) ∧ destroy ctx ∉ log

/-- What is attached and detached is about a live context. -/
def Framed : List CtxCmd → Prop
  | [] => True
  | attachResource ctx _::log | detachResource ctx _::log => Live ctx log ∧ Framed log
  | create _ _::log | destroy _::log => Framed log

variable {ctx res r : ℕ} {log : List CtxCmd}

lemma times_attach : Pairing.times attached (ctx,r) (attachResource ctx res::log) =
    Pairing.times attached (ctx,r) log + [res].count r := by
  by_cases hr : res = r
  · rw [hr,List.count_singleton_self]
    exact Pairing.times_cons_self rfl
  · rw [Pairing.times_cons_ne (by simp [attached,hr]),List.count_singleton]
    simp [hr]

lemma times_detach : Pairing.times detached (ctx,r) (detachResource ctx res::log) =
    Pairing.times detached (ctx,r) log + [res].count r := by
  by_cases hr : res = r
  · rw [hr,List.count_singleton_self]
    exact Pairing.times_cons_self rfl
  · rw [Pairing.times_cons_ne (by simp [detached,hr]),List.count_singleton]
    simp [hr]

end CtxCmd

namespace RenderFile
open CtxCmd
variable {dev : RenderDev} {f : RenderFile}

/-- The handles that were open when a change of the file created the context. -/
def created (f g : RenderFile) : List ℕ :=
  if !f.priv.contextCreated && g.priv.contextCreated then f.handles else []

/-- The invariant of a file, where `early` are the handles that were open when the context was
created and `held` those that are still to be closed: attaches and early handles together make up for
detaches and held handles. -/
structure Paired (dev : RenderDev) (early held : List ℕ) (f : RenderFile) : Prop where
  virgl : f.priv.contextCreated = true → dev.hasVirgl3d = true
  framed : Framed f.cmds
  created : f.priv.contextCreated = true → ∃ c, create f.priv.ctxId c ∈ f.cmds
  undestroyed : f.isOpen = true → destroy f.priv.ctxId ∉ f.cmds
  balanced : f.priv.contextCreated = true → ∀ res,
    Pairing.times attached (f.priv.ctxId,res) f.cmds + early.count res =
      Pairing.times detached (f.priv.ctxId,res) f.cmds + held.count res
  nothing : f.priv.contextCreated = false → f.cmds = [] ∧ early = []
  matched : early = [] → DetachesMatched f.cmds

lemma driverOpen_paired (ctxId : ℕ) : Paired dev [] [] (driverOpen ctxId) where
  virgl h := nomatch h
  framed := trivial
  created h := nomatch h
  undestroyed _ := List.not_mem_nil
  balanced h := nomatch h
  nothing _ := ⟨rfl,rfl⟩
  matched _ := trivial

namespace Paired
variable {early held : List ℕ}

/-- Setting parameters does not touch what the invariant is about. -/
theorem params (h : Paired dev early held f) {v : FilePriv} (hid : v.ctxId = f.priv.ctxId)
    (hcreated : v.contextCreated = f.priv.contextCreated) :
    Paired dev early held { f with priv := v } where
  virgl hc := h.virgl (hcreated ▸ hc)
  framed := h.framed
  created hc := hid ▸ h.created (hcreated ▸ hc)
  undestroyed ho := hid ▸ h.undestroyed ho
  balanced hc := hid ▸ h.balanced (hcreated ▸ hc)
  nothing hc := h.nothing (hcreated ▸ hc)
  matched := h.matched

/-- The handles that are open when the context is created become early handles. -/
theorem createContextLocked (h : Paired dev early held f) (hv : dev.hasVirgl3d = true)
    (hc : f.priv.contextCreated = false) : Paired dev held held f.createContextLocked := by
  obtain ⟨hcmds,-⟩ := h.nothing hc
  have hone : f.createContextLocked.cmds = [create f.priv.ctxId f.priv.contextInit] := by
    simp [RenderFile.createContextLocked,queue,hcmds]
  refine ⟨fun _ => hv,?_,fun _ => ⟨f.priv.contextInit,?_⟩,fun _ => ?_,fun _ res => ?_,nofun,
    fun _ => ?_⟩
  · rw [hone]
    exact trivial
  · rw [hone]
    exact List.mem_singleton_self _
  · rw [hone]
    exact fun hm => nomatch List.mem_singleton.mp hm
  · rw [hone]
    rfl
  · rw [hone]
    exact ⟨nofun,trivial⟩

/-- A handle that is opened after the context is attached to it. -/
theorem attach (h : Paired dev early held f) (hc : f.priv.contextCreated = true)
    (ho : f.isOpen = true) (res : ℕ) :
    Paired dev early (held ++ [res]) (f.queue (.attachResource f.priv.ctxId res)) where
  virgl := h.virgl
  framed := ⟨⟨h.created hc,h.undestroyed ho⟩,h.framed⟩
  created _ := (h.created hc).imp fun _ => List.mem_cons_of_mem _
  undestroyed _ hm := by
    cases hm with
    | tail _ hm => exact h.undestroyed ho hm
  balanced _ r := by
    have hb := h.balanced hc r
    have hd : Pairing.times detached (f.priv.ctxId,r)
        (attachResource f.priv.ctxId res::f.cmds) = _ := Pairing.times_cons_ne nofun
    dsimp only [queue]
    rw [hd,times_attach,List.count_append]
    omega
  nothing hn := nomatch hc.symm.trans hn
  matched he := (h.matched he).cons rfl

/-- A handle that is closed while the context is there is detached from it. -/
theorem detach {res : ℕ} (h : Paired dev early (res::held) f) (hc : f.priv.contextCreated = true)
    (ho : f.isOpen = true) :
    Paired dev early held (f.queue (.detachResource f.priv.ctxId res)) where
  virgl := h.virgl
  framed := ⟨⟨h.created hc,h.undestroyed ho⟩,h.framed⟩
  created _ := (h.created hc).imp fun _ => List.mem_cons_of_mem _
  undestroyed _ hm := by
    cases hm with
    | tail _ hm => exact h.undestroyed ho hm
  balanced _ r := by
    have hb := h.balanced hc r
    have ha : Pairing.times attached (f.priv.ctxId,r)
        (detachResource f.priv.ctxId res::f.cmds) = _ := Pairing.times_cons_ne nofun
    dsimp only [queue]
    rw [← List.singleton_append,List.count_append] at hb
    rw [ha,times_detach]
    omega
  nothing hn := nomatch hc.symm.trans hn
  matched he := by
    refine ⟨?_,h.matched he⟩
    intro k hk
    cases hk
    have hb := h.balanced hc res
    rw [he,List.count_nil,List.count_cons_self] at hb
    omega

/-- Without a context the handles are free to change. -/
theorem handles (h : Paired dev early held f) (hc : f.priv.contextCreated = false)
    (held' : List ℕ) : Paired dev early held' f where
  virgl := h.virgl
  framed := h.framed
  created := h.created
  undestroyed := h.undestroyed
  balanced hn := nomatch hc.symm.trans hn
  nothing := h.nothing
  matched := h.matched

lemma driverPostclose (h : Paired dev early [] f) :
    Paired dev early [] { f.driverPostclose dev with handles := [], isOpen := false } := by
  unfold RenderFile.driverPostclose
  split
  · exact ⟨h.virgl,h.framed,h.created,nofun,h.balanced,h.nothing,h.matched⟩
  split
  case isTrue hc =>
    refine ⟨h.virgl,h.framed,fun _ => (h.created hc).imp fun _ => List.mem_cons_of_mem _,nofun,
      fun _ res => ?_,fun hn => ?_,fun he => (h.matched he).cons rfl⟩
    · have ha : Pairing.times attached (f.priv.ctxId,res) (destroy f.priv.ctxId::f.cmds) = _ :=
        Pairing.times_cons_ne nofun
      have hd : Pairing.times detached (f.priv.ctxId,res) (destroy f.priv.ctxId::f.cmds) = _ :=
        Pairing.times_cons_ne nofun
      dsimp only [queue]
      rw [ha,hd]
      exact h.balanced hc res
    · exact nomatch hc.symm.trans hn
  · exact ⟨h.virgl,h.framed,h.created,nofun,h.balanced,h.nothing,h.matched⟩

end Paired

lemma created_of_created {g : RenderFile} (hc : f.priv.contextCreated = true) :
    f.created g = [] := by
  simp [created,hc]

lemma created_of_same {g : RenderFile} (h : g.priv.contextCreated = f.priv.contextCreated) :
    f.created g = [] := by
  simp [created,h]

section Steps
variable {early held : List ℕ}

lemma createContext_paired (h : Paired dev early f.handles f) (hv : dev.hasVirgl3d = true) :
    Paired dev (early ++ f.created f.createContext) f.handles f.createContext := by
  unfold createContext
  by_cases hc : f.priv.contextCreated = true
  · rw [if_pos hc,created_of_created hc,List.append_nil]
    exact h
  · rw [if_neg hc]
    have hc' := Bool.eq_false_of_not_eq_true hc
    rw [(h.nothing hc').2,List.nil_append]
    rw [show f.created f.createContextLocked = f.handles by simp [created,createContextLocked,hc']]
    exact h.createContextLocked hv hc'

lemma setParam_keeps (dev : RenderDev) (v : FilePriv) (p : ContextParam) :
    (v.setParam dev p).2.ctxId = v.ctxId ∧
      (v.setParam dev p).2.contextCreated = v.contextCreated := by
  cases p <;> unfold FilePriv.setParam <;> dsimp only <;> (repeat' split) <;> exact ⟨rfl,rfl⟩

lemma setParams_keeps (dev : RenderDev) (v : FilePriv) (ps : List ContextParam) :
    (v.setParams dev ps).2.ctxId = v.ctxId ∧
      (v.setParams dev ps).2.contextCreated = v.contextCreated := by
  induction ps generalizing v with
  | nil => exact ⟨rfl,rfl⟩
  | cons p ps ih =>
    have hp := setParam_keeps dev v p
    unfold FilePriv.setParams
    dsimp only
    split
    · exact hp
    · exact ⟨(ih _).1.trans hp.1,(ih _).2.trans hp.2⟩

lemma contextInitIoctl_paired (h : Paired dev early f.handles f) (params : List ContextParam)
    (copyErr : ℤ) :
    Paired dev (early ++ f.created (f.contextInitIoctl dev params copyErr).2) f.handles
      (f.contextInitIoctl dev params copyErr).2 := by
  have hsame : Paired dev (early ++ f.created f) f.handles f := by
    rw [created_of_same rfl,List.append_nil]
    exact h
  have hkeep := setParams_keeps dev f.priv params
  have hset := h.params hkeep.1 hkeep.2
  have hsetsame : Paired dev (early ++ f.created { f with priv := (f.priv.setParams dev params).2 })
      f.handles { f with priv := (f.priv.setParams dev params).2 } := by
    rw [created_of_same hkeep.2,List.append_nil]
    exact hset
  unfold contextInitIoctl
  dsimp only
  split
  · exact hsame
  case isFalse hdev =>
  split
  · exact hsame
  split
  · exact hsame
  split
  · exact hsame
  case isFalse hc =>
  split
  · exact hsetsame
  split
  · exact hsetsame
  · have hc' := Bool.eq_false_of_not_eq_true hc
    have hv : dev.hasVirgl3d = true := by
      simp only [Bool.or_eq_true,Bool.not_eq_true',not_or,Bool.not_eq_false] at hdev
      exact hdev.2
    rw [(h.nothing hc').2,List.nil_append]
    rw [show f.created _ = f.handles by simp [created,createContextLocked,hc']]
    exact hset.createContextLocked hv (hkeep.2.trans hc')

/-- Without a 3D renderer there is no context. -/
theorem Paired.uncreated (h : Paired dev early held f) (hv : (!dev.hasVirgl3d) = true) :
    f.priv.contextCreated = false := by
  by_contra hc
  simp [h.virgl (by simpa using hc)] at hv

lemma gemObjectOpen_paired (h : Paired dev early f.handles f) (ho : f.isOpen = true) (res : ℕ) :
    Paired dev (early ++ f.created (f.gemObjectOpen dev res)) (f.handles ++ [res])
      (f.gemObjectOpen dev res) := by
  unfold gemObjectOpen
  split
  case isTrue hv =>
    rw [created_of_same rfl,List.append_nil]
    exact h.handles (h.uncreated hv) _
  case isFalse hv =>
  let g := if !dev.hasContextInit then f.createContext else f
  have hg : Paired dev (early ++ f.created g) f.handles g ∧ g.isOpen = true := by
    dsimp only [g]
    split
    · refine ⟨createContext_paired h (by simpa using hv),?_⟩
      unfold createContext
      split <;> exact ho
    · rw [created_of_same rfl,List.append_nil]
      exact ⟨h,ho⟩
  change Paired dev (early ++ f.created (if g.priv.contextCreated then _ else g)) _
    (if g.priv.contextCreated then _ else g)
  split
  case isTrue hc => exact hg.1.attach hc hg.2 res
  case isFalse hc => exact hg.1.handles (by simpa using hc) _

lemma gemObjectClose_paired {res : ℕ} (h : Paired dev early (res::held) f)
    (ho : f.isOpen = true) : Paired dev early held (f.gemObjectClose dev res) ∧
      (f.gemObjectClose dev res).isOpen = true := by
  unfold gemObjectClose
  split
  case isTrue hv => exact ⟨h.handles (h.uncreated hv) held,ho⟩
  split
  case isTrue hc => exact ⟨h.handles (by simpa using hc) held,ho⟩
  case isFalse hc => exact ⟨h.detach (by simpa using hc) ho,ho⟩

/-- Closing every handle leaves none to close. -/
theorem closeAll_paired (h : Paired dev early held f) (ho : f.isOpen = true) :
    Paired dev early [] (held.foldl (gemObjectClose dev) f) := by
  induction held generalizing f with
  | nil => exact h
  | cons res held ih =>
    have hone := gemObjectClose_paired h ho
    exact ih hone.1 hone.2

lemma gemObjectClose_priv (res : ℕ) : (f.gemObjectClose dev res).priv = f.priv := by
  unfold gemObjectClose
  split
  · rfl
  split <;> rfl

lemma closeAll_priv : (held.foldl (gemObjectClose dev) f).priv = f.priv := by
  induction held generalizing f with
  | nil => rfl
  | cons res held ih => exact ih.trans (gemObjectClose_priv res)

lemma driverPostclose_priv : (f.driverPostclose dev).priv = f.priv := by
  unfold driverPostclose
  split
  · rfl
  split <;> rfl

lemma createContext_handles : f.createContext.handles = f.handles := by
  unfold createContext
  split <;> rfl

lemma contextInitIoctl_handles (params : List ContextParam) (copyErr : ℤ) :
    (f.contextInitIoctl dev params copyErr).2.handles = f.handles := by
  unfold contextInitIoctl
  dsimp only
  repeat' split
  all_goals rfl

/-- The order in which handles are held does not matter. -/
theorem Paired.perm (h : Paired dev early held f) {held' : List ℕ} (hp : held.Perm held') :
    Paired dev early held' f :=
  ⟨h.virgl,h.framed,h.created,h.undestroyed,fun hc r => (h.balanced hc r).trans
    (congrArg _ (hp.count_eq r)),h.nothing,h.matched⟩

/-- What the handle table is does not matter to the invariant, only which handles are held. -/
theorem Paired.table (h : Paired dev early held f) (table : List ℕ) :
    Paired dev early held { f with handles := table } :=
  ⟨h.virgl,h.framed,h.created,h.undestroyed,h.balanced,h.nothing,h.matched⟩

/-- An event keeps the invariant, with the handles that it turns into early ones. -/
theorem step_paired (h : Paired dev early f.handles f) (e : FileEvent) :
    Paired dev (early ++ f.created (f.step dev e)) (f.step dev e).handles (f.step dev e) := by
  unfold step
  split
  · rw [created_of_same rfl,List.append_nil]
    exact h
  case isFalse ho =>
  have ho : f.isOpen = true := by simpa using ho
  cases e with
  | gemOpen res => exact (gemObjectOpen_paired h ho res).table _
  | gemClose res =>
    dsimp only
    split
    case isTrue hmem =>
      have hone := (gemObjectClose_paired (h.perm (List.perm_cons_erase hmem)) ho).1
      rw [created_of_same,List.append_nil]
      · exact hone.table _
      · exact congrArg _ (gemObjectClose_priv res)
    case isFalse =>
      rw [created_of_same rfl,List.append_nil]
      exact h
  | use =>
    dsimp only
    split
    case isTrue hv =>
      have hctx := createContext_paired h hv
      rw [createContext_handles]
      exact hctx
    case isFalse =>
      rw [created_of_same rfl,List.append_nil]
      exact h
  | contextInit params copyErr =>
    have hctx := contextInitIoctl_paired h params copyErr
    dsimp only
    rw [contextInitIoctl_handles]
    exact hctx
  | close =>
    rw [created_of_same,List.append_nil]
    · exact (closeAll_paired h ho).driverPostclose
    · exact congrArg _ (driverPostclose_priv.trans closeAll_priv)

/-- A run keeps the invariant, with the handles that it turns into early ones. -/
theorem run_paired (h : Paired dev early f.handles f) (es : List FileEvent) :
    Paired dev (early ++ f.earlyHandles dev es) (f.run dev es).handles (f.run dev es) := by
  induction es generalizing early f with
  | nil =>
    rw [earlyHandles,List.append_nil]
    exact h
  | cons e es ih =>
    have hstep := ih (step_paired h e)
    rw [List.append_assoc] at hstep
    exact hstep

/-- Only closing the file closes it. -/
theorem step_isOpen (ho : f.isOpen = true) {e : FileEvent} (ne : e ≠ .close) :
    (f.step dev e).isOpen = true := by
  unfold step
  rw [if_neg (by simp [ho])]
  cases e with
  | gemOpen res =>
    dsimp only [gemObjectOpen,createContext]
    repeat' split
    all_goals exact ho
  | gemClose res =>
    dsimp only [gemObjectClose]
    repeat' split
    all_goals exact ho
  | use =>
    dsimp only [createContext]
    repeat' split
    all_goals exact ho
  | contextInit params copyErr =>
    dsimp only [contextInitIoctl]
    repeat' split
    all_goals exact ho
  | close => exact absurd rfl ne

/-- A file that was closed has no handles. -/
theorem step_closed (h : f.isOpen = false → f.handles = []) (e : FileEvent) :
    (f.step dev e).isOpen = false → (f.step dev e).handles = [] := by
  cases ho : f.isOpen with
  | false =>
    intro _
    unfold step
    rw [if_pos (by simp [ho])]
    exact h ho
  | true =>
    intro hc
    by_cases he : e = .close
    · rw [he]
      unfold step
      rw [if_neg (by simp [ho])]
    · exact nomatch (step_isOpen ho he).symm.trans hc

lemma run_closed (h : f.isOpen = false → f.handles = []) (es : List FileEvent) :
    (f.run dev es).isOpen = false → (f.run dev es).handles = [] := by
  induction es generalizing f with
  | nil => exact h
  | cons e es ih => exact ih (step_closed h e)

lemma run_append (es fs : List FileEvent) :
    f.run dev (es ++ fs) = (f.run dev es).run dev fs := List.foldl_append

lemma earlyHandles_append (es fs : List FileEvent) :
    f.earlyHandles dev (es ++ fs) = f.earlyHandles dev es ++ (f.run dev es).earlyHandles dev fs := by
  induction es generalizing f with
  | nil => rfl
  | cons e es ih =>
    change _ ++ earlyHandles dev _ (es ++ fs) = _
    rw [ih,← List.append_assoc]
    rfl

lemma close_closed : (f.step dev .close).isOpen = false := by
  unfold step
  split
  case isTrue hc => exact Bool.eq_false_of_not_eq_true (by simpa using hc)
  case isFalse => rfl

/-- Closing a file does not create its context. -/
theorem earlyHandles_close : f.earlyHandles dev [.close] = [] := by
  rw [earlyHandles,earlyHandles,List.append_nil]
  refine created_of_same ?_
  unfold step
  split
  · rfl
  · exact congrArg _ (driverPostclose_priv.trans closeAll_priv)

/-- The early handles are never detached from their context: a log that closes all handles and is
matched has none. -/
theorem Paired.early_nil (h : Paired dev early [] f) (hm : DetachesMatched f.cmds) : early = [] := by
  cases hc : f.priv.contextCreated with
  | false => exact (h.nothing hc).2
  | true =>
    apply List.eq_nil_iff_forall_not_mem.mpr
    intro res hres
    have hb := h.balanced hc res
    have hle := hm.times_le (f.priv.ctxId,res)
    have hpos := List.count_pos_iff.mpr hres
    rw [List.count_nil] at hb
    omega

end Steps
end RenderFile

open RenderFile CtxCmd

/-- What is attached and detached is always about a live context. Along a run that ends with the
file's close every detach is matched if and only if no handle was open when the context was
created. -/
theorem renderFile_detachesMatched_iff (dev : RenderDev) (ctxId : ℕ) (es : List FileEvent) :
    Framed ((driverOpen ctxId).run dev es).cmds ∧
      ((∀ ds, ds <+: es ++ [.close] → DetachesMatched ((driverOpen ctxId).run dev ds).cmds) ↔
        (driverOpen ctxId).earlyHandles dev es = []) := by
  have hopen : Paired dev [] (driverOpen ctxId).handles (driverOpen ctxId) := driverOpen_paired ctxId
  have hall (ds : List FileEvent) := run_paired hopen ds
  refine ⟨(hall es).framed,?_,?_⟩
  · intro h
    have hm := h _ (List.prefix_refl _)
    have hp := hall (es ++ [.close])
    rw [List.nil_append,earlyHandles_append,earlyHandles_close,List.append_nil] at hp
    have hhandles : ((driverOpen ctxId).run dev (es ++ [.close])).handles = [] := by
      refine run_closed (fun _ => rfl) _ ?_
      rw [run_append]
      exact close_closed
    rw [hhandles] at hp
    exact hp.early_nil hm
  · intro he ds hds
    obtain ⟨rest,hrest⟩ := hds
    have hnil : (driverOpen ctxId).earlyHandles dev (ds ++ rest) = [] := by
      rw [hrest,earlyHandles_append,earlyHandles_close,List.append_nil]
      exact he
    rw [earlyHandles_append] at hnil
    exact (hall ds).matched (List.append_eq_nil_iff.mp hnil).1

/-- An object is opened before the context is created and closed after. -/
theorem renderFile_detach_unmatched :
    ¬∀ (dev : RenderDev) (ctxId : ℕ) (es : List FileEvent),
      DetachesMatched ((driverOpen ctxId).run dev es).cmds ∧
        Framed ((driverOpen ctxId).run dev es).cmds := by
  intro h
  have hm := (h ⟨true,true,0⟩ 1 [.gemOpen 5,.contextInit [] 0,.gemClose 5]).1
  revert hm
  decide

end GuestAdditions

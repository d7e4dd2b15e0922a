import GuestAdditions.Blob.CreateBlob
import GuestAdditions.Gem.Context
import GuestAdditions.Vram.Object

/-! `virtio_gpu_resource_create_blob_ioctl`: the checks of the request, the private data of the file that
they and the later steps read, and the CREATE_BLOB that it comes to. A read through an absent
`driver_priv` ends the model with `none`. -/
namespace GuestAdditions

abbrev VIRTGPU_BLOB_MEM_GUEST : ℕ := 0x0001
abbrev VIRTGPU_BLOB_MEM_HOST3D : ℕ := 0x0002
abbrev VIRTGPU_BLOB_MEM_HOST3D_GUEST : ℕ := 0x0003
abbrev VIRTGPU_BLOB_FLAG_USE_CROSS_DEVICE : ℕ := 0x0004
abbrev VIRTGPU_BLOB_FLAG_USE_MASK : ℕ := 0x0007
abbrev VIRTGPU_BLOB_FLAG_CREATE_GUEST_HANDLE : ℕ := 0x0008

/-- The negotiated features that the ioctl can look at. -/
structure BlobFeatures where
  hasResourceBlob : Bool
  hasResourceAssignUuid : Bool
  hasVirgl3d : Bool
  hasCreateGuestHandle : Bool

/-- `struct drm_virtgpu_resource_create_blob`, less the pointer to the command and the results. -/
structure RcBlob where
  blobMem : UInt32
  blobFlags : UInt32
  size : UInt64
  cmdSize : UInt32
  blobId : UInt64

/-- How the calls of `virtio_gpu_object_create` end, and the entries of the pages it got. -/
structure ShmemPort where
  shmemCreate : ℤ
  resourceIdGet : ℤ
  shmemInit : ℤ
  ents : List UInt8
  nents : ℕ

/-- What the ioctl meets beside the request: the limit on blocks at the allocation and at the check, the
guest pool, the VRAM device and how the calls that it makes end. -/
structure BlobEnv (σ β : Type) where
  maxNents : ℤ
  maxNents' : ℤ
  guest : Guest σ β
  vram : VramDev
  memdupUser : ℤ
  pool : CreatePort
  shmem : ShmemPort
  host : VramPort
  ctrlq : CtrlqPort
  resourceId : ℕ
  assignUuid : ℤ
  handleCreate : ℤ

/-- The commands that the ioctl has for the control queue up to the creation of the blob. What comes after it
is left out: `RESOURCE_ASSIGN_UUID`, the attachment to the context by `drm_gem_handle_create`, and the release
of the object when one of these steps fails. -/
inductive BlobIoctlCmd
  | context (cmd : CtxCmd)
  | submit (ctxId size : ℕ)
  | createBlob (cmd : BlobCmd)
  deriving DecidableEq

/-- The result of the ioctl and its commands. -/
structure BlobIoctl where
  ret : ℤ
  cmds : List BlobIoctlCmd
  deriving DecidableEq

/-- `virtio_gpu_driver_open`: the private data that a file gets with the context id `ctxId`. -/
def driverPriv (f : BlobFeatures) (ctxId : ℕ) : Option FilePriv :=
  if f.hasVirgl3d then some (RenderFile.driverOpen ctxId).priv else none

lemma driverPriv_isSome (f : BlobFeatures) (ctxId : ℕ) :
    (driverPriv f ctxId).isSome = f.hasVirgl3d := by
  rw [driverPriv]
  split_ifs with h <;> simp [h]

namespace RcBlob

def GuestBlob (rc : RcBlob) : Prop :=
  rc.blobMem.toNat = VIRTGPU_BLOB_MEM_GUEST ∨ rc.blobMem.toNat = VIRTGPU_BLOB_MEM_HOST3D_GUEST

def Host3dBlob (rc : RcBlob) : Prop :=
  rc.blobMem.toNat = VIRTGPU_BLOB_MEM_HOST3D ∨ rc.blobMem.toNat = VIRTGPU_BLOB_MEM_HOST3D_GUEST

/-- The request carries `VIRTGPU_BLOB_FLAG_CREATE_GUEST_HANDLE`. -/
def GuestAlloc (rc : RcBlob) : Prop :=
  rc.blobFlags.toNat &&& VIRTGPU_BLOB_FLAG_CREATE_GUEST_HANDLE ≠ 0

/-- The request carries a flag that the driver does not know. -/
def UnknownFlag (rc : RcBlob) : Prop :=
  rc.blobFlags.toNat &&& (0xffffffff ^^^
    (VIRTGPU_BLOB_FLAG_USE_MASK ||| VIRTGPU_BLOB_FLAG_CREATE_GUEST_HANDLE)) ≠ 0

def CrossDevice (rc : RcBlob) : Prop :=
  rc.blobFlags.toNat &&& VIRTGPU_BLOB_FLAG_USE_CROSS_DEVICE ≠ 0

instance (rc : RcBlob) : Decidable rc.GuestBlob := inferInstanceAs (Decidable (_ ∨ _))
instance (rc : RcBlob) : Decidable rc.Host3dBlob := inferInstanceAs (Decidable (_ ∨ _))
instance (rc : RcBlob) : Decidable rc.GuestAlloc := inferInstanceAs (Decidable (_ ≠ _))
instance (rc : RcBlob) : Decidable rc.UnknownFlag := inferInstanceAs (Decidable (_ ≠ _))
instance (rc : RcBlob) : Decidable rc.CrossDevice := inferInstanceAs (Decidable (_ ≠ _))

/-- The parameters of the request with a context id and a blob id. -/
def params (rc : RcBlob) (ctxId blobId : ℕ) : ObjectParams :=
  ⟨ctxId,rc.blobMem.toNat,rc.blobFlags.toNat,blobId,rc.size.toNat⟩

end RcBlob

/-- `verify_blob`: the parameters of the blob, or an error. -/
def verifyBlob (f : BlobFeatures) (priv : Option FilePriv) (rc : RcBlob) :
    Option (Except ℤ ObjectParams) :=
  if f.hasResourceBlob = false then some (.error (-EINVAL))
  else if rc.UnknownFlag then some (.error (-EINVAL))
  else if rc.CrossDevice ∧ f.hasResourceAssignUuid = false then some (.error (-EINVAL))
  else if ¬ rc.GuestBlob ∧ ¬ rc.Host3dBlob then some (.error (-EINVAL))
  else if rc.Host3dBlob then
    if f.hasVirgl3d = false then some (.error (-EINVAL))
    else if rc.cmdSize.toNat % 4 ≠ 0 then some (.error (-EINVAL))
    else priv.map fun vfpriv => .ok (rc.params vfpriv.ctxId rc.blobId.toNat)
  else if rc.blobId.toNat ≠ 0 ∧ ¬ rc.GuestAlloc then some (.error (-EINVAL))
  else if rc.cmdSize.toNat ≠ 0 then some (.error (-EINVAL))
  else if rc.GuestAlloc then
    priv.map fun vfpriv => .ok (rc.params vfpriv.ctxId rc.blobId.toNat)
  else some (.ok (rc.params 0 0))

/-- `virtio_gpu_create_context`, where there is a 3D renderer: the commands. -/
def ioctlContext (f : BlobFeatures) (priv : Option FilePriv) : Option (List BlobIoctlCmd) :=
  if f.hasVirgl3d then
    priv.map fun vfpriv =>
      if vfpriv.contextCreated then [] else [.context (.create vfpriv.ctxId vfpriv.contextInit)]
  else some []

/-- `virtio_gpu_cmd_submit` of the command of the request, if it has one. -/
def ioctlSubmit (priv : Option FilePriv) (rc : RcBlob) : Option (List BlobIoctlCmd) :=
  if rc.cmdSize.toNat = 0 then some []
  else priv.map fun vfpriv => [.submit vfpriv.ctxId rc.cmdSize.toNat]

/-- `virtio_gpu_object_create` for a blob. `roundup` to pages is `align`. -/
def objectCreateBlob (port : ShmemPort) (q : CtrlqPort) (resourceId : ℕ) (params : ObjectParams) :
    ℤ × List BlobCmd :=
  if port.shmemCreate ≠ 0 then (port.shmemCreate,[])
  else if port.resourceIdGet < 0 then (port.resourceIdGet,[])
  else if port.shmemInit ≠ 0 then (port.shmemInit,[])
  else (0,(cmdResourceCreateBlob q resourceId { params with size := align params.size PAGE_SIZE }
    port.ents port.nents).1.cmds)

/-- `virtio_gpu_vram_create` with its command, which goes out before the map that can still fail. -/
def vramCreateBlob (dev : VramDev) (port : VramPort) (q : CtrlqPort) (resourceId : ℕ)
    (params : ObjectParams) : ℤ × List BlobCmd :=
  let ret := (Vram.create dev port params.size params.blobFlags).1
  if port.objectAlloc = false ∨ port.mmapOffset.1 ≠ 0 ∨ port.resourceIdGet ≠ 0 then (ret,[])
  else (ret,(cmdResourceCreateBlob q resourceId { params with size := align params.size PAGE_SIZE }
    [] 0).1.cmds)

section Model
variable {σ β : Type} (H : PoolHost σ) (B : DrmBuddy β)

/-- The three ways to create a blob. -/
def createBlobObject (rc : RcBlob) (params : ObjectParams) (env : BlobEnv σ β) : ℤ × List BlobCmd :=
  if rc.GuestBlob then
    if env.guest.pool.base ≠ 0 then
      let r := guestPoolCreateBlob H B env.maxNents env.maxNents' env.pool env.ctrlq env.resourceId
        params env.guest
      (r.ret,r.cmds)
    else objectCreateBlob env.shmem env.ctrlq env.resourceId params
  else vramCreateBlob env.vram env.host env.ctrlq env.resourceId params

/-- `virtio_gpu_resource_create_blob_ioctl`. -/
def resourceCreateBlobIoctl (f : BlobFeatures) (priv : Option FilePriv) (rc : RcBlob)
    (env : BlobEnv σ β) : Option BlobIoctl := do
  match ← verifyBlob f priv rc with
  | .error _ => return ⟨-EINVAL,[]⟩
  | .ok params =>
    let context ← ioctlContext f priv
    if rc.cmdSize.toNat ≠ 0 ∧ env.memdupUser ≠ 0 then return ⟨env.memdupUser,context⟩
    else
      let submit ← ioctlSubmit priv rc
      let r := createBlobObject H B rc params env
      let cmds := context ++ submit ++ r.2.map .createBlob
      if r.1 < 0 then return ⟨r.1,cmds⟩
      else if rc.CrossDevice ∧ env.assignUuid ≠ 0 then return ⟨env.assignUuid,cmds⟩
      else return ⟨env.handleCreate,cmds⟩

end Model

/-- A blob with the CREATE_GUEST_HANDLE flag, and a plain guest blob with a context id or a blob id, may be
sent only when the feature was negotiated. -/
def ObjectParams.Permitted (f : BlobFeatures) (params : ObjectParams) : Prop :=
  f.hasCreateGuestHandle = true ∨
    (params.blobFlags &&& VIRTGPU_BLOB_FLAG_CREATE_GUEST_HANDLE = 0 ∧
      (params.blobMem = VIRTGPU_BLOB_MEM_GUEST → params.ctxId = 0 ∧ params.blobId = 0))

/-- For every file of the device, whose private data is absent exactly when there is no 3D renderer, and
whatever the ioctl meets, it does not read through absent data, and the blobs that it sends are
permitted. -/
def BlobIoctlSafe (f : BlobFeatures) (rc : RcBlob) : Prop :=
  ∀ {σ β : Type} (H : PoolHost σ) (B : DrmBuddy β) (env : BlobEnv σ β) (priv : Option FilePriv),
    priv.isSome = f.hasVirgl3d → ∃ r, resourceCreateBlobIoctl H B f priv rc env = some r ∧
      ∀ cmd, .createBlob cmd ∈ r.cmds → cmd.params.Permitted f

namespace RcBlob
variable {f : BlobFeatures} {rc : RcBlob}

/-- What `verify_blob` accepts. -/
structure Valid (f : BlobFeatures) (rc : RcBlob) : Prop where
  resourceBlob : f.hasResourceBlob = true
  flags : ¬ rc.UnknownFlag
  crossDevice : rc.CrossDevice → f.hasResourceAssignUuid = true
  memory : rc.GuestBlob ∨ rc.Host3dBlob
  host3d : rc.Host3dBlob → f.hasVirgl3d = true ∧ rc.cmdSize.toNat % 4 = 0
  guest : ¬ rc.Host3dBlob → (rc.blobId.toNat = 0 ∨ rc.GuestAlloc) ∧ rc.cmdSize.toNat = 0

/-- A request that is accepted reads the private data for its context, or has no use for it. -/
theorem verifyBlob_valid (h : rc.Valid f) (priv : Option FilePriv) : verifyBlob f priv rc =
    if rc.Host3dBlob ∨ rc.GuestAlloc then
      priv.map fun vfpriv => .ok (rc.params vfpriv.ctxId rc.blobId.toNat)
    else some (.ok (rc.params 0 0)) := by
  have hmem : ¬ (¬ rc.GuestBlob ∧ ¬ rc.Host3dBlob) := fun hno => h.memory.elim hno.1 hno.2
  have hcross : ¬ (rc.CrossDevice ∧ f.hasResourceAssignUuid = false) := fun hno => by
    simp [h.crossDevice hno.1] at hno
  rw [verifyBlob,if_neg (by simp [h.resourceBlob]),if_neg h.flags,if_neg hcross,if_neg hmem]
  by_cases hhost : rc.Host3dBlob
  · obtain ⟨hvirgl,hdword⟩ := h.host3d hhost
    simp [hhost,hvirgl,hdword]
  · obtain ⟨hid,hcmd⟩ := h.guest hhost
    have hplain : ¬ (rc.blobId.toNat ≠ 0 ∧ ¬ rc.GuestAlloc) := fun hno => hid.elim hno.1 hno.2
    rw [if_neg hhost,if_neg hplain,if_neg (not_not.mpr hcmd)]
    simp only [hhost,false_or]

/-- Any other request is refused, before anything is read. -/
theorem verifyBlob_invalid (h : ¬ rc.Valid f) (priv : Option FilePriv) :
    verifyBlob f priv rc = some (.error (-EINVAL)) := by
  rw [verifyBlob]
  split_ifs with h₁ h₂ h₃ h₄ h₅ h₆ h₇ h₈ h₉ h₁₀ <;> try rfl
  all_goals refine absurd ?_ h
  · exact ⟨by simpa using h₁,h₂,fun hc => by simpa [hc] using h₃,by tauto,
      fun _ => ⟨by simpa using h₆,by simpa using h₇⟩,fun hno => absurd h₅ hno⟩
  · exact ⟨by simpa using h₁,h₂,fun hc => by simpa [hc] using h₃,by tauto,fun hhost => absurd hhost h₅,
      fun _ => ⟨.inr h₁₀,by simpa using h₉⟩⟩
  · exact ⟨by simpa using h₁,h₂,fun hc => by simpa [hc] using h₃,by tauto,fun hhost => absurd hhost h₅,
      fun _ => ⟨by tauto,by simpa using h₉⟩⟩

end RcBlob

section Commands
variable {f : BlobFeatures} {q : CtrlqPort} {resourceId : ℕ} {params params' : ObjectParams}
  {cmd : BlobCmd}

/-- The size plays no part in what is permitted. -/
theorem ObjectParams.permitted_size (size : ℕ) :
    ({ params with size := size } : ObjectParams).Permitted f ↔ params.Permitted f := Iff.rfl

/-- The command on the queue carries the parameters it was made from. -/
theorem cmdResourceCreateBlob_params {ents : List UInt8} {nents : ℕ}
    (h : cmd ∈ (cmdResourceCreateBlob q resourceId params ents nents).1.cmds) : cmd.params = params := by
  rw [cmdResourceCreateBlob_cmds] at h
  split_ifs at h
  · rw [List.mem_singleton.mp h]
  · exact absurd h List.not_mem_nil

variable {σ β : Type} {H : PoolHost σ} {B : DrmBuddy β} {rc : RcBlob} {env : BlobEnv σ β}
  {priv : Option FilePriv}

/-- Each way to create a blob sends the parameters it was given, but for the size. -/
theorem createBlobObject_params (h : cmd ∈ (createBlobObject H B rc params env).2) :
    ∃ size, cmd.params = { params with size := size } := by
  simp only [createBlobObject] at h
  split_ifs at h with hguest hpool
  · simp only [guestPoolCreateBlob] at h
    split at h
    · exact absurd h List.not_mem_nil
    · exact ⟨_,cmdResourceCreateBlob_params h⟩
  · simp only [objectCreateBlob] at h
    split_ifs at h
    all_goals first
      | exact absurd h List.not_mem_nil
      | exact ⟨_,cmdResourceCreateBlob_params h⟩
  · simp only [vramCreateBlob] at h
    split_ifs at h
    · exact absurd h List.not_mem_nil
    · exact ⟨_,cmdResourceCreateBlob_params h⟩

/-- The blobs that the ioctl sends, once its request is accepted with some parameters, are those of the
create, which it comes to unless the command of the request cannot be copied. -/
theorem resourceCreateBlobIoctl_accepted (H : PoolHost σ) (B : DrmBuddy β) (env : BlobEnv σ β)
    (hverify : verifyBlob f priv rc = some (.ok params)) (hpriv : priv.isSome = f.hasVirgl3d)
    (hcmd : rc.cmdSize.toNat = 0 ∨ f.hasVirgl3d = true) :
    ∃ r, resourceCreateBlobIoctl H B f priv rc env = some r ∧
      (∀ cmd, .createBlob cmd ∈ r.cmds → cmd ∈ (createBlobObject H B rc params env).2) ∧
      (env.memdupUser = 0 →
        ∀ cmd ∈ (createBlobObject H B rc params env).2, .createBlob cmd ∈ r.cmds) := by
  obtain ⟨context,hcontext,hnone⟩ : ∃ context, ioctlContext f priv = some context ∧
      ∀ cmd, .createBlob cmd ∉ context := by
    rw [ioctlContext]
    split_ifs with hvirgl
    · obtain ⟨vfpriv,rfl⟩ := Option.isSome_iff_exists.mp (hpriv.trans hvirgl)
      refine ⟨_,rfl,fun cmd => ?_⟩
      simp only
      split_ifs <;> simp
    · exact ⟨[],rfl,fun cmd => List.not_mem_nil⟩
  obtain ⟨submit,hsubmit,hnone'⟩ : ∃ submit, ioctlSubmit priv rc = some submit ∧
      ∀ cmd, .createBlob cmd ∉ submit := by
    rw [ioctlSubmit]
    split_ifs with hsize
    · exact ⟨[],rfl,fun cmd => List.not_mem_nil⟩
    · obtain ⟨vfpriv,rfl⟩ := Option.isSome_iff_exists.mp (hpriv.trans (hcmd.resolve_left hsize))
      exact ⟨_,rfl,fun cmd => by simp⟩
  simp only [resourceCreateBlobIoctl,hverify,hcontext,hsubmit,Option.bind_eq_bind,Option.bind_some,
    Option.pure_def]
  split_ifs with hmemdup
  · exact ⟨_,rfl,fun cmd h => absurd h (hnone cmd),fun h => absurd h hmemdup.2⟩
  all_goals
    refine ⟨_,rfl,fun cmd h => ?_,fun _ cmd h => ?_⟩
    · simpa [hnone,hnone'] using h
    · simpa using .inr (.inr h)

end Commands

/-- A device whose 3D renderer is absent can still be met with a shmem object, and one that has it with an
object of the host: every call succeeds. -/
def BlobEnv.willing : BlobEnv Unit FirstFit where
  maxNents := 65536
  maxNents' := 65536
  guest := ⟨⟨0,0,0,0,0,0,false,false⟩,⟨0,[]⟩,(),[]⟩
  vram := ⟨true,true,0x200000000,0,⟨0,0,0,0,0,0,false,false⟩⟩
  memdupUser := 0
  pool := .willing
  shmem := ⟨0,0,0,[],0⟩
  host := ⟨true,(0,0),0,fun _ => (0,0x200000000),true,fun _ => 0⟩
  ctrlq := .willing
  resourceId := 1
  assignUuid := 0
  handleCreate := 0

/-- Where every call succeeds a blob is sent. -/
theorem createBlobObject_willing (rc : RcBlob) (params : ObjectParams) :
    ∃ cmd size, cmd ∈ (createBlobObject PoolHost.willing FirstFit.buddy rc params .willing).2 ∧
      cmd.params = { params with size := size } := by
  obtain ⟨cmd,hcmd⟩ : ∃ cmd, cmd ∈
      (createBlobObject PoolHost.willing FirstFit.buddy rc params .willing).2 := by
    simp only [createBlobObject]
    split_ifs with hguest hpool
    · exact absurd rfl hpool
    · exact ⟨_,List.mem_singleton.mpr rfl⟩
    · exact ⟨_,List.mem_singleton.mpr rfl⟩
  obtain ⟨size,hsize⟩ := createBlobObject_params hcmd
  exact ⟨cmd,size,hcmd,hsize⟩

/-- Permitted parameters make permitted blobs. -/
theorem resourceCreateBlobIoctl_permitted {σ β : Type} {f : BlobFeatures} {rc : RcBlob}
    {params : ObjectParams} {priv : Option FilePriv} (H : PoolHost σ) (B : DrmBuddy β)
    (env : BlobEnv σ β) (hverify : verifyBlob f priv rc = some (.ok params))
    (hpriv : priv.isSome = f.hasVirgl3d) (hcmd : rc.cmdSize.toNat = 0 ∨ f.hasVirgl3d = true)
    (hparams : params.Permitted f) :
    ∃ r, resourceCreateBlobIoctl H B f priv rc env = some r ∧
      ∀ cmd, .createBlob cmd ∈ r.cmds → cmd.params.Permitted f := by
  obtain ⟨r,hr,hcmds,-⟩ := resourceCreateBlobIoctl_accepted H B env hverify hpriv hcmd
  refine ⟨r,hr,fun cmd hcmd => ?_⟩
  obtain ⟨size,hsize⟩ := createBlobObject_params (hcmds cmd hcmd)
  rw [hsize,ObjectParams.permitted_size]
  exact hparams

/-- For every request and every combination of features the ioctl is safe exactly when a request that
carries the CREATE_GUEST_HANDLE flag and passes the checks finds the feature negotiated and a 3D
renderer. -/
theorem blobIoctlSafe_iff (f : BlobFeatures) (rc : RcBlob) :
    BlobIoctlSafe f rc ↔ (rc.Valid f → rc.GuestAlloc →
      f.hasCreateGuestHandle = true ∧ f.hasVirgl3d = true) := by
  constructor
  · intro hsafe hvalid halloc
    have hvirgl : f.hasVirgl3d = true := by
      by_contra habsent
      rw [Bool.not_eq_true] at habsent
      obtain ⟨r,hr,-⟩ := hsafe PoolHost.willing FirstFit.buddy .willing none habsent.symm
      simp [resourceCreateBlobIoctl,RcBlob.verifyBlob_valid hvalid,halloc] at hr
    have hverify : verifyBlob f (driverPriv f 1) rc = some (.ok (rc.params 1 rc.blobId.toNat)) := by
      rw [RcBlob.verifyBlob_valid hvalid,if_pos (.inr halloc),driverPriv,if_pos hvirgl]
      rfl
    have hpriv := driverPriv_isSome f 1
    obtain ⟨r,hr,-,hsent⟩ := resourceCreateBlobIoctl_accepted PoolHost.willing FirstFit.buddy .willing
      hverify hpriv (.inr hvirgl)
    obtain ⟨cmd,size,hcmd,hparams⟩ := createBlobObject_willing rc (rc.params 1 rc.blobId.toNat)
    obtain ⟨r',hr',hpermitted⟩ := hsafe PoolHost.willing FirstFit.buddy .willing _ hpriv
    obtain rfl := Option.some.inj (hr.symm.trans hr')
    have hsafecmd := hpermitted cmd (hsent rfl cmd hcmd)
    rw [hparams,ObjectParams.permitted_size] at hsafecmd
    exact ⟨hsafecmd.resolve_right fun hflag => halloc hflag.1,hvirgl⟩
  · intro hcond σ β H B env priv hpriv
    by_cases hvalid : rc.Valid f
    · have hverify := RcBlob.verifyBlob_valid hvalid priv
      split_ifs at hverify with hneeds
      · -- the parameters carry the context: there is one, and a plain guest blob has the flag
        have hvirgl : f.hasVirgl3d = true :=
          hneeds.elim (fun hhost => (hvalid.host3d hhost).1) fun halloc => (hcond hvalid halloc).2
        obtain ⟨vfpriv,rfl⟩ := Option.isSome_iff_exists.mp (hpriv.trans hvirgl)
        refine resourceCreateBlobIoctl_permitted H B env hverify hpriv (.inr hvirgl) ?_
        by_cases halloc : rc.GuestAlloc
        · exact .inl (hcond hvalid halloc).1
        · refine .inr ⟨not_not.mp halloc,fun hguest => ?_⟩
          have hhost : rc.blobMem.toNat = _ ∨ rc.blobMem.toNat = _ := hneeds.resolve_right halloc
          rw [show rc.blobMem.toNat = VIRTGPU_BLOB_MEM_GUEST from hguest] at hhost
          exact absurd hhost (by decide)
      · obtain ⟨hhost,halloc⟩ := not_or.mp hneeds
        exact resourceCreateBlobIoctl_permitted H B env hverify hpriv (.inl (hvalid.guest hhost).2)
          (.inr ⟨not_not.mp halloc,fun _ => ⟨rfl,rfl⟩⟩)
    · refine ⟨⟨-EINVAL,[]⟩,?_,fun cmd h => absurd h List.not_mem_nil⟩
      simp [resourceCreateBlobIoctl,RcBlob.verifyBlob_invalid hvalid]

/-- A plain guest blob with the flag: without a 3D renderer the ioctl reads through the absent private
data, and with one it sends the flag, a context id and a blob id although the feature was not
negotiated. -/
theorem blobIoctl_guestAlloc :
    let rc : RcBlob := ⟨1,8,0x1000,0,7⟩
    let f (virgl : Bool) : BlobFeatures := ⟨true,false,virgl,false⟩
    let run (virgl : Bool) := resourceCreateBlobIoctl PoolHost.willing FirstFit.buddy (f virgl)
      (driverPriv (f virgl) 1) rc .willing
    run false = none ∧
      run true = some ⟨0,[.context (.create 1 0),.createBlob ⟨1,⟨1,1,8,7,0x1000⟩,0,[]⟩]⟩ ∧
      ¬ BlobIoctlSafe (f false) rc ∧ ¬ BlobIoctlSafe (f true) rc := by
  intro rc f run
  have habsent : run false = none := by decide +kernel
  have hsent : run true = some ⟨0,[.context (.create 1 0),.createBlob ⟨1,⟨1,1,8,7,0x1000⟩,0,[]⟩]⟩ := by
    decide +kernel
  refine ⟨habsent,hsent,fun hsafe => ?_,fun hsafe => ?_⟩
  · obtain ⟨r,hr,-⟩ := hsafe PoolHost.willing FirstFit.buddy .willing _ (driverPriv_isSome _ 1)
    exact absurd (habsent.symm.trans hr) (by simp)
  · obtain ⟨r,hr,hpermitted⟩ := hsafe PoolHost.willing FirstFit.buddy .willing _ (driverPriv_isSome _ 1)
    obtain rfl := Option.some.inj (hsent.symm.trans hr)
    rcases hpermitted _ (List.mem_cons_of_mem _ List.mem_cons_self) with h | h
    · exact absurd h (by decide)
    · exact absurd h.1 (by decide)

end GuestAdditions

import GuestAdditions.GuestPool.WireList

/-! The end of `virtio_gpu_guest_pool_create`: `virtio_gpu_cmd_resource_create_blob`, which returns nothing,
and the way of its buffer to the control queue, which can fail. -/
namespace GuestAdditions

/-- The fields of `struct virtio_gpu_object_params` that describe a blob. -/
structure ObjectParams where
  ctxId : ℕ
  blobMem : ℕ
  blobFlags : ℕ
  blobId : ℕ
  size : ℕ
  deriving DecidableEq

/-- A CREATE_BLOB as the device finds it on the queue: the `virtio_gpu_resource_create_blob`, and the data
buffer behind it. -/
structure BlobCmd where
  resourceId : ℕ
  params : ObjectParams
  nrEntries : ℕ
  data : List UInt8
  deriving DecidableEq

/-- How the calls on the way to the control queue end: whether `kvmalloc_array` fell back to vmalloc,
`vmalloc_to_sgt`, `drm_dev_enter` and `virtqueue_add_sgs`. -/
structure CtrlqPort where
  isVmallocAddr : Bool
  vmallocToSgt : Bool
  devEnter : Bool
  addSgs : ℤ

/-- Every call succeeds. -/
def CtrlqPort.willing : CtrlqPort := ⟨false,true,true,0⟩

/-- Where a `virtio_gpu_vbuffer` ends up. A buffer that is lost is neither on the queue nor freed. -/
inductive VbufFate
  | queued (cmd : BlobCmd)
  | freed
  | lost
  deriving DecidableEq

/-- The commands that the device can see. -/
def VbufFate.cmds : VbufFate → List BlobCmd
  | queued cmd => [cmd]
  | freed | lost => []

namespace CtrlqPort

/-- `virtio_gpu_queue_ctrl_sgs` without a fence, after the wait for room in the queue. The result of
`virtqueue_add_sgs` is only warned about. -/
def queueCtrlSgs (q : CtrlqPort) (cmd : BlobCmd) : ℤ × VbufFate :=
  if q.devEnter = false then (-ENODEV,.freed)
  else (0,if q.addSgs = 0 then .queued cmd else .lost)

/-- `virtio_gpu_queue_fenced_ctrl_buffer` without a fence, for a data buffer of `dataSize` bytes. -/
def queueFencedCtrlBuffer (q : CtrlqPort) (cmd : BlobCmd) (dataSize : ℕ) : ℤ × VbufFate :=
  if dataSize ≠ 0 ∧ q.isVmallocAddr = true ∧ q.vmallocToSgt = false then (-ENOMEM,.lost)
  else q.queueCtrlSgs { cmd with data := cmd.data.take dataSize }

end CtrlqPort

/-- `sizeof(struct virtio_gpu_mem_entry) * nents` in the 32 bits of `data_size`. -/
def entsSize (nents : ℕ) : ℕ := wrap32 (16*nents)

/-- `virtio_gpu_cmd_resource_create_blob`: the fate of the buffer, `bo->created` and `bo->attached`. The
result of the queueing is ignored. -/
def cmdResourceCreateBlob (q : CtrlqPort) (resourceId : ℕ) (params : ObjectParams)
    (ents : List UInt8) (nents : ℕ) : VbufFate × Bool × Bool :=
  let r := q.queueFencedCtrlBuffer ⟨resourceId,params,nents,ents⟩ (entsSize nents)
  (r.2,true,nents ≠ 0)

/-- The object that a create returns. -/
structure PoolObject where
  blocks : List Block
  created : Bool
  attached : Bool

/-- What a create leaves behind: its result, the object, what became visible to the device, and the
guest. -/
structure CreateResult (σ β : Type) where
  ret : ℤ
  object : Option PoolObject
  cmds : List BlobCmd
  guest : Guest σ β

section Model
variable {σ β : Type} (H : PoolHost σ) (B : DrmBuddy β)

/-- All of `virtio_gpu_guest_pool_create`. -/
def guestPoolCreateBlob (maxNents maxNents' : ℤ) (port : CreatePort) (q : CtrlqPort) (resourceId : ℕ)
    (params : ObjectParams) (g : Guest σ β) : CreateResult σ β :=
  let r := guestPoolCreate H B maxNents maxNents' port params.size g
  match r.2.1 with
  | none => ⟨r.1,none,[],r.2.2⟩
  | some c =>
    let blocks := (guestPoolAlloc H B maxNents (align params.size PAGE_SIZE) g).2.1
    let cmd := cmdResourceCreateBlob q resourceId { params with size := c.size } c.ents c.nents
    ⟨r.1,some ⟨blocks,cmd.2.1,cmd.2.2⟩,cmd.1.cmds,r.2.2⟩

/-- The same blocks are allocated, and as many bytes are free. -/
def Guest.SameLedger (g g' : Guest σ β) : Prop :=
  (B.live g'.mm).Perm (B.live g.mm) ∧ B.avail g'.mm = B.avail g.mm

/-- The command names every block: as many entries as blocks, and all of them in the data. -/
def BlobCmd.Complete (base : ℕ) (blocks : List Block) (cmd : BlobCmd) : Prop :=
  cmd.nrEntries = blocks.length ∧ cmd.data = (blocks.map (memEntry base)).flatMap MemEntry.bytes

/-- Either an error and nothing done, or success, one complete command on the queue and an object that
owns the blocks just allocated. -/
def AllOrNothing (g : Guest σ β) (r : CreateResult σ β) : Prop :=
  (r.ret < 0 ∧ r.object = none ∧ g.SameLedger B r.guest ∧ r.cmds = []) ∨
  (r.ret = 0 ∧ ∃ o cmd, r.object = some o ∧ r.cmds = [cmd] ∧ cmd.Complete g.pool.base o.blocks ∧
    (B.live r.guest.mm).Perm (o.blocks ++ B.live g.mm))

end Model

/-- The results of the calls that a create makes are errors or 0. -/
def CreatePort.Errno (port : CreatePort) : Prop := port.mmapOffset ≤ 0 ∧ port.resourceIdGet ≤ 0

/-- No call of the create fails, and the number of blocks is not refused. -/
structure CreatePort.Passes (port : CreatePort) (maxNents' : ℤ) (blocks : List Block) : Prop where
  objectAlloc : port.objectAlloc = true
  mmapOffset : port.mmapOffset = 0
  resourceIdGet : port.resourceIdGet = 0
  nents : ¬ NentsExceeded maxNents' (wrap32 blocks.length)
  arrayAlloc : port.arrayAlloc = true

/-- The queue takes the command for the blocks: the table of a vmalloc'd array can be built, the device is
there, the virtqueue accepts the buffer, and the array has fewer than `2^32` bytes. -/
structure CtrlqPort.Takes (q : CtrlqPort) (blocks : List Block) : Prop where
  table : q.isVmallocAddr = true → q.vmallocToSgt = true
  plugged : q.devEnter = true
  added : q.addSgs = 0
  short : 16*blocks.length < 2^32

section Ledger
variable {σ β : Type} {H : PoolHost σ} {B : DrmBuddy β} {g g' : Guest σ β} {maxNents : ℤ} {size : ℕ}

/-- Growing and shrinking leave the gate of the pool alone. -/
theorem Move.ready (h : Move H B g g') : g'.pool.ready = g.pool.ready := by
  rcases h with h | h
  · cases h with
    | grow =>
      have hout := guestPoolGrowOneLocked_outcome H B g
      generalize guestPoolGrowOneLocked H B g = r at hout ⊢
      cases hout <;> simp
    | attempt => rfl
  · cases h with
    | probe => simp
    | shrink =>
      have hout := guestPoolShrinkOneLocked_outcome H B g
      generalize guestPoolShrinkOneLocked H B g = r at hout ⊢
      cases hout <;> simp

lemma Moves.ready (h : Moves H B g g') : g'.pool.ready = g.pool.ready :=
  Transition.chain_invariant (I := fun k => k.pool.ready = g.pool.ready)
    (fun _ _ hm hk => hm.ready.trans hk) h rfl

/-- The free bytes follow from the ledger. -/
theorem Guest.SameLedger.of_size (hC : B.Counted) (hlive : (B.live g'.mm).Perm (B.live g.mm))
    (hsize : B.size g'.mm = B.size g.mm) : g.SameLedger B g' := by
  refine ⟨hlive,?_⟩
  rw [hC.avail,hC.avail,hsize,(hlive.map Extent.size).sum_nat]

lemma Moves.mmSize (hC : B.Counted) (h : Moves H B g g') : B.size g'.mm = B.size g.mm :=
  h.mm (J := fun mm => B.size mm = B.size g.mm) (fun asked hJ => (hC.alloc_size asked).trans hJ)
    (fun bs hJ => (hC.free_size _ bs).trans hJ) rfl

/-- An allocation that fails leaves the ledger alone. -/
theorem guestPoolAlloc_failed (hB : B.Sound) (hC : B.Counted)
    (h : (guestPoolAlloc H B maxNents size g).1 ≠ 0) :
    g.SameLedger B (guestPoolAlloc H B maxNents size g).2.2 := by
  rcases guestPoolAlloc_outcome (H := H) hB maxNents size g with
    ⟨ret,g',retry,ne,moves,heq⟩ | ⟨g',bs,mm',rises,-,asked,heq⟩
  · rw [heq]
    refine .of_size hC ?_ ?_
    · simpa using moves.live hB
    · simpa using moves.mmSize hC
  · exact absurd (congrArg Prod.fst heq) h

/-- What a successful allocation does to the ledger. -/
theorem guestPoolAlloc_live (hB : B.Sound) (h : (guestPoolAlloc H B maxNents size g).1 = 0) :
    (B.live (guestPoolAlloc H B maxNents size g).2.2.mm).Perm
      ((guestPoolAlloc H B maxNents size g).2.1 ++ B.live g.mm) := by
  rcases guestPoolAlloc_outcome (H := H) hB maxNents size g with
    ⟨ret,g',retry,ne,moves,heq⟩ | ⟨g',bs,mm',rises,-,asked,heq⟩
  · exact absurd ((congrArg Prod.fst heq).symm.trans h) ne
  · rw [heq]
    exact (hB.alloc_live asked).trans ((rises.moves.live hB).append_left bs)

/-- The free of the list just allocated undoes the allocation. -/
theorem guestPoolFree_restores (hB : B.Sound) (hC : B.Counted)
    (h : (guestPoolAlloc H B maxNents size g).1 = 0) :
    g.SameLedger B (guestPoolFree H B (guestPoolAlloc H B maxNents size g).2.1
      (guestPoolAlloc H B maxNents size g).2.2) := by
  have hready : g.pool.ready = true := by
    by_contra hclosed
    rw [Bool.not_eq_true] at hclosed
    simp [guestPoolAlloc,hclosed] at h
  rcases guestPoolAlloc_outcome (H := H) hB maxNents size g with
    ⟨ret,g',retry,ne,moves,heq⟩ | ⟨g',bs,mm',rises,-,asked,heq⟩
  · exact absurd ((congrArg Prod.fst heq).symm.trans h) ne
  have hlive := (hB.alloc_live asked).trans ((rises.moves.live hB).append_left bs)
  have hsize := (hC.alloc_size asked).trans (rises.moves.mmSize hC)
  have hopen : g'.pool.ready = true := rises.moves.ready.trans hready
  rw [heq]
  simp only [guestPoolFree,guestPoolFreeLocked,hopen,Bool.true_eq_false,false_or,if_false]
  split_ifs with hnone
  · subst hnone
    exact .of_size hC hlive hsize
  · have hfalls := (guestPoolReclaimLocked_falls (H := H) hB
      ({ g' with mm := B.freeList mm' bs } : Guest σ β)).moves
    refine .of_size hC ?_ ?_
    · simpa using (hfalls.live hB).trans (hB.free_live hlive)
    · simpa using (hfalls.mmSize hC).trans ((hC.free_size mm' bs).trans hsize)

/-- A create either fails before the command with the ledger restored, or comes to the command with the
blocks and the array. -/
theorem guestPoolCreate_cases (hB : B.Sound) (hC : B.Counted) {port : CreatePort} (hport : port.Errno)
    (maxNents maxNents' : ℤ) (size : ℕ) (g : Guest σ β) :
    let a := guestPoolAlloc H B maxNents (align size PAGE_SIZE) g
    let nents := wrap32 a.2.1.length
    (¬ (a.1 = 0 ∧ port.Passes maxNents' a.2.1) ∧ ∃ ret g',
      guestPoolCreate H B maxNents maxNents' port size g = (ret,none,g') ∧ ret < 0 ∧
        g.SameLedger B g') ∨
    ((a.1 = 0 ∧ port.Passes maxNents' a.2.1) ∧
      guestPoolCreate H B maxNents maxNents' port size g = (0,some ⟨align size PAGE_SIZE,
        (fillEnts g.pool.base a.2.1 0 (List.replicate nents port.stale)).flatMap MemEntry.bytes,
        nents⟩,a.2.2)) := by
  intro a nents
  have hfailed : ∀ ret : ℤ, ret < 0 → a.1 = 0 → ∃ ret' g', (ret,(none : Option CreateBlob),
      guestPoolFree H B a.2.1 a.2.2) = (ret',none,g') ∧ ret' < 0 ∧ g.SameLedger B g' :=
    fun ret hret hok => ⟨ret,_,rfl,hret,guestPoolFree_restores hB hC hok⟩
  simp only [guestPoolCreate]
  split_ifs with halloc hobject hmmap hid hnents harray
  · exact .inl ⟨fun h => halloc h.1,-ENOMEM,_,rfl,by decide,guestPoolAlloc_failed hB hC halloc⟩
  all_goals rw [not_not] at halloc
  · exact .inl ⟨fun h => by simp [h.2.objectAlloc] at hobject,hfailed _ (by decide) halloc⟩
  · exact .inl ⟨fun h => hmmap h.2.mmapOffset,hfailed _ (lt_of_le_of_ne hport.1 hmmap) halloc⟩
  · exact .inl ⟨fun h => hid h.2.resourceIdGet,hfailed _ (lt_of_le_of_ne hport.2 hid) halloc⟩
  · exact .inl ⟨fun h => h.2.nents hnents,hfailed _ (by decide) halloc⟩
  · exact .inl ⟨fun h => by simp [h.2.arrayAlloc] at harray,hfailed _ (by decide) halloc⟩
  · rw [Bool.not_eq_false] at hobject harray
    exact .inr ⟨⟨halloc,hobject,not_not.mp hmmap,not_not.mp hid,hnents,harray⟩,rfl⟩

end Ledger

lemma MemEntry.flatMap_bytes_length (ents : List MemEntry) :
    (ents.flatMap MemEntry.bytes).length = 16*ents.length := by
  induction ents with
  | nil => rfl
  | cons e ents ih =>
    rw [List.flatMap_cons,List.length_append,e.bytes_length,ih,List.length_cons,Nat.mul_succ,Nat.add_comm]

section Command
variable {q : CtrlqPort} {base resourceId : ℕ} {blocks : List Block} {params : ObjectParams}
  {stale : MemEntry}

/-- What becomes visible to the device is the command, with as much of the array as its size says, if
the queueing does not fail. -/
theorem cmdResourceCreateBlob_cmds (q : CtrlqPort) (resourceId : ℕ) (params : ObjectParams)
    (ents : List UInt8) (nents : ℕ) :
    (cmdResourceCreateBlob q resourceId params ents nents).1.cmds =
      if (entsSize nents ≠ 0 → q.isVmallocAddr = true → q.vmallocToSgt = true) ∧
          q.devEnter = true ∧ q.addSgs = 0 then
        [⟨resourceId,params,nents,ents.take (entsSize nents)⟩]
      else [] := by
  obtain ⟨vmalloc,table,enter,added⟩ := q
  simp only [cmdResourceCreateBlob,CtrlqPort.queueFencedCtrlBuffer,CtrlqPort.queueCtrlSgs]
  cases vmalloc <;> cases table <;> cases enter <;> by_cases hadd : added = 0 <;>
    by_cases hsize : entsSize nents = 0 <;> simp [hadd,hsize,VbufFate.cmds]

/-- For blocks, one complete command becomes visible exactly when the queue takes it. -/
theorem cmdResourceCreateBlob_complete_iff (hne : blocks ≠ []) :
    (∃ cmd, (cmdResourceCreateBlob q resourceId params
        ((fillEnts base blocks 0 (List.replicate (wrap32 blocks.length) stale)).flatMap
          MemEntry.bytes) (wrap32 blocks.length)).1.cmds = [cmd] ∧ cmd.Complete base blocks) ↔
      q.Takes blocks := by
  have hpos : 0 < blocks.length := List.length_pos_iff.mpr hne
  rw [cmdResourceCreateBlob_cmds]
  constructor
  · rintro ⟨cmd,hcmds,-,hdata⟩
    split_ifs at hcmds with hqueue
    obtain ⟨htable,hplugged,hadded⟩ := hqueue
    obtain rfl := List.head_eq_of_cons_eq hcmds
    have hlen := congrArg List.length hdata
    rw [List.length_take,MemEntry.flatMap_bytes_length,MemEntry.flatMap_bytes_length,
      List.length_map] at hlen
    have hsize : 16*blocks.length ≤ entsSize (wrap32 blocks.length) := hlen ▸ min_le_left _ _
    have hshort : 16*blocks.length < 2^32 := hsize.trans_lt (wrap32_lt _)
    exact ⟨htable (by omega),hplugged,hadded,hshort⟩
  · intro h
    have hshort := h.short
    have hcount : wrap32 blocks.length = blocks.length := wrap32_of_lt (by omega)
    have hsize : entsSize blocks.length = 16*blocks.length := wrap32_of_lt hshort
    rw [hcount,hsize,if_pos ⟨fun _ => h.table,h.plugged,h.added⟩,fillEnts_eq (by omega)]
    refine ⟨_,rfl,rfl,List.take_of_length_le ?_⟩
    rw [MemEntry.flatMap_bytes_length,List.length_map]

end Command

section Create
variable {σ β : Type} {H : PoolHost σ} {B : DrmBuddy β} {maxNents maxNents' : ℤ}
  {port : CreatePort}

/-- A list that was handed out is not empty. -/
theorem guestPoolAlloc_ne_nil (hB : B.Sound) (hS : B.Sized) {g : Guest σ β} {size : ℕ}
    (h : (guestPoolAlloc H B maxNents size g).1 = 0) :
    (guestPoolAlloc H B maxNents size g).2.1 ≠ [] := by
  obtain ⟨g',mm',-,asked⟩ := guestPoolAlloc_served (H := H) hB h
  obtain ⟨k,-,hminBs,hdvd⟩ := guestPoolRound_pow maxNents size
  intro hnil
  have htotal := hS.total asked (hminBs ▸ hdvd)
  have hpos := hS.nonzero asked
  rw [hnil,List.map_nil,List.sum_nil] at htotal
  omega

/-- In every state of the pool, and whatever fails, a create is all or nothing exactly when the queue takes
its command, if it comes to that. -/
theorem guestPoolCreateBlob_allOrNothing_iff (hB : B.Sound) (hS : B.Sized) (hC : B.Counted)
    (hport : port.Errno) (H : PoolHost σ) (maxNents maxNents' : ℤ) (q : CtrlqPort) (resourceId : ℕ)
    (params : ObjectParams) (g : Guest σ β) :
    let a := guestPoolAlloc H B maxNents (align params.size PAGE_SIZE) g
    AllOrNothing B g (guestPoolCreateBlob H B maxNents maxNents' port q resourceId params g) ↔
      (a.1 = 0 → port.Passes maxNents' a.2.1 → q.Takes a.2.1) := by
  intro a
  rcases guestPoolCreate_cases (H := H) hB hC hport maxNents maxNents' params.size g with
    ⟨hstopped,ret,g',heq,hret,hledger⟩ | ⟨⟨hok,hpasses⟩,heq⟩
  · simp only [guestPoolCreateBlob,heq]
    exact iff_of_true (.inl ⟨hret,rfl,hledger,rfl⟩) fun hok hpasses => absurd ⟨hok,hpasses⟩ hstopped
  · have hne := guestPoolAlloc_ne_nil hB hS hok
    simp only [guestPoolCreateBlob,heq]
    rw [imp_iff_right hok,imp_iff_right hpasses,← cmdResourceCreateBlob_complete_iff hne]
    constructor
    · rintro (⟨hret,-⟩ | ⟨-,o,cmd,hobject,hcmds,hcomplete,-⟩)
      · exact absurd hret (lt_irrefl _)
      · obtain rfl := Option.some.inj hobject
        exact ⟨cmd,hcmds,hcomplete⟩
    · rintro ⟨cmd,hcmds,hcomplete⟩
      exact .inr ⟨rfl,_,cmd,rfl,hcmds,hcomplete,guestPoolAlloc_live hB hok⟩

end Create

/-- A page of a pool of two, with a queue that takes the command. -/
theorem guestPoolCreateBlob_allOrNothing_page :
    let g : Guest Unit FirstFit :=
      ⟨⟨0x100000000,0x2000,0,0x2000,0x2000,0,true,false⟩,⟨0x2000,[]⟩,(),[]⟩
    let a := guestPoolAlloc PoolHost.willing FirstFit.buddy 65536 (align 0x1000 PAGE_SIZE) g
    AllOrNothing FirstFit.buddy g (guestPoolCreateBlob PoolHost.willing FirstFit.buddy 65536 65536
        .willing .willing 5 ⟨1,1,8,7,0x1000⟩ g) ↔
      (a.1 = 0 → CreatePort.willing.Passes 65536 a.2.1 → CtrlqPort.willing.Takes a.2.1) :=
  guestPoolCreateBlob_allOrNothing_iff FirstFit.buddy_sound FirstFit.buddy_sized FirstFit.buddy_counted
    ⟨le_rfl,le_rfl⟩ PoolHost.willing 65536 65536 .willing 5 ⟨1,1,8,7,0x1000⟩ _

/-- A blob of 257 pages, one block each, when the device is unplugged at the queueing, and when its array
of more than a page is vmalloc'd and the table for it cannot be built. The create returns 0 with an
object that is marked created, and the device sees no command. -/
theorem guestPoolCreateBlob_untold :
    let g : Guest Unit FirstFit :=
      ⟨⟨0x100000000,0x200000,0,0x200000,0x200000,0,true,false⟩,⟨0x200000,[]⟩,(),[]⟩
    let r (q : CtrlqPort) := guestPoolCreateBlob PoolHost.willing FirstFit.buddy 65536 65536 .willing q 5
      ⟨1,1,8,7,0x101000⟩ g
    ∀ q ∈ [(⟨false,true,false,0⟩ : CtrlqPort),⟨true,false,true,0⟩],
      (r q).ret = 0 ∧ (r q).object.map (fun o => (o.blocks.length,o.created)) = some (257,true) ∧
        (r q).cmds = [] ∧ ¬ AllOrNothing FirstFit.buddy g (r q) := by
  intro g r q hq
  have hret : (r q).ret = 0 := by
    revert q
    decide +kernel
  have hcreated : (r q).object.map (fun o => (o.blocks.length,o.created)) = some (257,true) := by
    revert q
    decide +kernel
  have hcmds : (r q).cmds = [] := by
    revert q
    decide +kernel
  refine ⟨hret,hcreated,hcmds,?_⟩
  rintro (⟨hneg,-⟩ | ⟨-,o,cmd,-,hsome,-⟩)
  · exact absurd hneg (hret ▸ lt_irrefl _)
  · exact absurd (hcmds.symm.trans hsome) (List.cons_ne_nil _ _).symm

end GuestAdditions

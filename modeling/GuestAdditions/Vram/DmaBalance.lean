import GuestAdditions.Vram.DmaBuf

/-! The calls of `dma_map_resource` and `dma_unmap_resource` for an object of the guest pool. A block is
mapped with the 64 bits of its size and unmapped with the 32 bits of `sg_dma_len`. -/
namespace GuestAdditions

/-- One run of the guest-pool branch of `virtio_gpu_vram_map_dma_buf`: its result, the mappings that it
made and those that it undid, each by address and length. -/
structure DmaRun where
  ret : Except ℤ (List SgEntry)
  mapped : List (ℕ × ℕ)
  unmapped : List (ℕ × ℕ)
  deriving DecidableEq

/-- `dma_map_resource` for a block. -/
def dmaAddr (port : DmaPort) (base : ℕ) (b : Block) : Option ℕ :=
  port.mapResource (wrap64 (base+b.offset)) b.size

/-- The loop over the blocks, with the entries that are left of the table: whether it reached the end, the
mappings and the entries written. Behind the last entry `sg_next` returns NULL, and a block that is
mapped then is written through it. -/
def dmaMapTable (port : DmaPort) (base : ℕ) :
    ℕ → List Block → Option (Bool × List (ℕ × ℕ) × List SgEntry)
  | _, [] => some (true,[],[])
  | room, b::blocks =>
    match dmaAddr port base b with
    | none => some (false,[],[])
    | some addr =>
      match room with
      | 0 => none
      | room+1 => (dmaMapTable port base room blocks).map fun r =>
        (r.1,(addr,b.size)::r.2.1,⟨wrap64 (base+b.offset),addr,dmaLen b⟩::r.2.2)

/-- The guest-pool branch of `virtio_gpu_vram_map_dma_buf`. The count of blocks has 32 bits. -/
def Vram.mapGuestPool (dev : VramDev) (port : DmaPort) (v : Vram) : Option DmaRun :=
  if port.sgtAlloc = false then some ⟨.error (-ENOMEM),[],[]⟩
  else
    let nents := wrap32 v.guestPoolBlocks.length
    if nents = 0 then some ⟨.error (-EINVAL),[],[]⟩
    else if port.tableAlloc = false then some ⟨.error (-ENOMEM),[],[]⟩
    else (dmaMapTable port dev.guestPool.base nents v.guestPoolBlocks).map fun r =>
      if r.1 then ⟨.ok r.2.2,r.2.1,[]⟩ else ⟨.error (- EIO),r.2.1,dmaUnmap r.2.2⟩

/-- Each mapping that was made is undone once, with its address and length: by an error on the way, or by
`virtio_gpu_vram_unmap_dma_buf` on the table. -/
def DmaRun.Balanced (r : DmaRun) : Prop :=
  match r.ret with
  | .error _ => r.unmapped.Perm r.mapped
  | .ok sgt => r.unmapped = [] ∧ (dmaUnmap sgt).Perm r.mapped

/-- The blocks before the first whose mapping fails. -/
def mappedBlocks (port : DmaPort) (base : ℕ) (blocks : List Block) : List Block :=
  blocks.takeWhile fun b => (dmaAddr port base b).isSome

/-- The mapping of a block that can be mapped. -/
def dmaCall (port : DmaPort) (base : ℕ) (b : Block) : ℕ × ℕ := ((dmaAddr port base b).getD 0,b.size)

/-- The entry of a block that can be mapped. -/
def sgEntry (port : DmaPort) (base : ℕ) (b : Block) : SgEntry :=
  ⟨wrap64 (base+b.offset),(dmaAddr port base b).getD 0,dmaLen b⟩

section Table
variable {port : DmaPort} {base : ℕ} {blocks : List Block}

lemma mappedBlocks_cons_none {b : Block} (h : dmaAddr port base b = none) :
    mappedBlocks port base (b::blocks) = [] := by
  simp [mappedBlocks,h]

lemma mappedBlocks_cons_some {b : Block} {addr : ℕ} (h : dmaAddr port base b = some addr) :
    mappedBlocks port base (b::blocks) = b::mappedBlocks port base blocks := by
  simp [mappedBlocks,h]

/-- The loop maps the blocks up to the first failure, if the table has an entry for each. -/
theorem dmaMapTable_eq (room : ℕ) : dmaMapTable port base room blocks =
    if (mappedBlocks port base blocks).length ≤ room then
      some (decide (mappedBlocks port base blocks = blocks),
        (mappedBlocks port base blocks).map (dmaCall port base),
        (mappedBlocks port base blocks).map (sgEntry port base))
    else none := by
  induction blocks generalizing room with
  | nil => simp [dmaMapTable,mappedBlocks]
  | cons b blocks ih =>
    cases haddr : dmaAddr port base b with
    | none => simp [dmaMapTable,haddr,mappedBlocks_cons_none haddr]
    | some addr =>
      rw [mappedBlocks_cons_some haddr]
      cases room with
      | zero => simp [dmaMapTable,haddr]
      | succ room =>
        simp only [dmaMapTable,haddr,ih,List.length_cons,Nat.add_le_add_iff_right]
        split_ifs
        · simp [dmaCall,sgEntry,haddr]
        · rfl

/-- The mappings are undone exactly when every block is below 4 GiB. -/
theorem dmaUnmap_perm_iff (port : DmaPort) (base : ℕ) (blocks : List Block) :
    (dmaUnmap (blocks.map (sgEntry port base))).Perm (blocks.map (dmaCall port base)) ↔
      ∀ b ∈ blocks, b.size < 2^32 := by
  have hunmap : dmaUnmap (blocks.map (sgEntry port base)) =
      (blocks.filter (dmaLen · ≠ 0)).map fun b => ((dmaAddr port base b).getD 0,dmaLen b) := by
    rw [dmaUnmap,List.filter_map,List.map_map]
    rfl
  rw [hunmap]
  constructor
  · intro h b hb
    have hsum := (h.map Prod.snd).sum_nat
    rw [List.map_map,List.map_map] at hsum
    have htotal : Segments.total dmaLen blocks = Segments.total Extent.size blocks :=
      (Segments.total_filter_ne_zero dmaLen blocks).symm.trans hsum
    rw [← (Segments.total_eq_iff fun b _ => dmaLen_le b).mp htotal b hb]
    exact wrap32_lt _
  · intro h
    have hlen : ∀ b ∈ blocks, dmaLen b = b.size := fun b hb => wrap32_of_lt (h b hb)
    rw [List.filter_eq_self.mpr fun b hb => by simp [hlen b hb,b.pos.ne']]
    refine List.Perm.of_eq (List.map_congr_left fun b hb => ?_)
    rw [hlen b hb,dmaCall]

/-- For fewer than `2^32` blocks the entries of the table are those of the shorter model of the loop. -/
theorem dmaMapBlocks_eq : dmaMapBlocks port base blocks =
    (decide (mappedBlocks port base blocks = blocks),
      (mappedBlocks port base blocks).map (sgEntry port base)) := by
  induction blocks with
  | nil => rfl
  | cons b blocks ih =>
    have hcall : port.mapResource (wrap64 (base+b.offset)) b.size = dmaAddr port base b := rfl
    cases haddr : dmaAddr port base b with
    | none => simp [dmaMapBlocks,hcall,haddr,mappedBlocks_cons_none haddr]
    | some addr => simp [dmaMapBlocks,hcall,haddr,mappedBlocks_cons_some haddr,ih,sgEntry]

lemma mappedBlocks_length_le : (mappedBlocks port base blocks).length ≤ blocks.length :=
  (List.takeWhile_sublist _).length_le

end Table

namespace Vram
variable {dev : VramDev} {port : DmaPort} {v : Vram}

/-- The blocks that the loop maps, if it is entered at all, are below 4 GiB, and no more than the 32-bit
count. -/
structure DmaFits (dev : VramDev) (port : DmaPort) (v : Vram) : Prop where
  small : ∀ b ∈ mappedBlocks port dev.guestPool.base v.guestPoolBlocks, b.size < 2^32
  counted : (mappedBlocks port dev.guestPool.base v.guestPoolBlocks).length ≤
    wrap32 v.guestPoolBlocks.length

/-- The branch agrees with `mapDmaBuf` on every list of fewer than `2^32` blocks. -/
theorem mapDmaBuf_eq_mapGuestPool (howned : v.guestPoolOwned = true)
    (hshort : v.guestPoolBlocks.length < 2^32) :
    (v.mapGuestPool dev port).map (fun r => (r.ret,r.unmapped)) = some (v.mapDmaBuf dev port) := by
  have hzero : wrap32 v.guestPoolBlocks.length = 0 ↔ v.guestPoolBlocks = [] := by
    rw [wrap32_of_lt hshort,List.length_eq_zero_iff]
  simp only [mapGuestPool,mapDmaBuf,howned,if_true,hzero,dmaMapBlocks_eq]
  rw [wrap32_of_lt hshort,dmaMapTable_eq,if_pos mappedBlocks_length_le]
  split_ifs <;> simp_all

/-- For every list of blocks and every block at which `dma_map_resource` may fail, the mappings are undone
exactly when the blocks mapped before it fit. -/
theorem mapGuestPool_balanced_iff (dev : VramDev) (port : DmaPort) (v : Vram) :
    (∃ r, v.mapGuestPool dev port = some r ∧ r.Balanced) ↔
      (port.sgtAlloc = true → port.tableAlloc = true → wrap32 v.guestPoolBlocks.length ≠ 0 →
        v.DmaFits dev port) := by
  simp only [mapGuestPool,dmaMapTable_eq]
  split_ifs with hsgt hzero htable hroom
  · exact iff_of_true ⟨_,rfl,.refl _⟩ fun h => absurd (hsgt.symm.trans h) (by decide)
  · exact iff_of_true ⟨_,rfl,.refl _⟩ fun _ _ h => absurd hzero h
  · exact iff_of_true ⟨_,rfl,.refl _⟩ fun _ h => absurd (htable.symm.trans h) (by decide)
  · rw [Bool.not_eq_false] at hsgt htable
    rw [imp_iff_right hsgt,imp_iff_right htable,imp_iff_right hzero]
    have hfits : v.DmaFits dev port ↔
        ∀ b ∈ mappedBlocks port dev.guestPool.base v.guestPoolBlocks, b.size < 2^32 :=
      ⟨fun h => h.small,fun h => ⟨h,hroom⟩⟩
    rw [hfits,← dmaUnmap_perm_iff port dev.guestPool.base]
    simp only [Option.map_some,Option.some.injEq,exists_eq_left']
    by_cases hall : mappedBlocks port dev.guestPool.base v.guestPoolBlocks = v.guestPoolBlocks
    · simp [hall,DmaRun.Balanced]
    · simp [hall,DmaRun.Balanced]
  · rw [Bool.not_eq_false] at hsgt htable
    refine iff_of_false (by simp) fun h => hroom (h hsgt htable hzero).counted

end Vram

/-- An object of 4 GiB and a page in two blocks, over a device that maps everything: nothing of the first
block is unmapped. When the second mapping fails, nothing is unmapped at all. -/
theorem mapGuestPool_four_gib :
    let dev : VramDev := ⟨false,false,0,0,⟨0x100000000,2^33,0,2^33,2^33,0,true,false⟩⟩
    let v := Vram.guestPoolCreate (2^32+0x1000) 1 0 [⟨0,2^32,by decide⟩,⟨2^32,0x1000,by decide⟩]
    let sgt : List SgEntry := [⟨0x100000000,0x100000000,0⟩,⟨0x200000000,0x200000000,0x1000⟩]
    let failing : DmaPort := ⟨true,true,fun pa _ => if pa = 0x100000000 then some pa else none,false⟩
    v.mapGuestPool dev .willing =
        some ⟨.ok sgt,[(0x100000000,2^32),(0x200000000,0x1000)],[]⟩ ∧
      dmaUnmap sgt = [(0x200000000,0x1000)] ∧
      v.mapGuestPool dev failing = some ⟨.error (- EIO),[(0x100000000,2^32)],[]⟩ ∧
      (¬ ∃ r, v.mapGuestPool dev .willing = some r ∧ r.Balanced) ∧
      ¬ ∃ r, v.mapGuestPool dev failing = some r ∧ r.Balanced := by
  intro dev v sgt failing
  have hunmap : dmaUnmap sgt = [(0x200000000,0x1000)] := by decide +kernel
  have hmapped : v.mapGuestPool dev .willing =
      some ⟨.ok sgt,[(0x100000000,2^32),(0x200000000,0x1000)],[]⟩ := by decide +kernel
  have hfailed : v.mapGuestPool dev failing = some ⟨.error (- EIO),[(0x100000000,2^32)],[]⟩ := by
    decide +kernel
  refine ⟨hmapped,hunmap,hfailed,?_,?_⟩
  · rintro ⟨r,hr,hbalanced⟩
    obtain rfl := Option.some.inj (hmapped.symm.trans hr)
    have hlen := hbalanced.2.length_eq
    rw [hunmap] at hlen
    exact absurd hlen (by decide)
  · rintro ⟨r,hr,hbalanced⟩
    obtain rfl := Option.some.inj (hfailed.symm.trans hr)
    exact absurd hbalanced.length_eq (by decide)

end GuestAdditions

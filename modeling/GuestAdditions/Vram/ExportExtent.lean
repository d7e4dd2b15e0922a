import GuestAdditions.Blob.CreateBlob
import GuestAdditions.GuestPool.Doubt
import GuestAdditions.Vram.DmaBalance

/-! The length of the table that an importer is given, against the size that the dma-buf is exported with,
which is that of the object. -/
namespace GuestAdditions

/-- Every table with DMA segments covers the object, and nothing beyond it. -/
def Vram.ExportExtent (dev : VramDev) (v : Vram) : Prop :=
  ∀ port sgt, (v.mapDmaBuf dev port).1 = .ok sgt →
    Segments.total SgEntry.len sgt = v.size ∧
      ∀ o, (Segments.locate SgEntry.len sgt o).isSome → o < v.size

/-- The objects that are exported with DMA segments: mappable objects of the host, answered or not, and
objects over a list that an allocation with the limit `maxNents` handed out, shorter than the 32-bit
count of it. -/
inductive Vram.Exportable {β : Type} (B : DrmBuddy β) (dev : VramDev) (maxNents : ℤ) : Vram → Prop
  | host {v} (created : Vram.Created dev v) (mappable : v.UseMappable)
      (notOwned : v.guestPoolOwned = false) : Exportable B dev maxNents v
  | guestPool {σ : Type} (H : PoolHost σ) (g : Guest σ β) (size blobFlags : ℕ) (vmaNode : UInt64)
      (ok : (guestPoolAlloc H B maxNents (align size PAGE_SIZE) g).1 = 0)
      (short : (guestPoolAlloc H B maxNents (align size PAGE_SIZE) g).2.1.length < 2^32) :
      Exportable B dev maxNents (Vram.guestPoolCreate size blobFlags vmaNode
        (guestPoolAlloc H B maxNents (align size PAGE_SIZE) g).2.1)

/-- No rounding adds to the size, and every length fits the 32 bits of a segment: an object of the host is
whole folios below 4 GiB; for one of the guest pool the rounding to the minimum block size changes
nothing, and its blocks are below 4 GiB. -/
def Vram.Unpadded (maxNents : ℤ) (v : Vram) : Prop :=
  if v.guestPoolOwned then
    (guestPoolRound maxNents v.size).1 = v.size ∧ ∀ b ∈ v.guestPoolBlocks, b.size < 2^32
  else SZ_2M ∣ v.size ∧ v.size < 2^32

namespace Vram
variable {dev : VramDev} {v : Vram}

/-- The total decides: a table covers the offsets below it. -/
theorem exportExtent_iff {n : ℕ} (hsome : ∃ port sgt, (v.mapDmaBuf dev port).1 = .ok sgt)
    (htotal : ∀ port sgt, (v.mapDmaBuf dev port).1 = .ok sgt → Segments.total SgEntry.len sgt = n) :
    v.ExportExtent dev ↔ n = v.size := by
  constructor
  · intro h
    obtain ⟨port,sgt,hsgt⟩ := hsome
    exact (htotal port sgt hsgt).symm.trans (h port sgt hsgt).1
  · intro heq port sgt hsgt
    have hlen := (htotal port sgt hsgt).trans heq
    exact ⟨hlen,fun o ho => hlen ▸ Segments.locate_isSome.mp ho⟩

/-- The one segment of an object of the host has the size of the object exactly for whole folios below
4 GiB. -/
theorem HostMapped.wrap32_node_iff (h : v.HostMapped) :
    wrap32 v.nodeSize = v.size ↔ SZ_2M ∣ v.size ∧ v.size < 2^32 := by
  obtain ⟨hle,-,hfolio,-⟩ := h.size_le_node
  constructor
  · intro heq
    have hsmall : v.nodeSize < 2^32 := by
      by_contra hbig
      exact absurd heq (h.wrap32_lt_size (not_lt.mp hbig)).ne
    rw [wrap32_of_lt hsmall] at heq
    exact ⟨heq ▸ hfolio,heq ▸ hsmall⟩
  · intro ⟨hdvd,hsmall⟩
    rw [sz2M_eq] at hdvd
    rw [h.nodeSize_eq,sz2M_eq,align_of_dvd (by norm_num) h.size_lt hdvd,wrap32_of_lt hsmall]

lemma HostMapped.exportExtent_iff (h : v.HostMapped) (hflag : v.UseMappable) :
    v.ExportExtent dev ↔ SZ_2M ∣ v.size ∧ v.size < 2^32 := by
  rw [← h.wrap32_node_iff]
  refine Vram.exportExtent_iff ⟨.willing,[⟨v.nodeStart,v.nodeStart,wrap32 v.nodeSize⟩],?_⟩
    fun port sgt hsgt => ?_
  · simp [mapDmaBuf,h.notOwned,hflag,DmaPort.willing]
  · obtain ⟨addr,rfl⟩ := h.mapDmaBuf_eq hflag hsgt
    simp

end Vram

/-- The blocks of a request for `s` bytes with the minimum block size `2^k`. -/
structure RoundedBlocks (k s : ℕ) (blocks : List Block) : Prop where
  block_le : ∀ b ∈ blocks, 2^k ≤ b.size
  total : Segments.total Extent.size blocks = align s (2^k)
  pos : 0 < s
  le : s ≤ align s (2^k)
  lt : align s (2^k) < s+2^k

section Blocks
variable {k s : ℕ} {b : Block} {blocks : List Block}

/-- A block of 4 GiB or more that is as large as the minimum block size loses at least that much of its
length. -/
theorem pow_le_lost (hk : 32 ≤ k) (h : 2^k ≤ b.size) : dmaLen b+2^k ≤ b.size := by
  obtain ⟨c,hc⟩ : 2^32 ∣ 2^k := pow_dvd_pow 2 hk
  simp only [dmaLen,wrap32]
  omega

/-- The lengths of the segments add up to no less than the total less what one block loses. -/
theorem total_dmaLen_add_le (hb : b ∈ blocks) : Segments.total dmaLen blocks+b.size ≤
    Segments.total Extent.size blocks+dmaLen b := by
  obtain ⟨pre,post,rfl⟩ := List.append_of_mem hb
  have hpre : Segments.total dmaLen pre ≤ Segments.total Extent.size pre :=
    List.sum_le_sum fun c _ => dmaLen_le c
  have hpost : Segments.total dmaLen post ≤ Segments.total Extent.size post :=
    List.sum_le_sum fun c _ => dmaLen_le c
  simp only [Segments.total_append,Segments.total_cons]
  omega

/-- The segments add up to the request exactly when its rounding adds nothing and every block is below
4 GiB: what a larger block loses is more than the rounding adds. -/
theorem RoundedBlocks.total_dmaLen_iff (h : RoundedBlocks k s blocks) :
    Segments.total dmaLen blocks = s ↔ align s (2^k) = s ∧ ∀ b ∈ blocks, b.size < 2^32 := by
  have hsmall : (∀ b ∈ blocks, b.size < 2^32) →
      Segments.total dmaLen blocks = align s (2^k) := fun hall =>
    (Segments.total_congr fun b hb => wrap32_of_lt (hall b hb)).trans h.total
  constructor
  · intro heq
    have hall : ∀ b ∈ blocks, b.size < 2^32 := by
      intro b hb
      by_contra hbig
      have hlost := total_dmaLen_add_le hb
      have hlt := h.lt
      rw [heq,h.total] at hlost
      have hlow : dmaLen b+2^32 ≤ b.size := pow_le_lost le_rfl (not_lt.mp hbig)
      have hk : 32 ≤ k := (Nat.pow_le_pow_iff_right (le_refl 2)).mp (by omega)
      have hlong := pow_le_lost hk (h.block_le b hb)
      omega
    exact ⟨(hsmall hall).symm.trans heq,hall⟩
  · intro ⟨hround,hall⟩
    exact (hsmall hall).trans hround

end Blocks

section Pool
variable {σ β : Type} {H : PoolHost σ} {B : DrmBuddy β} {dev : VramDev} {maxNents : ℤ} {s : ℕ}

/-- What an allocation of whole pages hands out. -/
theorem guestPoolAlloc_rounded (hB : B.Sound) (hS : B.Sized) {g : Guest σ β} (hpage : PAGE_SIZE ∣ s)
    (hlt : s < 2^64) (hok : (guestPoolAlloc H B maxNents s g).1 = 0) :
    ∃ k, (guestPoolRound maxNents s).1 = align s (2^k) ∧
      RoundedBlocks k s (guestPoolAlloc H B maxNents s g).2.1 := by
  have hpos : 0 < s := by
    refine Nat.pos_of_ne_zero fun h0 => ?_
    rw [guestPoolAlloc_refused (.inl h0)] at hok
    exact absurd hok (show (-ENOMEM : ℤ) ≠ 0 by decide)
  obtain ⟨g',mm',-,asked⟩ := guestPoolAlloc_served (H := H) hB hok
  obtain ⟨k,-,hk,hminBs,hsize⟩ := guestPoolRound_align maxNents s
  rw [align_page_of_dvd hlt hpage] at hsize
  rw [hminBs,hsize] at asked
  have hround := align_bounds hk hlt (hS.nonzero asked)
  exact ⟨k,hsize,hS.block_le asked,hS.total asked (dvd_align_pow _ _),hpos,hround.1,hround.2⟩

/-- The table of an object of the guest pool. -/
theorem Vram.mapDmaBuf_owned {v : Vram} (howned : v.guestPoolOwned = true) {port : DmaPort}
    {sgt : List SgEntry} (hsgt : (v.mapDmaBuf dev port).1 = .ok sgt) :
    sgt = v.guestPoolBlocks.map (sgEntry port dev.guestPool.base) := by
  simp only [mapDmaBuf,howned,if_true,dmaMapBlocks_eq] at hsgt
  split_ifs at hsgt with hsgtAlloc hnone htable hall
  rw [decide_eq_true_eq] at hall
  rw [← Except.ok.inj hsgt,hall]

lemma Vram.exportExtent_owned_iff {v : Vram} (howned : v.guestPoolOwned = true)
    (hne : v.guestPoolBlocks ≠ []) :
    v.ExportExtent dev ↔ Segments.total dmaLen v.guestPoolBlocks = v.size := by
  refine Vram.exportExtent_iff
    ⟨.willing,(dmaMapBlocks .willing dev.guestPool.base v.guestPoolBlocks).2,?_⟩ fun port sgt hsgt => ?_
  · rw [mapDmaBuf,if_neg (by decide),if_pos howned,if_neg hne,if_neg (by decide),
      if_pos (dmaMapBlocks_willing _ _)]
  · rw [Vram.mapDmaBuf_owned howned hsgt,Segments.total,List.map_map]
    rfl

end Pool

/-- For every object that is exported with DMA segments, the segments add up to its size exactly when no
rounding has added to it and every length fits a segment. -/
theorem mapDmaBuf_extent_iff {β : Type} {B : DrmBuddy β} (hB : B.Sound) (hS : B.Sized) {dev : VramDev}
    {maxNents : ℤ} {v : Vram} (h : v.Exportable B dev maxNents) :
    v.ExportExtent dev ↔ v.Unpadded maxNents := by
  cases h with
  | host created mappable notOwned =>
    have hmapped : v.HostMapped := by
      refine (created.cases mappable).resolve_right fun hguest => ?_
      exact absurd (notOwned.symm.trans hguest.owned) (by decide)
    rw [hmapped.exportExtent_iff mappable,Vram.Unpadded,notOwned]
    simp
  | guestPool H g size blobFlags vmaNode ok short =>
    obtain ⟨k,hround,hblocks⟩ := guestPoolAlloc_rounded hB hS (dvd_align_page size) (align_lt _ _) ok
    rw [Vram.exportExtent_owned_iff rfl (guestPoolAlloc_ne_nil hB hS ok)]
    simp only [Vram.Unpadded,Vram.guestPoolCreate,if_true]
    rw [hround]
    exact hblocks.total_dmaLen_iff

/-- An object of one page in a pool of two. -/
theorem mapDmaBuf_extent_page :
    let dev : VramDev := ⟨false,false,0,0,⟨0x100000000,0x2000,0,0x2000,0x2000,0,true,false⟩⟩
    let g : Guest Unit FirstFit := ⟨dev.guestPool,⟨0x2000,[]⟩,(),[]⟩
    let v := Vram.guestPoolCreate 0x1000 1 0
      (guestPoolAlloc PoolHost.willing FirstFit.buddy 65536 (align 0x1000 PAGE_SIZE) g).2.1
    v.ExportExtent dev ↔ v.Unpadded 65536 :=
  mapDmaBuf_extent_iff FirstFit.buddy_sound FirstFit.buddy_sized
    (.guestPool PoolHost.willing _ 0x1000 1 0 (by decide +kernel) (by decide +kernel))

/-- An object of one page in the window of the host is exported with a segment of 2 MiB, and with a limit
of one entry an object of three pages of the guest pool with segments of four pages. -/
theorem mapDmaBuf_extent_padded :
    let dev : VramDev :=
      ⟨true,false,0x200000000,0,⟨0x100000000,0x8000,0,0x8000,0x8000,0,true,false⟩⟩
    let port : VramPort := ⟨true,(0,0),0,fun size => (if size = 0 then -ENOSPC else 0,0x200000000),true,
      fun _ => 0⟩
    let g : Guest Unit FirstFit := ⟨dev.guestPool,⟨0x8000,[]⟩,(),[]⟩
    let hosted : Vram := ⟨0x1000,1,0,.initializing,0,false,0,false,[],0x200000000,0x200000⟩
    let pooled := Vram.guestPoolCreate 0x3000 1 0
      (guestPoolAlloc PoolHost.willing FirstFit.buddy 1 (align 0x3000 PAGE_SIZE) g).2.1
    Vram.create dev port 0x1000 1 = (0,some hosted) ∧
      (hosted.mapDmaBuf dev .willing).1 = .ok [⟨0x200000000,0x200000000,0x200000⟩] ∧
      ¬ hosted.ExportExtent dev ∧
      (guestPoolAlloc PoolHost.willing FirstFit.buddy 1 (align 0x3000 PAGE_SIZE) g).1 = 0 ∧
      (pooled.mapDmaBuf dev .willing).1 =
        .ok [⟨0x100000000,0x100000000,0x2000⟩,⟨0x100002000,0x100002000,0x2000⟩] ∧
      ¬ pooled.ExportExtent dev := by
  intro dev port g hosted pooled
  have hhosted : (hosted.mapDmaBuf dev .willing).1 =
      .ok [⟨0x200000000,0x200000000,0x200000⟩] := by decide +kernel
  have hpooled : (pooled.mapDmaBuf dev .willing).1 =
      .ok [⟨0x100000000,0x100000000,0x2000⟩,⟨0x100002000,0x100002000,0x2000⟩] := by decide +kernel
  refine ⟨by decide +kernel,hhosted,fun h => ?_,by decide +kernel,hpooled,fun h => ?_⟩
  · exact absurd (h _ _ hhosted).1 (by decide)
  · exact absurd (h _ _ hpooled).1 (by decide +kernel)

end GuestAdditions

import GuestAdditions.Vram.Mmap

/-! `virtio_gpu_vram_map_dma_buf`: the segments that an importer of an object is given, against the
pages that a mapping of the same object installs. -/
namespace GuestAdditions

/-- An entry of the table: the physical address that `dma_map_resource` was called for, with the
address that it returned, and `sg_dma_len`, which is 32 bits wide. -/
structure SgEntry where
  phys : ℕ
  addr : ℕ
  len : ℕ
  deriving DecidableEq

/-- How the calls of a table's construction end. -/
structure DmaPort where
  sgtAlloc : Bool
  tableAlloc : Bool
  mapResource : ℕ → ℕ → Option ℕ
  isVirtioDevice : Bool

/-- The length of a block that an importer sees. -/
def dmaLen (b : Block) : ℕ := wrap32 b.size

/-- The DMA mappings of the blocks in order, up to the first that fails. -/
def dmaMapBlocks (port : DmaPort) (base : ℕ) : List Block → Bool × List SgEntry
  | [] => (true,[])
  | b::blocks =>
    let pa := wrap64 (base+b.offset)
    match port.mapResource pa b.size with
    | none => (false,[])
    | some addr =>
      let r := dmaMapBlocks port base blocks
      (r.1,⟨pa,addr,dmaLen b⟩::r.2)

/-- The loop at `err_unmap_guest`, also that of `virtio_gpu_vram_unmap_dma_buf`: the calls of
`dma_unmap_resource`. -/
def dmaUnmap (sgt : List SgEntry) : List (ℕ × ℕ) :=
  (sgt.filter (·.len ≠ 0)).map fun sg => (sg.addr,sg.len)

/-- The physical page that the segments, laid end to end, cover at an offset. -/
def dmaPage (sgt : List SgEntry) (o : ℕ) : Option ℕ :=
  (Segments.locate SgEntry.len sgt o).map fun p => physPage (p.1.phys+p.2)

namespace Vram

/-- `virtio_gpu_vram_map_dma_buf`: the table or the error, and the mappings undone. -/
def mapDmaBuf (dev : VramDev) (port : DmaPort) (v : Vram) :
    Except ℤ (List SgEntry) × List (ℕ × ℕ) :=
  if port.sgtAlloc = false then (.error (-ENOMEM),[])
  else if v.guestPoolOwned then
    if v.guestPoolBlocks = [] then (.error (-EINVAL),[])
    else if port.tableAlloc = false then (.error (-ENOMEM),[])
    else
      let r := dmaMapBlocks port dev.guestPool.base v.guestPoolBlocks
      if r.1 then (.ok r.2,[]) else (.error (- EIO),dmaUnmap r.2)
  else if ¬ v.UseMappable then
    -- A virtio device finds the buffer by its UUID and needs only a stub.
    if port.isVirtioDevice = false ∨ dev.hasResourceAssignUuid = false then (.error (- EIO),[])
    else (.ok [],[])
  else if port.tableAlloc = false then (.error (-ENOMEM),[])
  else
    match port.mapResource v.nodeStart v.nodeSize with
    | none => (.error (-ENOMEM),[])
    | some addr => (.ok [⟨v.nodeStart,addr,wrap32 v.nodeSize⟩],[])

/-- Every page of the object that a successful mapping installs is the page that every table covers
at the same offset. -/
def PagesAgree (dev : VramDev) (v : Vram) : Prop :=
  ∀ remap port vma runs sgt, vma.Valid → v.mmap dev remap vma = some (0,runs) →
    (v.mapDmaBuf dev port).1 = .ok sgt →
    ∀ k, vma.vmStart+k*PAGE_SIZE < vma.vmEnd → (v.pgoff vma+k)*PAGE_SIZE < v.size →
      ∃ page, pageAt runs (vma.vmStart+k*PAGE_SIZE) = some page ∧
        dmaPage sgt ((v.pgoff vma+k)*PAGE_SIZE) = some page

/-- When the two computations name the same memory. In the window of the host the node is less than
4 GiB; in the pool of the host its address is, besides, the page of the node, unless there is no such
pool and nothing can be mapped; in the guest pool no block of 4 GiB or more reaches into the object
beyond the low 32 bits of its size. -/
def SameMemory (dev : VramDev) (v : Vram) : Prop :=
  if v.guestPoolOwned then
    ∀ pre b post, v.guestPoolBlocks = pre ++ b::post →
      b.size < 2^32 ∨ v.size ≤ Segments.total Extent.size pre+dmaLen b
  else if v.poolResident then
    dev.gpuPoolBase = 0 ∨
      physPage (dev.gpuPoolBase+v.poolOffset) = physPage v.nodeStart ∧ v.nodeSize < 2^32
  else v.nodeSize < 2^32

end Vram

/-- The page at an offset of the segments of the blocks. -/
def segmentPage (base : ℕ) (blocks : List Block) (o : ℕ) : Option ℕ :=
  (Segments.locate dmaLen blocks o).map fun p => physPage (base+(p.1.offset+p.2))

lemma dmaMapBlocks_page {port : DmaPort} {base : ℕ} {blocks : List Block}
    (h : (dmaMapBlocks port base blocks).1 = true) (o : ℕ) :
    dmaPage (dmaMapBlocks port base blocks).2 o = segmentPage base blocks o := by
  induction blocks generalizing o with
  | nil => rfl
  | cons b blocks ih =>
    simp only [dmaMapBlocks] at h ⊢
    cases hmap : port.mapResource (wrap64 (base+b.offset)) b.size with
    | none => simp [hmap] at h
    | some addr =>
      simp only [hmap] at h ⊢
      by_cases ho : o < dmaLen b
      · simp only [dmaPage, segmentPage, Segments.locate, if_pos ho, Option.map_some,
          Option.some.injEq]
        refine physPage_congr ?_
        rw [← Nat.add_assoc]
        exact (Nat.mod_modEq _ _).add_right o
      · simp only [dmaPage, segmentPage, Segments.locate, if_neg ho]
        exact ih h _

lemma dmaPage_singleton {phys addr len o page : ℕ} :
    dmaPage [⟨phys,addr,len⟩] o = some page ↔ o < len ∧ physPage (phys+o) = page := by
  simp only [dmaPage, Segments.locate]
  split_ifs with h <;> simp [h]

/-- A device that maps everything. -/
def DmaPort.willing : DmaPort := ⟨true,true,fun pa _ => some pa,true⟩

lemma dmaMapBlocks_willing (base : ℕ) (blocks : List Block) :
    (dmaMapBlocks .willing base blocks).1 = true := by
  induction blocks with
  | nil => rfl
  | cons b blocks ih => exact ih

/-- A mapping of one page of the object. -/
def Vram.pageVma (v : Vram) (page : ℕ) : Vma := ⟨0,PAGE_SIZE,v.vmaNode.toNat+page⟩

lemma Vram.pageVma_valid (v : Vram) (page : ℕ) : (v.pageVma page).Valid :=
  ⟨dvd_zero _,dvd_rfl,Nat.zero_le _⟩

lemma Vram.pgoff_pageVma (v : Vram) {page : ℕ} (h : page < 2^64) :
    v.pgoff (v.pageVma page) = page := by
  have hnode := v.vmaNode.toNat_lt
  simp only [Vram.pgoff, Vram.pageVma, wrap64]
  omega

/-- Two pages of the pool at different offsets are different pages. -/
theorem physPage_ne {base a b : ℕ} (ha : PAGE_SIZE ∣ a) (hb : PAGE_SIZE ∣ b) (ha' : a < 2^64)
    (hb' : b < 2^64) (hne : a ≠ b) : physPage (base+a) ≠ physPage (base+b) := by
  obtain ⟨k,rfl⟩ := ha
  obtain ⟨m,rfl⟩ := hb
  intro h
  rw [Nat.mul_comm, Nat.mul_comm PAGE_SIZE m, physPage_add, physPage_add] at h
  have hkm : Nat.ModEq (2^52) k m := Nat.ModEq.add_left_cancel' _ h
  simp only [PAGE_SIZE] at ha' hb' hne
  have := Nat.ModEq.eq_of_lt_of_lt hkm (by omega) (by omega)
  omega

namespace Vram
variable {dev : VramDev} {v : Vram}

/-- The page number of the first byte of an object of the host, if it can be mapped. -/
def firstPfn (dev : VramDev) (v : Vram) : Option ℕ :=
  if v.poolResident then
    if dev.gpuPoolBase = 0 then none else some (wrap64 (dev.gpuPoolBase+v.poolOffset) / PAGE_SIZE)
  else some (v.nodeStart / PAGE_SIZE)

section Host
variable (h : v.HostMapped) (hflag : v.UseMappable) (hok : v.mapState = .ok)
include h

lemma HostMapped.size_le_node : v.size ≤ v.nodeSize ∧ v.nodeSize < v.size+SZ_2M ∧
    SZ_2M ∣ v.nodeSize ∧ v.nodeSize < 2^64 := by
  have hpos := h.nodeSize_pos
  rw [h.nodeSize_eq, show SZ_2M = 2^21 by norm_num] at *
  obtain ⟨hle,hlt⟩ := align_bounds (by norm_num) h.size_lt hpos
  exact ⟨hle,hlt,dvd_align_pow _ _,align_lt _ _⟩

lemma HostMapped.page_le_node {page : ℕ} (hpage : page*PAGE_SIZE < v.size) :
    page*PAGE_SIZE+PAGE_SIZE ≤ v.nodeSize := by
  have hle := h.size_le_node.1
  obtain ⟨c,hc⟩ := h.size_page
  simp only [PAGE_SIZE] at *
  omega

/-- From 4 GiB on, the low 32 bits of the node's size do not reach the end of the object. -/
theorem HostMapped.wrap32_lt_size (hbig : 2^32 ≤ v.nodeSize) : wrap32 v.nodeSize < v.size := by
  obtain ⟨-,hlt,⟨c,hc⟩,-⟩ := h.size_le_node
  simp only [wrap32, SZ_2M] at *
  omega

include hflag

/-- What a table of an object of the host consists of. -/
theorem HostMapped.mapDmaBuf_eq {port : DmaPort} {sgt : List SgEntry}
    (hsgt : (v.mapDmaBuf dev port).1 = .ok sgt) :
    ∃ addr, sgt = [⟨v.nodeStart,addr,wrap32 v.nodeSize⟩] := by
  simp only [mapDmaBuf, h.notOwned, not_not.mpr hflag, Bool.false_eq_true, if_false] at hsgt
  split_ifs at hsgt
  cases haddr : port.mapResource v.nodeStart v.nodeSize with
  | none => simp [haddr] at hsgt
  | some addr =>
    simp only [haddr, Except.ok.injEq] at hsgt
    exact ⟨addr,hsgt.symm⟩

include hok

/-- What a successful mapping of an object of the host installs. -/
theorem HostMapped.mmap_eq {remap : PteRun → ℤ} {vma : Vma} {runs : List PteRun} :
    v.mmap dev remap vma = some (0,runs) ↔
      wrap64 (v.pgoff vma*PAGE_SIZE)+(vma.vmEnd - vma.vmStart) ≤ v.nodeSize ∧
      ∃ pfn, v.firstPfn dev = some pfn ∧ v.mmapRun remap vma pfn = (0,runs) := by
  obtain ⟨-,-,-,hnode⟩ := h.size_le_node
  have hrefused : ¬ some ((-EINVAL : ℤ),([] : List PteRun)) = some (0,runs) := by simp
  rw [mmap, if_neg (fun hn => hn.1 hflag), if_neg (by simp [hok]), if_neg (by simp [hok])]
  by_cases hbig : v.nodeSize < wrap64 (v.pgoff vma*PAGE_SIZE)+(vma.vmEnd - vma.vmStart)
  · simp only [if_pos hbig, not_le.mpr hbig, false_and, iff_false]
    split_ifs <;> exact hrefused
  · simp only [if_neg hbig, h.notOwned, not_lt.mp hbig, true_and, firstPfn,
      if_neg (show ¬ 2^64 ≤ wrap64 (v.pgoff vma*PAGE_SIZE)+(vma.vmEnd - vma.vmStart) by omega),
      Bool.false_eq_true, if_false]
    split_ifs <;> simp

/-- Where the two computations agree, each page of the object is inside the segment, and is the page
that the mapping starts from, moved along. -/
theorem HostMapped.page_of_agree (hagree : v.PagesAgree dev) {pfn page : ℕ}
    (hpfn : v.firstPfn dev = some pfn) (hpage : page*PAGE_SIZE < v.size) :
    page*PAGE_SIZE < wrap32 v.nodeSize ∧
      physPage (v.nodeStart+page*PAGE_SIZE) = (pfn+page) % 2^52 := by
  obtain ⟨hle,-,-,hlt⟩ := h.size_le_node
  have hroom := h.page_le_node hpage
  have hpgoff := v.pgoff_pageVma (show page < 2^64 by simp only [PAGE_SIZE] at hpage; omega)
  have hmap : v.mmap dev (fun _ => 0) (v.pageVma page) =
      some (0,[⟨0,pfn+page,PAGE_SIZE,v.pageProt⟩]) := by
    refine (h.mmap_eq hflag hok).mpr ⟨?_,pfn,hpfn,by rw [mmapRun, hpgoff]; rfl⟩
    rw [hpgoff, wrap64_of_lt (by omega)]
    exact hroom
  have hsgt : (v.mapDmaBuf dev .willing).1 = .ok [⟨v.nodeStart,v.nodeStart,wrap32 v.nodeSize⟩] := by
    simp [mapDmaBuf, h.notOwned, hflag, DmaPort.willing]
  obtain ⟨p,hp,hdma⟩ := hagree _ _ _ _ _ (v.pageVma_valid page) hmap hsgt 0
    (by simp [pageVma]) (by rw [hpgoff]; exact hpage)
  rw [hpgoff] at hdma
  obtain ⟨hin,hphys⟩ := dmaPage_singleton.mp hdma
  rw [pageAt_cons_of_mem (by simp) (by simp [pageVma])] at hp
  refine ⟨hin,hphys.trans ?_⟩
  simpa [pageVma] using (Option.some.inj hp).symm

/-- The two computations agree when they start from the same page and the one segment is as long
as the node. -/
theorem HostMapped.pagesAgree_iff :
    v.PagesAgree dev ↔ ∀ pfn, v.firstPfn dev = some pfn →
      pfn % 2^52 = physPage v.nodeStart ∧ v.nodeSize < 2^32 := by
  obtain ⟨hle,hround,hfolio,hlt⟩ := h.size_le_node
  constructor
  · intro hagree pfn hpfn
    have hpos : 0 < v.size := by
      obtain ⟨c,hc⟩ := hfolio
      have := h.nodeSize_pos
      simp only [SZ_2M] at *
      omega
    refine ⟨?_,?_⟩
    · have hstart : 0*PAGE_SIZE < v.size := by simpa using hpos
      simpa using (h.page_of_agree hflag hok hagree hpfn hstart).2.symm
    · by_contra hbig
      have hend := h.wrap32_lt_size (not_lt.mp hbig)
      obtain ⟨c,hc⟩ : PAGE_SIZE ∣ wrap32 v.nodeSize := by
        obtain ⟨d,hd⟩ := hfolio
        exact Nat.dvd_of_mod_eq_zero (by simp only [wrap32, SZ_2M, PAGE_SIZE] at *; omega)
      rw [hc, Nat.mul_comm] at hend
      have hin := (h.page_of_agree hflag hok hagree hpfn hend).1
      rw [hc, Nat.mul_comm] at hin
      exact lt_irrefl _ hin
  · intro hpfn remap port vma runs sgt hvma hmap hsgt k hk ho
    obtain ⟨hbound,pfn,hfirst,hrun⟩ := (h.mmap_eq hflag hok).mp hmap
    obtain ⟨addr,rfl⟩ := h.mapDmaBuf_eq hflag hsgt
    obtain ⟨hbase,hsmall⟩ := hpfn pfn hfirst
    obtain ⟨hret,hruns⟩ := Prod.mk.inj hrun
    rw [hret, if_pos rfl] at hruns
    have hpage : (pfn+(v.pgoff vma+k)) % 2^52 = physPage (v.nodeStart+(v.pgoff vma+k)*PAGE_SIZE) := by
      rw [physPage_add]
      exact Nat.ModEq.add_right (v.pgoff vma+k) hbase
    refine ⟨(pfn+(v.pgoff vma+k)) % 2^52,?_,dmaPage_singleton.mpr ⟨?_,hpage.symm⟩⟩
    · rw [← hruns, pageAt_cons_of_mem (by simp) (by simp only; omega)]
      simp [Nat.add_assoc]
    · rw [wrap32_of_lt hsmall]
      omega

/-- The objects of the host. -/
theorem HostMapped.agree_iff : v.PagesAgree dev ↔ v.SameMemory dev := by
  rw [h.pagesAgree_iff hflag hok, SameMemory, h.notOwned]
  simp only [Bool.false_eq_true, if_false, firstPfn]
  split_ifs with h₁ h₂
  · simp [h₂]
  · simp only [Option.some.injEq, forall_eq', h₂, false_or]
    rw [← physPage_wrap64 (dev.gpuPoolBase+v.poolOffset)]
    rfl
  · simp only [Option.some.injEq, forall_eq']
    exact and_iff_right rfl

end Host
end Vram

lemma dmaLen_le (b : Block) : dmaLen b ≤ b.size := Nat.mod_le _ _

lemma dvd_dmaLen {b : Block} (h : PAGE_SIZE ∣ b.size) : PAGE_SIZE ∣ dmaLen b := by
  obtain ⟨c,hc⟩ := h
  exact Nat.dvd_of_mod_eq_zero (by simp only [dmaLen, wrap32, PAGE_SIZE] at *; omega)

section Blocks
variable {p : GuestPool} {b : Block} {blocks : List Block} {base n o : ℕ}

lemma GuestPool.Served.tail (h : p.Served (b::blocks)) : p.Served blocks where
  offset_page c hc := h.offset_page c (List.mem_cons_of_mem _ hc)
  size_page c hc := h.size_page c (List.mem_cons_of_mem _ hc)
  within c hc := h.within c (List.mem_cons_of_mem _ hc)
  separate := (List.pairwise_cons.mp h.separate).2

/-- What is left of the segments of the later blocks never covers a page of the first one. -/
theorem segmentPage_tail_ne (h : p.Served (b::blocks)) (hp : p.size < 2^64) {x : ℕ} (hx : x < b.size)
    (hxp : PAGE_SIZE ∣ x) (ho : PAGE_SIZE ∣ o) :
    segmentPage base blocks o ≠ some (physPage (base+(b.offset+x))) := by
  intro heq
  obtain ⟨⟨c,y⟩,hloc,hpage⟩ := Option.map_eq_some_iff.mp heq
  have hlen : ∀ a ∈ blocks, PAGE_SIZE ∣ dmaLen a := fun a ha => dvd_dmaLen (h.tail.size_page a ha)
  have hyp := Segments.dvd_locate hlen ho hloc
  obtain ⟨pre,post,rfl,-,hy⟩ := Segments.locate_eq_some_iff.mp hloc
  have hc : c ∈ b::(pre ++ c::post) := by simp
  have hb : b ∈ b::(pre ++ c::post) := List.mem_cons_self
  have hy' : y < c.size := hy.trans_le (dmaLen_le c)
  refine physPage_ne (Nat.dvd_add (h.offset_page c hc) hyp) (Nat.dvd_add (h.offset_page b hb) hxp)
    ?_ ?_ ?_ hpage
  · have := h.within c hc
    simp only [Extent.stop] at this
    omega
  · have := h.within b hb
    simp only [Extent.stop] at this
    omega
  · intro hsame
    have hdisj := (List.pairwise_cons.mp h.separate).1 c (by simp)
    refine Extent.not_disjoint_of_contains (x := b.offset+x) ⟨by omega,?_⟩ ⟨by omega,?_⟩ hdisj
    · simp only [Extent.stop]; omega
    · simp only [Extent.stop]; omega

/-- Behind a block below 4 GiB the segments and the blocks go on alike. -/
theorem segmentPage_cons (base : ℕ) (blocks : List Block) (hsmall : b.size < 2^32) (ho : b.size ≤ o) :
    segmentPage base (b::blocks) o = segmentPage base blocks (o - b.size) ∧
      blockPage base (b::blocks) o = blockPage base blocks (o - b.size) := by
  have hlen : dmaLen b = b.size := wrap32_of_lt hsmall
  rw [segmentPage,blockPage,Segments.locate_cons_of_le ho,
    Segments.locate_cons_of_le (hlen.trans_le ho),hlen]
  exact ⟨rfl,rfl⟩

/-- With a first block below 4 GiB it is the later blocks that matter. -/
theorem segmentPage_eq_of_lt (h : p.Served (b::blocks)) (hsmall : b.size < 2^32) :
    (∀ o, PAGE_SIZE ∣ o → o < n → o < Segments.total Extent.size (b::blocks) →
      segmentPage base (b::blocks) o = blockPage base (b::blocks) o) ↔
    ∀ o, PAGE_SIZE ∣ o → o < n - b.size → o < Segments.total Extent.size blocks →
      segmentPage base blocks o = blockPage base blocks o := by
  have hb : PAGE_SIZE ∣ b.size := h.size_page b List.mem_cons_self
  rw [Segments.total_cons]
  constructor
  · intro hall o ho hn ht
    have heq := hall (b.size+o) (Nat.dvd_add hb ho) (by omega) (by omega)
    obtain ⟨hseg,hblock⟩ := segmentPage_cons base blocks hsmall (Nat.le_add_right b.size o)
    rwa [hseg,hblock,Nat.add_sub_cancel_left] at heq
  · intro hall o ho hn ht
    by_cases hin : o < b.size
    · have hlen : dmaLen b = b.size := wrap32_of_lt hsmall
      rw [segmentPage,blockPage,Segments.locate_cons_of_lt hin,Segments.locate_cons_of_lt (hlen ▸ hin)]
    · obtain ⟨hseg,hblock⟩ := segmentPage_cons base blocks hsmall (not_lt.mp hin)
      rw [hseg,hblock]
      exact hall _ (Nat.dvd_sub ho hb) (by omega) (by omega)

/-- A first block of 4 GiB or more has its pages covered as far as its segment reaches. -/
theorem segmentPage_eq_of_le (h : p.Served (b::blocks)) (hp : p.size < 2^64) (hlarge : 2^32 ≤ b.size) :
    (∀ o, PAGE_SIZE ∣ o → o < n → o < Segments.total Extent.size (b::blocks) →
      segmentPage base (b::blocks) o = blockPage base (b::blocks) o) ↔ n ≤ dmaLen b := by
  have hlen := dvd_dmaLen (h.size_page b List.mem_cons_self)
  have hin : dmaLen b < b.size := (wrap32_lt b.size).trans_le hlarge
  constructor
  · intro hall
    -- at the end of the short segment the next one would have to cover a page of this block
    by_contra hlt
    have hpage := hall (dmaLen b) hlen (not_le.mp hlt) (by rw [Segments.total_cons]; omega)
    rw [blockPage,Segments.locate_cons_of_lt hin,segmentPage,Segments.locate_cons_of_le le_rfl] at hpage
    exact segmentPage_tail_ne h hp hin hlen (by rw [Nat.sub_self]; exact dvd_zero _) hpage
  · intro hn o _ ho _
    rw [segmentPage,blockPage,Segments.locate_cons_of_lt (ho.trans_le hn),
      Segments.locate_cons_of_lt ((ho.trans_le hn).trans hin)]

/-- The segments cover the pages of the blocks, up to `n`, exactly when no block of 4 GiB or more
reaches into them beyond its 32-bit length. -/
theorem segmentPage_eq_iff (h : p.Served blocks) (hp : p.size < 2^64) :
    (∀ o, PAGE_SIZE ∣ o → o < n → o < Segments.total Extent.size blocks →
      segmentPage base blocks o = blockPage base blocks o) ↔
    ∀ pre b post, blocks = pre ++ b::post →
      b.size < 2^32 ∨ n ≤ Segments.total Extent.size pre+dmaLen b := by
  induction blocks generalizing n with
  | nil => simp
  | cons b blocks ih =>
    rw [Segments.forall_split_cons]
    by_cases hsmall : b.size < 2^32
    · rw [segmentPage_eq_of_lt h hsmall,ih h.tail,and_iff_right (.inl hsmall)]
      refine forall_congr' fun pre => forall_congr' fun c => forall₂_congr fun post _ => ?_
      rw [Segments.total_cons]
      omega
    · rw [segmentPage_eq_of_le h hp (not_lt.mp hsmall),Segments.total_nil,Nat.zero_add,
        or_iff_right hsmall]
      refine (and_iff_left_of_imp fun hn => ?_).symm
      intro pre c post _
      have hle := dmaLen_le b
      rw [Segments.total_cons]
      omega

end Blocks

namespace Vram
variable {dev : VramDev} {v : Vram}

section Guest
variable (h : v.GuestBacked dev)
include h

lemma GuestBacked.mmap_eq {remap : PteRun → ℤ} {vma : Vma} {runs : List PteRun} :
    v.mmap dev remap vma = some (0,runs) ↔
      wrap64 (v.pgoff vma*PAGE_SIZE)+(vma.vmEnd - vma.vmStart) ≤ v.size ∧
      v.mmapGuestPool dev remap vma = (0,runs) := by
  have hlt := h.size_lt
  have hrefused : ¬ some ((-EINVAL : ℤ),([] : List PteRun)) = some (0,runs) := by simp
  rw [mmap, if_neg (by simp [h.owned]), if_neg (by simp [h.owned]), if_neg (by simp [h.owned])]
  simp only [h.nodeSize_eq, h.owned, if_true]
  by_cases hbig : v.size < wrap64 (v.pgoff vma*PAGE_SIZE)+(vma.vmEnd - vma.vmStart)
  · simp only [if_pos hbig, not_le.mpr hbig, false_and, iff_false]
    split_ifs <;> exact hrefused
  · rw [if_neg (by omega), if_neg hbig, Option.some.injEq, and_iff_right (not_lt.mp hbig)]

/-- The table of a guest-pool object has the pages of its blocks' segments. -/
theorem GuestBacked.dmaPage_eq {port : DmaPort} {sgt : List SgEntry}
    (hsgt : (v.mapDmaBuf dev port).1 = .ok sgt) (o : ℕ) :
    dmaPage sgt o = segmentPage dev.guestPool.base v.guestPoolBlocks o := by
  simp only [mapDmaBuf, h.owned, if_true] at hsgt
  split_ifs at hsgt with h₁ h₂ h₃ h₄
  obtain rfl := Except.ok.inj hsgt
  exact dmaMapBlocks_page h₄ o

/-- A page of the object inside its blocks, mapped alone. -/
theorem GuestBacked.mmap_page {page : ℕ} (hpage : page*PAGE_SIZE < v.size)
    (htotal : page*PAGE_SIZE < Segments.total Extent.size v.guestPoolBlocks) :
    ∃ runs, v.mmap dev (fun _ => 0) (v.pageVma page) = some (0,runs) ∧
      pageAt runs 0 = blockPage dev.guestPool.base v.guestPoolBlocks (page*PAGE_SIZE) := by
  have hlt := h.size_lt
  have hpgoff := v.pgoff_pageVma (show page < 2^64 by simp only [PAGE_SIZE] at hpage; omega)
  have hskip : wrap64 (v.pgoff (v.pageVma page)*PAGE_SIZE) = page*PAGE_SIZE := by
    rw [hpgoff, wrap64_of_lt (hpage.trans hlt)]
  have hroom : ∀ {n}, PAGE_SIZE ∣ n → page*PAGE_SIZE < n → page*PAGE_SIZE+PAGE_SIZE ≤ n := by
    rintro _ ⟨c,rfl⟩ hn
    simp only [PAGE_SIZE] at *
    omega
  have hpages : PAGE_SIZE ∣ Segments.total Extent.size v.guestPoolBlocks :=
    Segments.dvd_total h.served.size_page
  obtain ⟨hret,hend⟩ := @mmapBlocks_covers (fun _ => 0) dev.guestPool.base PAGE_SIZE v.pageProt
    v.guestPoolBlocks 0 (page*PAGE_SIZE) (fun _ => rfl) (Nat.zero_le _) (hroom hpages htotal)
  have hat := (mmapBlocks_pages h.served.size_page (dvd_mul_left PAGE_SIZE page) (dvd_zero _) hret
    (dvd_zero _) le_rfl (by rw [hend]; decide)).2
  rw [Nat.sub_self, Nat.add_zero] at hat
  refine ⟨_,h.mmap_eq.mpr ⟨?_,?_⟩,hat⟩
  · rw [hskip]
    exact hroom h.size_page hpage
  · rw [mmapGuestPool, if_neg h.base_ne, hskip]
    simp only [pageVma, hret, hend, ne_eq, not_true_eq_false, if_false, lt_irrefl]

lemma GuestBacked.pagesAgree_iff : v.PagesAgree dev ↔
    ∀ o, PAGE_SIZE ∣ o → o < v.size → o < Segments.total Extent.size v.guestPoolBlocks →
      segmentPage dev.guestPool.base v.guestPoolBlocks o =
        blockPage dev.guestPool.base v.guestPoolBlocks o := by
  have hlt := h.size_lt
  constructor
  · rintro hagree o ⟨page,rfl⟩ hpage htotal
    rw [Nat.mul_comm] at hpage htotal ⊢
    obtain ⟨runs,hmap,hat⟩ := h.mmap_page hpage htotal
    have hne : v.guestPoolBlocks ≠ [] := by
      rintro hnil
      simp [hnil] at htotal
    have hsgt : (v.mapDmaBuf dev .willing).1 =
        .ok (dmaMapBlocks .willing dev.guestPool.base v.guestPoolBlocks).2 := by
      rw [mapDmaBuf, if_neg (by simp [DmaPort.willing]), if_pos h.owned, if_neg hne,
        if_neg (by simp [DmaPort.willing])]
      simp only [dmaMapBlocks_willing, if_true]
    have hpgoff := v.pgoff_pageVma (show page < 2^64 by simp only [PAGE_SIZE] at hpage; omega)
    obtain ⟨p,hp,hdma⟩ := hagree _ _ _ _ _ (v.pageVma_valid page) hmap hsgt 0
      (by simp [pageVma]) (by rw [hpgoff]; exact hpage)
    rw [hpgoff, Nat.add_zero, h.dmaPage_eq hsgt] at hdma
    rw [hdma, ← hat, ← hp]
    rfl
  · intro hall remap port vma runs sgt hvma hmap hsgt k hk ho
    obtain ⟨hbound,hwalk⟩ := h.mmap_eq.mp hmap
    have hskip : v.pgoff vma*PAGE_SIZE < 2^64 :=
      (Nat.mul_le_mul_right _ (Nat.le_add_right _ k)).trans_lt (ho.trans hlt)
    rw [mmapGuestPool, if_neg h.base_ne, wrap64_of_lt hskip] at hwalk
    simp only at hwalk
    split_ifs at hwalk with h₁ h₂
    · exact absurd (Prod.mk.inj hwalk).1 h₁
    · exact absurd (Prod.mk.inj hwalk).1 (by decide)
    obtain ⟨-,rfl⟩ := Prod.mk.inj hwalk
    obtain ⟨htotal,hat⟩ := mmapBlocks_pages h.served.size_page (dvd_mul_left _ _) hvma.start_page
      (not_not.mp h₁) (Nat.dvd_add hvma.start_page (dvd_mul_left PAGE_SIZE k))
      (Nat.le_add_right _ _) (hk.trans_le (not_lt.mp h₂))
    rw [Nat.add_sub_cancel_left, ← Nat.add_mul] at htotal hat
    obtain ⟨b,x,hloc⟩ := Segments.exists_locate htotal
    refine ⟨physPage (dev.guestPool.base+(b.offset+x)),?_,?_⟩
    · rw [hat, blockPage, hloc]
      rfl
    · rw [h.dmaPage_eq hsgt, hall _ (dvd_mul_left _ _) ho htotal, blockPage, hloc]
      rfl

end Guest

lemma GuestBacked.agree_iff (h : v.GuestBacked dev) : v.PagesAgree dev ↔ v.SameMemory dev := by
  rw [h.pagesAgree_iff, segmentPage_eq_iff h.served h.pool_lt, SameMemory, if_pos h.owned]

end Vram

/-- For every object that the driver creates, mappable and, if it is the host's, mapped: what
`mmap` installs and what an exported dma-buf covers is the same memory exactly under the condition. -/
theorem vram_pagesAgree_iff {dev : VramDev} {v : Vram} (hv : Vram.Created dev v)
    (hflag : v.UseMappable) (hok : v.guestPoolOwned = false → v.mapState = .ok) :
    v.PagesAgree dev ↔ v.SameMemory dev := by
  rcases hv.cases hflag with h | h
  · exact h.agree_iff hflag (hok h.notOwned)
  · exact h.agree_iff

/-- An object of two blocks, the later one first. -/
theorem vram_pagesAgree_iff_scattered :
    let dev : VramDev := ⟨false,false,0,0,⟨0x100000000,3*SZ_2M,0,SZ_2M,SZ_2M,SZ_2M,true,false⟩⟩
    let v := Vram.guestPoolCreate 0x3000 1 0x100000 [⟨0x2000,0x2000,by decide⟩,⟨0,0x1000,by decide⟩]
    v.PagesAgree dev ↔ v.SameMemory dev :=
  vram_pagesAgree_iff (.guestPool ⟨by decide,by decide⟩ ⟨by decide,by decide,by decide,by decide⟩ _ _ _)
    (by decide) (by decide)

/-- A blob of the host's pool: the mapping is of the page at the offset that the host gave, the
table is of the BAR node that was reserved for the blob. -/
theorem vram_hostPool_disagrees :
    let dev : VramDev := ⟨true,false,0x200000000,0x100000000,⟨0,0,0,0,0,0,false,false⟩⟩
    let port : VramPort :=
      ⟨true,(0,0),0,fun size => (if size = 0 then -ENOSPC else 0,0x200000000),true,fun _ => 0⟩
    let created : Vram := ⟨0x1000,1,0,.initializing,0,false,0,false,[],0x200000000,0x200000⟩
    let v := created.resourceMapCb 0x1106 0x80000001 0x5000
    Vram.create dev port 0x1000 1 = (0,some created) ∧ Vram.Created dev v ∧ v.UseMappable ∧
      v.mapState = .ok ∧
      v.mmap dev (fun _ => 0) ⟨0,0x1000,0⟩ = some (0,[⟨0,0x100005,0x1000,.cached⟩]) ∧
      (v.mapDmaBuf dev .willing).1 = .ok [⟨0x200000000,0x200000000,0x200000⟩] ∧
      ¬ v.PagesAgree dev := by
  intro dev port created v
  have hcreate : Vram.create dev port 0x1000 1 = (0,some created) := by decide +kernel
  have hsound : port.Sound := fun size hsize => by
    by_contra hzero
    simp [port, Nat.eq_zero_of_not_pos hzero] at hsize
  have hmap : v.mmap dev (fun _ => 0) ⟨0,0x1000,0⟩ =
      some (0,[⟨0,0x100005,0x1000,.cached⟩]) := by decide +kernel
  have hsgt : (v.mapDmaBuf dev .willing).1 = .ok [⟨0x200000000,0x200000000,0x200000⟩] := by decide +kernel
  refine ⟨hcreate,.answered hsound hcreate _ _ _,by decide +kernel,by decide +kernel,hmap,hsgt,
    fun hagree => ?_⟩
  obtain ⟨p,hp,hdma⟩ := hagree _ _ _ _ _ ⟨by decide,by decide,by decide⟩ hmap hsgt 0 (by decide)
    (by decide +kernel)
  exact absurd (hp.trans hdma.symm) (by decide +kernel)

end GuestAdditions

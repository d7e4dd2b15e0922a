import GuestAdditions.GuestPool.WireList
import GuestAdditions.Vram.DmaBuf

/-! How `virtio_gpu_vram_mmap` stitches the blocks of a guest-pool object into one user mapping. -/
namespace GuestAdditions

/-- The runs cover the addresses from `lo` to `hi` in whole pages and in order, each where the one before
it ends. -/
def Tiles : List PteRun → ℕ → ℕ → Prop
  | [], lo, hi => lo = hi
  | run::runs, lo, hi =>
    run.uaddr = lo ∧ 0 < run.len ∧ PAGE_SIZE ∣ run.len ∧ Tiles runs (lo+run.len) hi

/-- The physical address behind a user address. -/
def byteAt (runs : List PteRun) (u : ℕ) : Option ℕ :=
  (pageAt runs u).map fun page => page*PAGE_SIZE+u % PAGE_SIZE

/-- `vma->vm_pgoff << PAGE_SHIFT`, in 64 bits. -/
def Vram.windowOffset (v : Vram) (vma : Vma) : ℕ := wrap64 (v.pgoff vma*PAGE_SIZE)

section Runs
variable {runs : List PteRun} {run : PteRun} {lo hi u : ℕ}

lemma pageAt_cons_of_not_mem (h : ¬ (run.uaddr ≤ u ∧ u < run.uaddr+run.len)) :
    pageAt (run::runs) u = pageAt runs u := by
  simp only [pageAt,List.find?_cons,h,decide_false]

lemma Tiles.le (h : Tiles runs lo hi) : lo ≤ hi := by
  induction runs generalizing lo with
  | nil => exact h.le
  | cons run runs ih => exact (Nat.le_add_right _ _).trans (ih h.2.2.2)

/-- Only addresses of the range are mapped. -/
theorem Tiles.mem_of_pageAt {f : ℕ} (h : Tiles runs lo hi) (hu : pageAt runs u = some f) :
    lo ≤ u ∧ u < hi := by
  induction runs generalizing lo with
  | nil => simp [pageAt] at hu
  | cons run runs ih =>
    obtain ⟨rfl,-,-,hrest⟩ := h
    have hle := hrest.le
    by_cases hin : run.uaddr ≤ u ∧ u < run.uaddr+run.len
    · omega
    · rw [pageAt_cons_of_not_mem hin] at hu
      have := ih hrest hu
      omega

/-- All addresses of a user page are mapped alike. -/
theorem Tiles.pageAt_page (h : Tiles runs lo hi) (hlo : PAGE_SIZE ∣ lo) (u : ℕ) :
    pageAt runs u = pageAt runs (u/PAGE_SIZE*PAGE_SIZE) := by
  induction runs generalizing lo with
  | nil => rfl
  | cons run runs ih =>
    obtain ⟨rfl,-,hlen,hrest⟩ := h
    obtain ⟨a,ha⟩ := hlo
    obtain ⟨n,hn⟩ := hlen
    have hiff : run.uaddr ≤ u ∧ u < run.uaddr+run.len ↔
        run.uaddr ≤ u/PAGE_SIZE*PAGE_SIZE ∧ u/PAGE_SIZE*PAGE_SIZE < run.uaddr+run.len := by
      simp only [PAGE_SIZE] at ha hn ⊢
      omega
    by_cases hin : run.uaddr ≤ u ∧ u < run.uaddr+run.len
    · have hin' := hiff.mp hin
      have hsame : (u - run.uaddr)/PAGE_SIZE = (u/PAGE_SIZE*PAGE_SIZE - run.uaddr)/PAGE_SIZE := by
        simp only [PAGE_SIZE] at ha hn hin hin' ⊢
        omega
      rw [pageAt_cons_of_mem hin.1 hin.2,pageAt_cons_of_mem hin'.1 hin'.2,hsame]
    · rw [pageAt_cons_of_not_mem hin,pageAt_cons_of_not_mem (hiff.not.mp hin)]
      exact ih hrest (Nat.dvd_add ⟨a,ha⟩ ⟨n,hn⟩)

/-- The address behind a user byte, from the page that holds it. -/
theorem Tiles.byteAt_eq (h : Tiles runs lo hi) (hlo : PAGE_SIZE ∣ lo) (k : ℕ) :
    byteAt runs (lo+k) =
      (pageAt runs (lo+k/PAGE_SIZE*PAGE_SIZE)).map fun page => page*PAGE_SIZE+k % PAGE_SIZE := by
  obtain ⟨a,ha⟩ := hlo
  have hmod : (lo+k) % PAGE_SIZE = k % PAGE_SIZE := by rw [ha,Nat.mul_add_mod]
  have hstart : (lo+k)/PAGE_SIZE*PAGE_SIZE = lo+k/PAGE_SIZE*PAGE_SIZE := by
    rw [ha,Nat.mul_add_div (by decide),Nat.add_mul,Nat.mul_comm a]
  rw [byteAt,h.pageAt_page ⟨a,ha⟩,hmod,hstart]

/-- Every page mapped is mapped at the start of a user page of the range. -/
theorem Tiles.exists_page {f : ℕ} (h : Tiles runs lo hi) (hlo : PAGE_SIZE ∣ lo)
    (hu : pageAt runs u = some f) :
    ∃ k, PAGE_SIZE ∣ k ∧ k < hi - lo ∧ pageAt runs (lo+k) = some f := by
  obtain ⟨hle,hlt⟩ := h.mem_of_pageAt hu
  have hfloor := Nat.div_mul_le_self u PAGE_SIZE
  have hge : lo ≤ u/PAGE_SIZE*PAGE_SIZE := by
    obtain ⟨a,ha⟩ := hlo
    simp only [PAGE_SIZE] at ha ⊢
    omega
  refine ⟨u/PAGE_SIZE*PAGE_SIZE - lo,Nat.dvd_sub (Nat.dvd_mul_left _ _) hlo,by omega,?_⟩
  rw [Nat.add_sub_cancel' hge,← h.pageAt_page hlo,hu]

end Runs

/-- When every remap succeeds, the walk tiles the addresses up to where it stops. -/
theorem mmapBlocks_tiles {remap : PteRun → ℤ} {base vmEnd : ℕ} {prot : PageProt} {blocks : List Block}
    {uaddr skip : ℕ} (hremap : ∀ run, remap run = 0) (hsize : ∀ b ∈ blocks, PAGE_SIZE ∣ b.size)
    (hskip : PAGE_SIZE ∣ skip) (huaddr : PAGE_SIZE ∣ uaddr) (hend : PAGE_SIZE ∣ vmEnd) :
    Tiles (mmapBlocks remap base vmEnd prot blocks uaddr skip).2.2 uaddr
      (mmapBlocks remap base vmEnd prot blocks uaddr skip).2.1 := by
  induction blocks generalizing uaddr skip with
  | nil => exact rfl
  | cons b blocks ih =>
    have hb : PAGE_SIZE ∣ b.size := hsize b List.mem_cons_self
    have hrest : ∀ c ∈ blocks, PAGE_SIZE ∣ c.size := fun c hc => hsize c (List.mem_cons_of_mem _ hc)
    have hlen : PAGE_SIZE ∣ min (b.size - skip) (vmEnd - uaddr) := by
      rcases min_choice (b.size - skip) (vmEnd - uaddr) with h | h
      · rw [h]
        exact Nat.dvd_sub hb hskip
      · rw [h]
        exact Nat.dvd_sub hend huaddr
    simp only [mmapBlocks,hremap]
    split_ifs with h₁ h₂ h₃ h₄
    · exact ih hrest (Nat.dvd_sub hskip hb) huaddr
    · exact rfl
    · exact absurd rfl h₃
    · exact ⟨rfl,Nat.pos_of_ne_zero h₂,hlen,rfl⟩
    · exact ⟨rfl,Nat.pos_of_ne_zero h₂,hlen,ih hrest (dvd_zero _) (Nat.dvd_add huaddr hlen)⟩

section Pages
variable {p : GuestPool} {blocks : List Block} {base o o' f : ℕ}

/-- A page of the object is a whole page of one of its blocks. -/
theorem GuestPool.Served.exists_page (h : p.Served blocks) (ho : PAGE_SIZE ∣ o)
    (hf : blockPage base blocks o = some f) : ∃ b x, Segments.locate Extent.size blocks o = some (b,x) ∧
      b ∈ blocks ∧ b.Contains (b.offset+x) ∧ PAGE_SIZE ∣ b.offset+x ∧ b.offset+x < p.size ∧
      f = physPage (base+(b.offset+x)) := by
  obtain ⟨⟨b,x⟩,hloc,rfl⟩ := Option.map_eq_some_iff.mp hf
  have hx := Segments.dvd_locate h.size_page ho hloc
  obtain ⟨pre,post,hsplit,-,hlt⟩ := Segments.locate_eq_some_iff.mp hloc
  have hb : b ∈ blocks := by simp [hsplit]
  have hstop : b.offset+x < b.stop := by
    unfold Extent.stop
    omega
  exact ⟨b,x,hloc,hb,⟨Nat.le_add_right _ _,hstop⟩,Nat.dvd_add (h.offset_page b hb) hx,
    hstop.trans_le (h.within b hb),rfl⟩

/-- Different offsets of disjoint blocks are at different pool offsets. -/
theorem Separate.locate_injective (h : Separate blocks) {b c : Block} {x y : ℕ}
    (hb : Segments.locate Extent.size blocks o = some (b,x))
    (hc : Segments.locate Extent.size blocks o' = some (c,y)) (heq : b.offset+x = c.offset+y) :
    o = o' := by
  induction blocks generalizing o o' with
  | nil => simp at hb
  | cons a blocks ih =>
    -- a later block that is found shares no address with the first one
    have hlater : ∀ {n : ℕ} {e : Block} {z : ℕ}, Segments.locate Extent.size blocks n = some (e,z) →
        ∀ w < a.size, a.offset+w ≠ e.offset+z := by
      intro n e z hloc w hw hsame
      obtain ⟨pre,post,rfl,-,hz⟩ := Segments.locate_eq_some_iff.mp hloc
      have hdisj := (List.pairwise_cons.mp h).1 e (by simp)
      refine Extent.Avoids.not_contains hdisj (x := e.offset+z) (Nat.le_add_right _ _) ?_ ⟨?_,?_⟩
      · unfold Extent.stop
        omega
      · omega
      · unfold Extent.stop
        omega
    have hrest := (List.pairwise_cons.mp h).2
    by_cases ho : o < a.size
    · rw [Segments.locate_cons_of_lt ho] at hb
      obtain ⟨rfl,rfl⟩ := Prod.mk.inj (Option.some.inj hb)
      by_cases ho' : o' < a.size
      · rw [Segments.locate_cons_of_lt ho'] at hc
        obtain ⟨rfl,rfl⟩ := Prod.mk.inj (Option.some.inj hc)
        omega
      · rw [Segments.locate_cons_of_le (not_lt.mp ho')] at hc
        exact absurd heq (hlater hc _ ho)
    · rw [Segments.locate_cons_of_le (not_lt.mp ho)] at hb
      by_cases ho' : o' < a.size
      · rw [Segments.locate_cons_of_lt ho'] at hc
        obtain ⟨rfl,rfl⟩ := Prod.mk.inj (Option.some.inj hc)
        exact absurd heq.symm (hlater hb _ ho')
      · rw [Segments.locate_cons_of_le (not_lt.mp ho')] at hc
        have := ih hrest hb hc
        omega

/-- No page of the object is there twice. -/
theorem GuestPool.Served.blockPage_injective (h : p.Served blocks) (hp : p.size < 2^64)
    (ho : PAGE_SIZE ∣ o) (ho' : PAGE_SIZE ∣ o') (hf : blockPage base blocks o = some f)
    (hf' : blockPage base blocks o' = some f) : o = o' := by
  obtain ⟨b,x,hb,-,-,hbx,hbp,rfl⟩ := h.exists_page ho hf
  obtain ⟨c,y,hc,-,-,hcy,hcp,heq⟩ := h.exists_page ho' hf'
  refine h.separate.locate_injective hb hc ?_
  by_contra hne
  exact physPage_ne hbx hcy (hbp.trans hp) (hcp.trans hp) hne heq

/-- Nor is a page of a block that is disjoint from its blocks. -/
theorem GuestPool.Served.blockPage_ne (h : p.Served blocks) (hp : p.size < 2^64) (ho : PAGE_SIZE ∣ o)
    {c : Block} (hc : c.stop ≤ p.size) (hdisj : ∀ b ∈ blocks, c.Disjoint b) {x : ℕ}
    (hx : c.Contains x) (hpage : PAGE_SIZE ∣ x) :
    blockPage base blocks o ≠ some (physPage (base+x)) := by
  intro hf
  obtain ⟨b,y,-,hb,hcontains,hby,hbp,heq⟩ := h.exists_page ho hf
  refine physPage_ne hpage hby ((hx.2.trans_le hc).trans hp) (hbp.trans hp) ?_ heq
  rintro rfl
  exact Extent.not_disjoint_of_contains hx hcontains (hdisj b hb)

/-- With a base on a page boundary the byte after a page's start is at its address. -/
theorem GuestPool.Served.blockByte_add (h : p.Served blocks) (hbase : PAGE_SIZE ∣ base)
    (ho : PAGE_SIZE ∣ o) {r : ℕ} (hr : r < PAGE_SIZE) : blockByte base blocks (o+r) =
      (blockPage base blocks o).map fun page => page*PAGE_SIZE+r := by
  rw [blockByte,Segments.locate_add h.size_page ho hr,blockPage,Option.map_map,Option.map_map]
  cases hloc : Segments.locate Extent.size blocks o with
  | none => rfl
  | some q =>
    obtain ⟨b,x⟩ := q
    obtain ⟨pre,post,hsplit,-,-⟩ := Segments.locate_eq_some_iff.mp hloc
    have hx := Segments.dvd_locate h.size_page ho hloc
    obtain ⟨n,hn⟩ := Nat.dvd_add hbase
      (Nat.dvd_add (h.offset_page b (by simp [hsplit])) hx)
    have hsum : base+(b.offset+(x+r)) = PAGE_SIZE*n+r := by omega
    simp only [Option.map_some,Function.comp_apply,hsum,hn,physPage,wrap64]
    simp only [PAGE_SIZE] at hr ⊢
    congr 1
    omega

end Pages

namespace Vram
variable {dev : VramDev} {v : Vram} {vma : Vma}

lemma dvd_windowOffset (v : Vram) (vma : Vma) : PAGE_SIZE ∣ v.windowOffset vma := by
  rw [windowOffset,wrap64]
  exact (Nat.dvd_mod_iff (by decide)).mpr (Nat.dvd_mul_left _ _)

/-- A window that reaches past the object is refused before any remap. -/
theorem GuestBacked.mmap_past (h : v.GuestBacked dev) (remap : PteRun → ℤ)
    (hpast : v.size < v.windowOffset vma+(vma.vmEnd - vma.vmStart)) :
    v.mmap dev remap vma = some (-EINVAL,[]) := by
  unfold windowOffset at hpast
  rw [mmap,if_neg (by simp [h.owned]),if_neg (by simp [h.owned]),if_neg (by simp [h.owned])]
  simp only [h.nodeSize_eq,if_pos hpast,ite_self]

/-- A window inside the object is tiled by the remaps, page by page with the pages of the blocks. -/
theorem GuestBacked.mmap_inside (h : v.GuestBacked dev) (valid : vma.Valid) {remap : PteRun → ℤ}
    (hremap : ∀ run, remap run = 0)
    (hroom : v.size ≤ Segments.total Extent.size v.guestPoolBlocks)
    (hin : v.windowOffset vma+(vma.vmEnd - vma.vmStart) ≤ v.size) :
    ∃ runs, v.mmap dev remap vma = some (0,runs) ∧ Tiles runs vma.vmStart vma.vmEnd ∧
      ∀ u, PAGE_SIZE ∣ u → vma.vmStart ≤ u → u < vma.vmEnd → pageAt runs u =
        blockPage dev.guestPool.base v.guestPoolBlocks (v.windowOffset vma+(u - vma.vmStart)) := by
  have hskip := v.dvd_windowOffset vma
  obtain ⟨hret,hend⟩ := @mmapBlocks_covers remap dev.guestPool.base vma.vmEnd v.pageProt
    v.guestPoolBlocks vma.vmStart (v.windowOffset vma) hremap valid.le (hin.trans hroom)
  have htiles := @mmapBlocks_tiles remap dev.guestPool.base vma.vmEnd v.pageProt
    v.guestPoolBlocks vma.vmStart (v.windowOffset vma) hremap h.served.size_page hskip
    valid.start_page valid.end_page
  rw [hend] at htiles
  refine ⟨_,h.mmap_eq.mpr ⟨hin,?_⟩,htiles,fun u hu hlo hhi => ?_⟩
  · rw [mmapGuestPool,if_neg h.base_ne]
    simp only [windowOffset] at hret hend
    simp only [hret,hend,ne_eq,not_true_eq_false,if_false,lt_irrefl]
    rfl
  · exact (mmapBlocks_pages h.served.size_page hskip valid.start_page hret hu hlo
      (hend.symm ▸ hhi)).2

end Vram
/-- Every window of a guest-pool object, over disjoint blocks of whole pages that are together at least as
long as it. A window inside the object is mapped by remaps that tile it in order, and the user page `k`
bytes into the window is the page of the blocks at `k` bytes behind the window's offset; over a base on
a page boundary this holds of every byte, which is where the host finds it too. No page behind the
object's size and none of another block of the pool is mapped. A window that reaches past the size
fails with -EINVAL, and nothing is mapped. -/
theorem guestPool_mmap_stitch {dev : VramDev} (hbase : dev.guestPool.base ≠ 0)
    (hpool : dev.guestPool.size < 2^64) {blocks : List Block} (served : dev.guestPool.Served blocks)
    {size : ℕ} (hsize : align size PAGE_SIZE ≤ Segments.total Extent.size blocks) (blobFlags : ℕ)
    (vmaNode : UInt64) {vma : Vma} (valid : vma.Valid) (remap : PteRun → ℤ) :
    let v := Vram.guestPoolCreate size blobFlags vmaNode blocks
    let offset := v.windowOffset vma
    let length := vma.vmEnd - vma.vmStart
    ((∀ run, remap run = 0) → 0 < length → offset+length ≤ v.size →
      ∃ runs, v.mmap dev remap vma = some (0,runs) ∧ Tiles runs vma.vmStart vma.vmEnd ∧
        (∀ k < length, PAGE_SIZE ∣ k → (pageAt runs (vma.vmStart+k)).isSome ∧
          pageAt runs (vma.vmStart+k) = blockPage dev.guestPool.base blocks (offset+k)) ∧
        (PAGE_SIZE ∣ dev.guestPool.base → ∀ k < length, (byteAt runs (vma.vmStart+k)).isSome ∧
          byteAt runs (vma.vmStart+k) = blockByte dev.guestPool.base blocks (offset+k)) ∧
        ∀ u f, pageAt runs u = some f →
          (∀ o, PAGE_SIZE ∣ o → v.size ≤ o → blockPage dev.guestPool.base blocks o ≠ some f) ∧
          ∀ c : Block, c.stop ≤ dev.guestPool.size → (∀ b ∈ blocks, c.Disjoint b) →
            ∀ x, c.Contains x → PAGE_SIZE ∣ x → physPage (dev.guestPool.base+x) ≠ f) ∧
      (v.size < offset+length → v.mmap dev remap vma = some (-EINVAL,[])) := by
  intro v offset length
  have h : v.GuestBacked dev := ⟨dvd_align_page _,align_lt _ _,rfl,hbase,hpool,served,rfl⟩
  have hoffset : PAGE_SIZE ∣ offset := v.dvd_windowOffset vma
  refine ⟨fun hremap _ hin => ?_,h.mmap_past remap⟩
  obtain ⟨runs,hok,htiles,hpages⟩ := h.mmap_inside valid hremap hsize hin
  have hpage : ∀ k < length, PAGE_SIZE ∣ k → pageAt runs (vma.vmStart+k) =
      blockPage dev.guestPool.base blocks (offset+k) := by
    intro k hk hkp
    have hat := hpages (vma.vmStart+k) (Nat.dvd_add valid.start_page hkp) (Nat.le_add_right _ _)
      (by omega)
    rwa [Nat.add_sub_cancel_left] at hat
  have hcovered : ∀ k < length, offset+k < Segments.total Extent.size blocks := fun k hk =>
    (Nat.add_lt_add_left hk offset).trans_le (hin.trans hsize)
  have hsome : ∀ k < length, (blockPage dev.guestPool.base blocks (offset+k)).isSome := by
    intro k hk
    rw [blockPage,Option.isSome_map]
    exact Segments.locate_isSome.mpr (hcovered k hk)
  refine ⟨runs,hok,htiles,fun k hk hkp => ⟨hpage k hk hkp ▸ hsome k hk,hpage k hk hkp⟩,
    fun haligned k hk => ?_,fun u f hu => ?_⟩
  · have hdvd : PAGE_SIZE ∣ k/PAGE_SIZE*PAGE_SIZE := Nat.dvd_mul_left _ _
    have hfloor := Nat.div_mul_le_self k PAGE_SIZE
    have hbyte : byteAt runs (vma.vmStart+k) = blockByte dev.guestPool.base blocks (offset+k) := by
      rw [htiles.byteAt_eq valid.start_page,hpage _ (hfloor.trans_lt hk) hdvd,
        ← served.blockByte_add haligned (Nat.dvd_add hoffset hdvd) (Nat.mod_lt _ (by decide)),
        Nat.add_assoc,Nat.div_add_mod']
    refine ⟨?_,hbyte⟩
    rw [hbyte,blockByte,Option.isSome_map]
    exact Segments.locate_isSome.mpr (hcovered k hk)
  · obtain ⟨k,hkp,hk,hat⟩ := htiles.exists_page valid.start_page hu
    have hf := (hpage k hk hkp).symm.trans hat
    have hkey := Nat.dvd_add hoffset hkp
    refine ⟨fun o ho hbeyond hfo => ?_,fun c hc hdisj x hx hxp heq => ?_⟩
    · have hsame := served.blockPage_injective hpool ho hkey hfo hf
      omega
    · exact served.blockPage_ne hpool hkey hc hdisj hx hxp (heq ▸ hf)

/-- An object of five pages over two blocks of four and two pages, of which the window takes the second to
the fifth. -/
theorem guestPool_mmap_stitch_partial :
    let dev : VramDev := ⟨true,true,0,0,⟨0x100000000,0x10000,0,0x10000,0x10000,0,true,false⟩⟩
    let blocks : List Block := [⟨0x4000,0x4000,by decide⟩,⟨0xA000,0x2000,by decide⟩]
    let v := Vram.guestPoolCreate 0x5000 1 0x100000 blocks
    let vma : Vma := ⟨0x7000,0xB000,0x100001⟩
    let offset := v.windowOffset vma
    let length := vma.vmEnd - vma.vmStart
    offset = 0x1000 ∧ length = 0x4000 ∧
      ∃ runs, v.mmap dev (fun _ => 0) vma = some (0,runs) ∧ Tiles runs vma.vmStart vma.vmEnd ∧
        (∀ k < length, PAGE_SIZE ∣ k → (pageAt runs (vma.vmStart+k)).isSome ∧
          pageAt runs (vma.vmStart+k) = blockPage dev.guestPool.base blocks (offset+k)) ∧
        (PAGE_SIZE ∣ dev.guestPool.base → ∀ k < length, (byteAt runs (vma.vmStart+k)).isSome ∧
          byteAt runs (vma.vmStart+k) = blockByte dev.guestPool.base blocks (offset+k)) ∧
        ∀ u f, pageAt runs u = some f →
          (∀ o, PAGE_SIZE ∣ o → v.size ≤ o → blockPage dev.guestPool.base blocks o ≠ some f) ∧
          ∀ c : Block, c.stop ≤ dev.guestPool.size → (∀ b ∈ blocks, c.Disjoint b) →
            ∀ x, c.Contains x → PAGE_SIZE ∣ x → physPage (dev.guestPool.base+x) ≠ f :=
  ⟨by decide +kernel,by decide,(guestPool_mmap_stitch (by decide) (by decide)
    ⟨by decide,by decide,by decide,by decide⟩ (by decide) 1 0x100000
    ⟨by decide,by decide,by decide⟩ (fun _ => 0)).1 (fun _ => rfl) (by decide) (by decide +kernel)⟩

end GuestAdditions

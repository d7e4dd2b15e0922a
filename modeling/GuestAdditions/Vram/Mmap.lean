import GuestAdditions.Library.Segments
import GuestAdditions.Vram.Object
import Mathlib.Data.Nat.ModEq

/-! `virtio_gpu_vram_mmap`: the physical pages that a mapping of an object installs. -/
namespace GuestAdditions

/-- The page of an address, in a physical address space of `2^64` bytes. -/
def physPage (addr : ℕ) : ℕ := addr / PAGE_SIZE % 2^52

inductive PageProt
  | cached
  | writecombine
  | noncached
  deriving DecidableEq

/-- A call of `io_remap_pfn_range`. -/
structure PteRun where
  uaddr : ℕ
  pfn : ℕ
  len : ℕ
  prot : PageProt
  deriving DecidableEq

structure Vma where
  vmStart : ℕ
  vmEnd : ℕ
  vmPgoff : ℕ

/-- A mapping of the kernel covers whole pages. -/
structure Vma.Valid (vma : Vma) : Prop where
  start_page : PAGE_SIZE ∣ vma.vmStart
  end_page : PAGE_SIZE ∣ vma.vmEnd
  le : vma.vmStart ≤ vma.vmEnd

/-- The page that the runs install at a user address. -/
def pageAt (runs : List PteRun) (u : ℕ) : Option ℕ :=
  (runs.find? (fun r => r.uaddr ≤ u ∧ u < r.uaddr+r.len)).map
    fun r => (r.pfn+(u - r.uaddr)/PAGE_SIZE) % 2^52

/-- The walk over the blocks: where it stopped, and the runs it installed. -/
def mmapBlocks (remap : PteRun → ℤ) (base vmEnd : ℕ) (prot : PageProt) :
    List Block → ℕ → ℕ → ℤ × ℕ × List PteRun
  | [], uaddr, _ => (0,uaddr,[])
  | b::blocks, uaddr, skip =>
    if b.size ≤ skip then mmapBlocks remap base vmEnd prot blocks uaddr (skip - b.size)
    else
      let len := min (b.size - skip) (vmEnd - uaddr)
      if len = 0 then (0,uaddr,[])
      else
        let run : PteRun := ⟨uaddr,wrap64 (base+(b.offset+skip)) / PAGE_SIZE,len,prot⟩
        let ret := remap run
        if ret ≠ 0 then (ret,uaddr,[])
        else if vmEnd ≤ uaddr+len then (0,uaddr+len,[run])
        else
          let r := mmapBlocks remap base vmEnd prot blocks (uaddr+len) 0
          (r.1,r.2.1,run::r.2.2)

namespace Vram

/-- `vma->vm_pgoff` after the subtraction of the fake offset: the first page of the object that is
mapped. -/
def pgoff (v : Vram) (vma : Vma) : ℕ := wrap64 (vma.vmPgoff+(2^64 - v.vmaNode.toNat))

def pageProt (v : Vram) : PageProt :=
  if v.mapInfo = VIRTIO_GPU_MAP_CACHE_WC then .writecombine
  else if v.mapInfo = VIRTIO_GPU_MAP_CACHE_UNCACHED then .noncached
  else .cached

def mmapGuestPool (dev : VramDev) (remap : PteRun → ℤ) (v : Vram) (vma : Vma) : ℤ × List PteRun :=
  if dev.guestPool.base = 0 then (-EINVAL,[])
  else
    let r := mmapBlocks remap dev.guestPool.base vma.vmEnd v.pageProt v.guestPoolBlocks vma.vmStart
      (wrap64 (v.pgoff vma*PAGE_SIZE))
    if r.1 ≠ 0 then (r.1,r.2.2)
    else if r.2.1 < vma.vmEnd then (-EINVAL,r.2.2)
    else (0,r.2.2)

/-- One run of the whole mapping, at the page `pfn` of the first byte of the object. -/
def mmapRun (remap : PteRun → ℤ) (v : Vram) (vma : Vma) (pfn : ℕ) : ℤ × List PteRun :=
  let run : PteRun := ⟨vma.vmStart,pfn+v.pgoff vma,vma.vmEnd - vma.vmStart,v.pageProt⟩
  (remap run,if remap run = 0 then [run] else [])

/-- `virtio_gpu_vram_mmap`; `none` while the host has not answered the map command. -/
def mmap (dev : VramDev) (remap : PteRun → ℤ) (v : Vram) (vma : Vma) : Option (ℤ × List PteRun) :=
  if ¬ v.UseMappable ∧ v.guestPoolOwned = false then some (-EINVAL,[])
  else if v.guestPoolOwned = false ∧ v.mapState = .initializing then none
  else if v.guestPoolOwned = false ∧ v.mapState ≠ .ok then some (-EINVAL,[])
  else
    let vmEnd := wrap64 (v.pgoff vma*PAGE_SIZE)+(vma.vmEnd - vma.vmStart)
    if 2^64 ≤ vmEnd then some (-EINVAL,[])
    else if v.nodeSize < vmEnd then some (-EINVAL,[])
    else if v.guestPoolOwned then some (v.mmapGuestPool dev remap vma)
    else if v.poolResident then
      if dev.gpuPoolBase = 0 then some (-EINVAL,[])
      else some (v.mmapRun remap vma (wrap64 (dev.gpuPoolBase+v.poolOffset) / PAGE_SIZE))
    else some (v.mmapRun remap vma (v.nodeStart / PAGE_SIZE))

end Vram

lemma physPage_wrap64 (addr : ℕ) : physPage (wrap64 addr) = physPage addr := by
  have h := Nat.mod_mul_right_div_self addr PAGE_SIZE (2^52)
  rw [show PAGE_SIZE*2^52 = 2^64 by norm_num] at h
  rw [physPage, wrap64, h, Nat.mod_mod, physPage]

lemma physPage_add (addr k : ℕ) : physPage (addr+k*PAGE_SIZE) = (addr / PAGE_SIZE+k) % 2^52 := by
  rw [physPage, Nat.add_mul_div_right _ _ (by decide)]

lemma pageAt_cons_of_mem {run : PteRun} {runs : List PteRun} {u : ℕ} (h : run.uaddr ≤ u)
    (h' : u < run.uaddr+run.len) :
    pageAt (run::runs) u = some ((run.pfn+(u - run.uaddr)/PAGE_SIZE) % 2^52) := by
  simp [pageAt, h, h']

lemma pageAt_cons_of_ge {run : PteRun} {runs : List PteRun} {u : ℕ} (h : run.uaddr+run.len ≤ u) :
    pageAt (run::runs) u = pageAt runs u := by
  simp [pageAt, not_lt.mpr h]

lemma physPage_congr {a b : ℕ} (h : Nat.ModEq (2^64) a b) : physPage a = physPage b := by
  rw [← physPage_wrap64, wrap64, h, ← wrap64, physPage_wrap64]

/-- A run that starts at the address `addr` installs the pages that follow it. -/
theorem pfn_add (addr k : ℕ) :
    (wrap64 addr / PAGE_SIZE+k) % 2^52 = physPage (addr+k*PAGE_SIZE) := by
  have h : Nat.ModEq (2^52) (wrap64 addr / PAGE_SIZE) (addr / PAGE_SIZE) := physPage_wrap64 addr
  rw [physPage_add]
  exact h.add_right k

/-- The page of the pool at an offset of an object made of the blocks. -/
def blockPage (base : ℕ) (blocks : List Block) (o : ℕ) : Option ℕ :=
  (Segments.locate Extent.size blocks o).map fun p => physPage (base+(p.1.offset+p.2))

section Walk
variable {remap : PteRun → ℤ} {base vmEnd : ℕ} {prot : PageProt} {blocks : List Block}
  {uaddr skip : ℕ}

/-- The run for a block installs the pages of that block. -/
theorem pageAt_block {b : Block} {len : ℕ} {runs : List PteRun} {u : ℕ} (huaddr : PAGE_SIZE ∣ uaddr)
    (hu : PAGE_SIZE ∣ u) (hlo : uaddr ≤ u) (hhi : u < uaddr+len) (hlen : len ≤ b.size - skip) :
    pageAt (⟨uaddr,wrap64 (base+(b.offset+skip)) / PAGE_SIZE,len,prot⟩::runs) u =
      blockPage base (b::blocks) (skip+(u - uaddr)) := by
  obtain ⟨k,hk⟩ := Nat.dvd_sub hu huaddr
  rw [pageAt_cons_of_mem hlo hhi, blockPage, Segments.locate_cons_of_lt (by omega), hk,
    Nat.mul_div_cancel_left _ (by decide), pfn_add, Nat.mul_comm k]
  simp only [Option.map_some]
  congr 2
  omega

/-- A walk that does not fail installs, up to where it stopped, the pages of the blocks in order. -/
theorem mmapBlocks_pages (hsize : ∀ b ∈ blocks, PAGE_SIZE ∣ b.size) (hskip : PAGE_SIZE ∣ skip)
    (huaddr : PAGE_SIZE ∣ uaddr)
    (hret : (mmapBlocks remap base vmEnd prot blocks uaddr skip).1 = 0) {u : ℕ} (hu : PAGE_SIZE ∣ u)
    (hlo : uaddr ≤ u) (hhi : u < (mmapBlocks remap base vmEnd prot blocks uaddr skip).2.1) :
    skip+(u - uaddr) < Segments.total Extent.size blocks ∧
      pageAt (mmapBlocks remap base vmEnd prot blocks uaddr skip).2.2 u =
        blockPage base blocks (skip+(u - uaddr)) := by
  induction blocks generalizing uaddr skip with
  | nil => exact absurd hhi (not_lt.mpr hlo)
  | cons b blocks ih =>
    have hb : PAGE_SIZE ∣ b.size := hsize b List.mem_cons_self
    have hrest : ∀ c ∈ blocks, PAGE_SIZE ∣ c.size := fun c hc => hsize c (List.mem_cons_of_mem _ hc)
    simp only [mmapBlocks, Segments.total_cons] at hret hhi ⊢
    split_ifs at hret hhi ⊢ with h₁ h₂ h₃ h₄
    · obtain ⟨hlt,hpage⟩ := ih hrest (Nat.dvd_sub hskip hb) huaddr hret hlo hhi
      refine ⟨by omega,?_⟩
      rw [hpage, blockPage, blockPage, Segments.locate_cons_of_le (by omega)]
      congr 2
      omega
    · exact absurd hhi (not_lt.mpr hlo)
    · exact absurd hret h₃
    · exact ⟨by simp only at hhi; omega,pageAt_block huaddr hu hlo hhi (min_le_left _ _)⟩
    · -- the block ends before the mapping does, so the whole rest of it was installed
      have hlen : min (b.size - skip) (vmEnd - uaddr) = b.size - skip := by omega
      rw [hlen] at hret hhi ⊢
      by_cases hin : u < uaddr+(b.size - skip)
      · exact ⟨by omega,pageAt_block huaddr hu hlo hin le_rfl⟩
      · obtain ⟨hlt,hpage⟩ := ih hrest (dvd_zero _)
          (Nat.dvd_add huaddr (Nat.dvd_sub hb hskip)) hret (not_lt.mp hin) hhi
        refine ⟨by omega,?_⟩
        rw [pageAt_cons_of_ge (not_lt.mp hin), hpage, blockPage, blockPage,
          Segments.locate_cons_of_le (by omega)]
        congr 2
        omega

/-- When every remap succeeds and the blocks reach far enough, the walk covers the mapping. -/
theorem mmapBlocks_covers (hremap : ∀ run, remap run = 0) (hle : uaddr ≤ vmEnd)
    (hroom : skip+(vmEnd - uaddr) ≤ Segments.total Extent.size blocks) :
    (mmapBlocks remap base vmEnd prot blocks uaddr skip).1 = 0 ∧
      (mmapBlocks remap base vmEnd prot blocks uaddr skip).2.1 = vmEnd := by
  induction blocks generalizing uaddr skip with
  | nil =>
    simp only [Segments.total_nil] at hroom
    exact ⟨rfl,show uaddr = vmEnd by omega⟩
  | cons b blocks ih =>
    rw [Segments.total_cons] at hroom
    simp only [mmapBlocks, hremap]
    split_ifs with h₁ h₂ h₃ h₄
    · exact ih hle (by omega)
    · exact ⟨rfl,show uaddr = vmEnd by omega⟩
    · exact absurd rfl h₃
    · exact ⟨rfl,show uaddr+min (b.size - skip) (vmEnd - uaddr) = vmEnd by omega⟩
    · exact ih (by omega) (by omega)

end Walk
end GuestAdditions

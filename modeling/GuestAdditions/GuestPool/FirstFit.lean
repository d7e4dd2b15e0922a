import GuestAdditions.GuestPool.Interface
import Mathlib.Data.List.Perm.Subperm
import Mathlib.Data.List.Sort

/-! An allocator that meets the assumptions on `drm_buddy`: it hands out the first free slots of
the range, all of the minimum block size. It refuses the same arguments as `drm_buddy`. -/
namespace GuestAdditions

structure FirstFit where
  total : ℕ
  blocks : List Block
  deriving DecidableEq, Repr

namespace FirstFit

/-- The slot of `2^j` bytes with index `k`. -/
def slot (j k : ℕ) : Block := ⟨k*2^j,2^j,Nat.two_pow_pos j⟩

/-- The arguments that are answered with `-EINVAL`. -/
def Refused (lo hi size minBs : ℕ) : Prop :=
  size = 0 ∨ 2^minBs.log2 ≠ minBs ∨ size % minBs ≠ 0 ∨ (lo+size = hi ∧ lo % minBs ≠ 0)

instance (lo hi size minBs : ℕ) : Decidable (Refused lo hi size minBs) :=
  inferInstanceAs (Decidable (_ ∨ _))

def allocBlocks (mm : FirstFit) (lo hi size minBs : ℕ) : ℤ × List Block × FirstFit :=
  if Refused lo hi size minBs then (-EINVAL,[],mm)
  else if capacity mm.blocks minBs lo hi < size then (-ENOSPC,[],mm)
  else
    let bs := ((freeSlots mm.blocks minBs lo hi).take (size/minBs)).map (slot minBs.log2)
    (0,bs,{ mm with blocks := bs ++ mm.blocks })

def freeList (mm : FirstFit) (bs : List Block) : FirstFit :=
  { mm with blocks := mm.blocks.diff bs }

def buddy : DrmBuddy FirstFit where
  init size _ := (0,⟨size,[]⟩)
  allocBlocks := allocBlocks
  freeList := freeList
  size := total
  avail mm := mm.total - (mm.blocks.map Extent.size).sum
  live := blocks

variable {mm mm' : FirstFit} {lo hi size minBs : ℕ} {ret : ℤ} {bs : List Block}

/-- What a successful allocation says: the arguments were accepted, the room was there and the
blocks are the first free slots. -/
theorem allocBlocks_ok (h : allocBlocks mm lo hi size minBs = (0,bs,mm')) :
    ¬ Refused lo hi size minBs ∧ size ≤ capacity mm.blocks minBs lo hi ∧
      bs = ((freeSlots mm.blocks minBs lo hi).take (size/minBs)).map (slot minBs.log2) ∧
      mm' = { mm with blocks := bs ++ mm.blocks } := by
  simp only [allocBlocks] at h
  split_ifs at h with h₁ h₂
  · exact absurd (Prod.mk.inj h).1 (by decide)
  · exact absurd (Prod.mk.inj h).1 (by decide)
  · simp only [Prod.mk.injEq, true_and] at h
    obtain ⟨rfl,rfl⟩ := h
    exact ⟨h₁,not_lt.mp h₂,rfl,rfl⟩

lemma allocBlocks_failed (h : allocBlocks mm lo hi size minBs = (ret,bs,mm')) (hne : ret ≠ 0) :
    bs = [] ∧ mm' = mm := by
  simp only [allocBlocks] at h
  split_ifs at h with h₁ h₂ <;> simp only [Prod.mk.injEq] at h
  · exact ⟨h.2.1.symm,h.2.2.symm⟩
  · exact ⟨h.2.1.symm,h.2.2.symm⟩
  · exact absurd h.1.symm hne

lemma minBs_eq (h : ¬ Refused lo hi size minBs) : 2^minBs.log2 = minBs :=
  not_not.mp (not_or.mp (not_or.mp h).2).1

lemma minBs_pos (h : ¬ Refused lo hi size minBs) : 0 < minBs :=
  (minBs_eq h).symm ▸ Nat.two_pow_pos _

lemma slot_stop (j k : ℕ) : (slot j k).stop = k*2^j+2^j := rfl

/-- Slots with different indices are disjoint. -/
theorem slot_disjoint {j k k' : ℕ} (h : k < k') : (slot j k).Disjoint (slot j k') := by
  refine .inl ?_
  rw [slot_stop, ← Nat.succ_mul]
  exact Nat.mul_le_mul_right _ h

/-- Every block handed out is a free slot of the range. -/
theorem mem_alloc (h : allocBlocks mm lo hi size minBs = (0,bs,mm')) {b : Block} (hb : b ∈ bs) :
    b.Within lo hi ∧ ∀ l ∈ mm.blocks, b.Disjoint l := by
  obtain ⟨hargs,-,rfl,-⟩ := allocBlocks_ok h
  obtain ⟨k,hk,rfl⟩ := List.mem_map.mp hb
  obtain ⟨hlo,hhi,hfree⟩ := (mem_freeSlots (minBs_pos hargs)).mp (List.mem_of_mem_take hk)
  rw [← minBs_eq hargs] at hlo hhi hfree
  exact ⟨⟨hlo,hhi⟩,fun l hl => (show l.Disjoint (slot _ k) from hfree l hl).symm⟩

lemma alloc_separate (h : allocBlocks mm lo hi size minBs = (0,bs,mm')) : Separate bs := by
  obtain ⟨-,-,rfl,-⟩ := allocBlocks_ok h
  have hsorted : (freeSlots mm.blocks minBs lo hi).Pairwise (· < ·) :=
    List.pairwise_lt_range.filter _
  exact List.pairwise_map.mpr ((hsorted.sublist (List.take_sublist _ _)).imp slot_disjoint)

/-- A whole range is handed out only when nothing live meets it. -/
theorem exact_range (h : allocBlocks mm lo (lo+size) size minBs = (0,bs,mm')) :
    ∀ l ∈ mm.blocks, l.Avoids lo (lo+size) := by
  intro l hl
  obtain ⟨hargs,hroom,-,-⟩ := allocBlocks_ok h
  have hargs' := hargs
  simp only [Refused, true_and, not_or, not_not] at hargs'
  obtain ⟨hsize,-,hdvd,hlo⟩ := hargs'
  refine avoids_of_capacity (minBs_pos hargs) (Nat.dvd_of_mod_eq_zero hlo)
    (Nat.dvd_add (Nat.dvd_of_mod_eq_zero hlo) (Nat.dvd_of_mod_eq_zero hdvd)) (by omega) ?_ hl
  rw [Nat.add_sub_cancel_left]
  exact hroom

lemma buddy_sound : buddy.Sound where
  init_live h := by
    obtain ⟨-,rfl⟩ := Prod.mk.inj h
    rfl
  alloc_live h := by
    obtain ⟨-,-,-,rfl⟩ := allocBlocks_ok h
    exact .refl _
  alloc_within h b hb := (mem_alloc h hb).1
  alloc_separate h := ⟨alloc_separate h,fun b hb => (mem_alloc h hb).2⟩
  alloc_failed h hne := by
    obtain ⟨rfl,rfl⟩ := allocBlocks_failed h hne
    exact ⟨rfl,.refl _⟩
  exact_range := exact_range
  free_live {mm bs rest} h := by
    have hcount : ∀ b ∈ bs, bs.count b ≤ mm.blocks.count b := fun b _ => by
      rw [show mm.blocks.count b = _ from h.count_eq b, List.count_append]
      exact Nat.le_add_right _ _
    exact (List.perm_append_left_iff bs).mp
      ((List.subperm_append_diff_self_of_count_le hcount).trans h)

lemma allocBlocks_prefix {k : ℕ} (hsize : 0 < size) (hdvd : 2^k ∣ size) :
    (allocBlocks mm 0 hi size (2^k)).1 =
      if size ≤ capacity mm.blocks (2^k) 0 hi then 0 else -ENOSPC := by
  have hargs : ¬ Refused 0 hi size (2^k) := by
    simp [Refused, Nat.log2_two_pow, Nat.mod_eq_zero_of_dvd hdvd]
    omega
  simp only [allocBlocks, if_neg hargs]
  by_cases h : size ≤ capacity mm.blocks (2^k) 0 hi
  · rw [if_neg (not_lt.mpr h), if_pos h]
  · rw [if_pos (not_le.mp h), if_neg h]

lemma buddy_complete : buddy.Complete where
  init_size h := by
    obtain ⟨-,rfl⟩ := Prod.mk.inj h
    rfl
  alloc_size {mm mm' lo hi size minBs ret bs} h := by
    by_cases h0 : ret = 0
    · subst h0
      obtain ⟨-,-,-,rfl⟩ := allocBlocks_ok h
      rfl
    · rw [(allocBlocks_failed h h0).2]
  free_size _ _ := rfl
  alloc_prefix hsize _ _ hdvd _ _ := allocBlocks_prefix hsize hdvd
  alloc_zero mm lo hi minBs := by
    simp only [buddy, allocBlocks]
    rw [if_pos (.inl rfl)]

lemma allocBlocks_range {k : ℕ} (hsize : 0 < size) (hlo : 2^k ∣ lo) (hdvd : 2^k ∣ size) :
    (allocBlocks mm lo (lo+size) size (2^k)).1 = 0 ↔ ∀ l ∈ mm.blocks, l.Avoids lo (lo+size) := by
  have hargs : ¬ Refused lo (lo+size) size (2^k) := by
    simp [Refused,Nat.log2_two_pow,Nat.mod_eq_zero_of_dvd hdvd,Nat.mod_eq_zero_of_dvd hlo]
    omega
  constructor
  · intro h
    have hok : allocBlocks mm lo (lo+size) size (2^k) = (0,_,_) := Prod.ext h rfl
    exact exact_range hok
  · intro h
    have hroom := capacity_of_avoids (Nat.two_pow_pos k) hlo (Nat.dvd_add hlo hdvd) h
    rw [Nat.add_sub_cancel_left] at hroom
    simp only [allocBlocks,if_neg hargs,if_neg (not_lt.mpr hroom)]

lemma buddy_exact : buddy.Exact where
  init_size := buddy_complete.init_size
  alloc_size := buddy_complete.alloc_size
  free_size := buddy_complete.free_size
  alloc_not_pow mm lo hi size minBs h := by
    simp only [buddy,allocBlocks]
    rw [if_pos (.inr (.inl fun heq => h _ heq.symm))]
  alloc_range hsize _ hlo hdvd _ := allocBlocks_range hsize hlo hdvd

/-- The list has as many slots as the request has minimum block sizes. -/
theorem alloc_length (h : allocBlocks mm lo hi size minBs = (0,bs,mm')) :
    bs.length = size/minBs := by
  obtain ⟨hargs,hroom,rfl,-⟩ := allocBlocks_ok h
  rw [List.length_map,List.length_take,min_eq_left]
  exact Nat.div_le_of_le_mul (Nat.mul_comm _ minBs ▸ hroom)

lemma alloc_size (h : allocBlocks mm lo hi size minBs = (0,bs,mm')) {b : Block} (hb : b ∈ bs) :
    b.size = minBs := by
  obtain ⟨hargs,-,rfl,-⟩ := allocBlocks_ok h
  obtain ⟨k,-,rfl⟩ := List.mem_map.mp hb
  exact minBs_eq hargs

lemma buddy_sized : buddy.Sized where
  block_le h b hb := (alloc_size h hb).ge
  total {mm mm' lo hi size minBs bs} h hdvd := by
    have hall : bs.map Extent.size = List.replicate (size/minBs) minBs := by
      rw [← alloc_length h]
      exact List.map_eq_replicate_iff.mpr fun b hb => alloc_size h hb
    rw [hall,List.sum_replicate_nat,Nat.div_mul_cancel hdvd]
  nonzero h := Nat.pos_of_ne_zero fun h0 => (allocBlocks_ok h).1 (.inl h0)

lemma buddy_counted : buddy.Counted where
  alloc_size := buddy_complete.alloc_size
  free_size := buddy_complete.free_size
  avail _ := rfl

end FirstFit
end GuestAdditions

import GuestAdditions.Library.Capacity
import GuestAdditions.Kernel.Errno
import GuestAdditions.Kernel.Word

/-! The two parties the guest-alloc pool of `virtgpu_vram.c` is built on and does not implement:
the host behind the pool queue, and the kernel's `drm_buddy` allocator. Both are parameters of the
model; the assumptions on the allocator are the fields of `DrmBuddy.Sound` and, where a result is
about which requests succeed, about the lists returned or about the free bytes, of `DrmBuddy.Complete`,
`DrmBuddy.Exact`, `DrmBuddy.Sized` and `DrmBuddy.Counted`. -/
namespace GuestAdditions

/-- A `drm_buddy_block`: its offset in the pool and its size in bytes. -/
abbrev Block := Extent

/-- The calls of `gunyah_guest.h` on a pool range. Each takes the pool id, the offset and the
length, and returns the C result with the next state of the host. A range query also returns the
truth value that it stores when its result is 0. -/
structure PoolHost (σ : Type) where
  grow : σ → ℕ → ℕ → ℕ → ℤ × σ
  shrink : σ → ℕ → ℕ → ℕ → ℤ × σ
  queryRange : σ → ℕ → ℕ → ℕ → ℤ × Bool × σ

/-- A host that gives the listed answers in order, whatever it is asked, and then times out. -/
def PoolHost.scripted : PoolHost (List (ℤ × Bool)) where
  grow s _ _ _ := ((s.headD (-ETIMEDOUT,false)).1,s.tail)
  shrink s _ _ _ := ((s.headD (-ETIMEDOUT,false)).1,s.tail)
  queryRange s _ _ _ := ((s.headD (-ETIMEDOUT,false)).1,(s.headD (-ETIMEDOUT,false)).2,s.tail)

/-- A host that answers every request with success. -/
def PoolHost.willing : PoolHost Unit where
  grow _ _ _ _ := (0,())
  shrink _ _ _ _ := (0,())
  queryRange _ _ _ _ := (0,true,())

/-- In a state that satisfies `ok` the host grants a grow, and again ends in such a state. -/
def PoolHost.Granting {σ : Type} (H : PoolHost σ) (ok : σ → Prop) : Prop :=
  ∀ s id offset len, ok s → (H.grow s id offset len).1 = 0 ∧ ok (H.grow s id offset len).2

lemma PoolHost.willing_granting : PoolHost.willing.Granting (fun _ => True) :=
  fun _ _ _ _ _ => ⟨rfl,trivial⟩

/-- The allocator calls that the driver makes. `allocBlocks mm start end size minBlockSize` is
`drm_buddy_alloc_blocks` with `DRM_BUDDY_RANGE_ALLOCATION`; `live` lists the blocks handed out and
not returned since. -/
structure DrmBuddy (β : Type) where
  init : ℕ → ℕ → ℤ × β
  allocBlocks : β → ℕ → ℕ → ℕ → ℕ → ℤ × List Block × β
  freeList : β → List Block → β
  size : β → ℕ
  avail : β → ℕ
  live : β → List Block

/-- What the driver relies on: a range allocation takes free blocks of the range, a failed one
takes nothing, an allocation of a whole range finds it free, and a returned list leaves the
ledger. -/
structure DrmBuddy.Sound {β : Type} (B : DrmBuddy β) : Prop where
  init_live : ∀ {size chunk mm}, B.init size chunk = (0,mm) → B.live mm = []
  alloc_live : ∀ {mm mm' lo hi size minBs bs}, B.allocBlocks mm lo hi size minBs = (0,bs,mm') →
    (B.live mm').Perm (bs ++ B.live mm)
  alloc_within : ∀ {mm mm' lo hi size minBs bs}, B.allocBlocks mm lo hi size minBs = (0,bs,mm') →
    ∀ b ∈ bs, b.Within lo hi
  alloc_separate : ∀ {mm mm' lo hi size minBs bs}, B.allocBlocks mm lo hi size minBs = (0,bs,mm') →
    Separate bs ∧ ∀ b ∈ bs, ∀ l ∈ B.live mm, b.Disjoint l
  alloc_failed : ∀ {mm mm' lo hi size minBs ret bs},
    B.allocBlocks mm lo hi size minBs = (ret,bs,mm') → ret ≠ 0 →
    bs = [] ∧ (B.live mm').Perm (B.live mm)
  exact_range : ∀ {mm mm' lo size minBs bs},
    B.allocBlocks mm lo (lo+size) size minBs = (0,bs,mm') →
    ∀ l ∈ B.live mm, l.Avoids lo (lo+size)
  free_live : ∀ {mm bs rest}, (B.live mm).Perm (bs ++ rest) →
    (B.live (B.freeList mm bs)).Perm rest

/-- Which requests for a prefix of the pool are served: those whose size, a multiple of the minimum
block size, does not exceed the free capacity in aligned blocks of that size. -/
structure DrmBuddy.Complete {β : Type} (B : DrmBuddy β) : Prop where
  init_size : ∀ {size chunk mm}, B.init size chunk = (0,mm) → B.size mm = size
  alloc_size : ∀ {mm mm' lo hi size minBs ret bs},
    B.allocBlocks mm lo hi size minBs = (ret,bs,mm') → B.size mm' = B.size mm
  free_size : ∀ mm bs, B.size (B.freeList mm bs) = B.size mm
  alloc_prefix : ∀ {mm hi size k}, 0 < size → size ≤ B.size mm → 12 ≤ k → 2^k ∣ size →
    PAGE_SIZE ∣ hi → hi ≤ B.size mm → (B.allocBlocks mm 0 hi size (2^k)).1 =
      if size ≤ capacity (B.live mm) (2^k) 0 hi then 0 else -ENOSPC
  alloc_zero : ∀ mm lo hi minBs, (B.allocBlocks mm lo hi 0 minBs).1 = -EINVAL

/-- How a request for one whole range is answered: it needs a minimum block size that is a power of
two, and is served when the range, aligned to it, is free. -/
structure DrmBuddy.Exact {β : Type} (B : DrmBuddy β) : Prop where
  init_size : ∀ {size chunk mm}, B.init size chunk = (0,mm) → B.size mm = size
  alloc_size : ∀ {mm mm' lo hi size minBs ret bs},
    B.allocBlocks mm lo hi size minBs = (ret,bs,mm') → B.size mm' = B.size mm
  free_size : ∀ mm bs, B.size (B.freeList mm bs) = B.size mm
  alloc_not_pow : ∀ mm lo hi size {minBs}, (∀ k, minBs ≠ 2^k) →
    (B.allocBlocks mm lo hi size minBs).1 = -EINVAL
  alloc_range : ∀ {mm lo size k}, 0 < size → 12 ≤ k → 2^k ∣ lo → 2^k ∣ size →
    lo+size ≤ B.size mm → ((B.allocBlocks mm lo (lo+size) size (2^k)).1 = 0 ↔
      ∀ l ∈ B.live mm, l.Avoids lo (lo+size))

/-- The list that a request is answered with: blocks of at least the minimum size that add up to the
size asked for, which is a multiple of it and not zero. -/
structure DrmBuddy.Sized {β : Type} (B : DrmBuddy β) : Prop where
  block_le : ∀ {mm mm' lo hi size minBs bs}, B.allocBlocks mm lo hi size minBs = (0,bs,mm') →
    ∀ b ∈ bs, minBs ≤ b.size
  total : ∀ {mm mm' lo hi size minBs bs}, B.allocBlocks mm lo hi size minBs = (0,bs,mm') →
    minBs ∣ size → (bs.map Extent.size).sum = size
  nonzero : ∀ {mm mm' lo hi size minBs bs}, B.allocBlocks mm lo hi size minBs = (0,bs,mm') →
    0 < size

/-- The count of free bytes is what the live blocks leave of the pool. -/
structure DrmBuddy.Counted {β : Type} (B : DrmBuddy β) : Prop where
  alloc_size : ∀ {mm mm' lo hi size minBs ret bs},
    B.allocBlocks mm lo hi size minBs = (ret,bs,mm') → B.size mm' = B.size mm
  free_size : ∀ mm bs, B.size (B.freeList mm bs) = B.size mm
  avail : ∀ mm, B.avail mm = B.size mm - ((B.live mm).map Extent.size).sum

end GuestAdditions

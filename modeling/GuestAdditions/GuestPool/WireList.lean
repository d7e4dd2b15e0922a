import GuestAdditions.GuestPool.Create
import GuestAdditions.GuestPool.FirstFit
import GuestAdditions.Library.Segments

/-! What the host reads from the memory entries of a CREATE_BLOB. An entry has 32 bits for a length that
the allocator counts in 64. -/
namespace GuestAdditions

/-- The host's reading of an array of `n` entries. -/
def decodeEntries : ℕ → List UInt8 → List MemEntry
  | 0, _ => []
  | n+1, buf => ⟨UInt64.ofNat (leField buf 0 8),UInt32.ofNat (leField buf 8 4),
      UInt32.ofNat (leField buf 12 4)⟩::decodeEntries n (buf.drop 16)

namespace CreateBlob

def entries (c : CreateBlob) : List MemEntry := decodeEntries c.nents c.ents

/-- The guest physical address at which the host finds byte `n` of the blob. -/
def hostByte (c : CreateBlob) (n : ℕ) : Option ℕ :=
  (Segments.locate (fun e => e.length.toNat) c.entries n).map fun q => wrap64 (q.1.addr.toNat+q.2)

end CreateBlob

/-- The guest physical address of byte `n` of a list of blocks. -/
def blockByte (base : ℕ) (blocks : List Block) (n : ℕ) : Option ℕ :=
  (Segments.locate Extent.size blocks n).map fun q => wrap64 (base+(q.1.offset+q.2))

/-- The host reads one entry for each block, in order, with its address and its size, so that the entries
cover the blob and every byte of it is where the blocks have it. -/
structure CreateBlob.Faithful (base : ℕ) (blocks : List Block) (c : CreateBlob) : Prop where
  entries : c.entries.map (fun e => (e.addr.toNat,e.length.toNat)) =
    blocks.map fun b => (wrap64 (base+b.offset),b.size)
  covers : c.size ≤ Segments.total (fun e => e.length.toNat) c.entries
  bytes : ∀ n < c.size, (c.hostByte n).isSome ∧ c.hostByte n = blockByte base blocks n

variable {base : ℕ} {blocks : List Block} {stale : MemEntry}

@[simp] lemma MemEntry.bytes_length (e : MemEntry) : e.bytes.length = 16 := by
  simp [MemEntry.bytes]

/-- The host reads back the entries that were written. -/
theorem decodeEntries_bytes (ents : List MemEntry) :
    decodeEntries ents.length (ents.flatMap MemEntry.bytes) = ents := by
  induction ents with
  | nil => rfl
  | cons e ents ih =>
    have haddr : leField (e.bytes ++ ents.flatMap MemEntry.bytes) 0 8 = e.addr.toNat := by
      simp [MemEntry.bytes,leField_head (w := 8) e.addr.toNat_lt]
    have hlength : leField (e.bytes ++ ents.flatMap MemEntry.bytes) 8 4 = e.length.toNat := by
      simp [MemEntry.bytes,leField_skip,leField_head (w := 4) e.length.toNat_lt]
    have hpadding : leField (e.bytes ++ ents.flatMap MemEntry.bytes) 12 4 = e.padding.toNat := by
      simp [MemEntry.bytes,leField_skip,leField_head (w := 4) e.padding.toNat_lt]
    have hrest : (e.bytes ++ ents.flatMap MemEntry.bytes).drop 16 = ents.flatMap MemEntry.bytes := by
      rw [List.drop_append,e.bytes_length,Nat.sub_self,List.drop_zero,List.drop_eq_nil_of_le (by simp),
        List.nil_append]
    rw [List.flatMap_cons,List.length_cons,decodeEntries,haddr,hlength,hpadding,hrest,ih]
    simp

lemma fillEnts_length (base : ℕ) (blocks : List Block) (i : ℕ) (ents : List MemEntry) :
    (fillEnts base blocks i ents).length = ents.length := by
  induction blocks generalizing i ents with
  | nil => rfl
  | cons b blocks ih => rw [fillEnts,ih,List.length_set]

/-- While the counter does not wrap, the loop fills the next entries of the array in order. -/
theorem fillEnts_append (filled : List MemEntry) (h : filled.length+blocks.length < 2^32) :
    fillEnts base blocks filled.length (filled ++ List.replicate blocks.length stale) =
      filled ++ blocks.map (memEntry base) := by
  induction blocks generalizing filled with
  | nil => simp [fillEnts]
  | cons b blocks ih =>
    have hset : (filled ++ List.replicate (b::blocks).length stale).set filled.length (memEntry base b) =
        (filled ++ [memEntry base b]) ++ List.replicate blocks.length stale := by
      simp [List.replicate_succ]
    have hwrap : wrap32 (filled.length+1) = (filled ++ [memEntry base b]).length := by
      rw [List.length_append,List.length_singleton]
      refine wrap32_of_lt ?_
      rw [List.length_cons] at h
      omega
    rw [fillEnts,hset,hwrap,ih,List.map_cons,List.append_assoc]
    · rfl
    · rw [List.length_cons] at h
      rw [List.length_append,List.length_singleton]
      omega

/-- With fewer than `2^32` blocks the array has an entry for each, in order. -/
theorem fillEnts_eq (h : blocks.length < 2^32) :
    fillEnts base blocks 0 (List.replicate blocks.length stale) = blocks.map (memEntry base) := by
  have hfill : fillEnts base blocks 0 ([] ++ List.replicate blocks.length stale) =
      [] ++ blocks.map (memEntry base) := fillEnts_append [] (by simpa using h)
  simpa using hfill

lemma memEntry_addr (base : ℕ) (b : Block) : (memEntry base b).addr.toNat = wrap64 (base+b.offset) :=
  UInt64.toNat_ofNat'

lemma memEntry_length (base : ℕ) (b : Block) : (memEntry base b).length.toNat = wrap32 b.size :=
  UInt32.toNat_ofNat'

/-- With fewer than `2^32` blocks, all below 4 GiB, the array describes them. -/
theorem CreateBlob.faithful_of_entries {c : CreateBlob} (hentries : c.entries = blocks.map (memEntry base))
    (hsize : c.size ≤ Segments.total Extent.size blocks) (hblocks : ∀ b ∈ blocks, b.size < 2^32) :
    c.Faithful base blocks := by
  have hlength : ∀ b ∈ blocks, ((fun e : MemEntry => e.length.toNat) ∘ memEntry base) b = b.size :=
    fun b hb => (memEntry_length base b).trans (wrap32_of_lt (hblocks b hb))
  have htotal : Segments.total (fun e : MemEntry => e.length.toNat) c.entries =
      Segments.total Extent.size blocks := by
    rw [hentries,Segments.total,List.map_map]
    exact Segments.total_congr hlength
  refine ⟨?_,htotal ▸ hsize,fun n hn => ?_⟩
  · rw [hentries,List.map_map]
    refine List.map_congr_left fun b hb => ?_
    exact Prod.ext (memEntry_addr base b) (hlength b hb)
  · have heq : c.hostByte n = blockByte base blocks n := by
      rw [hostByte,blockByte,hentries,Segments.locate_map,Segments.locate_congr hlength,Option.map_map]
      congr 1
      funext q
      simp only [Function.comp_apply,Prod.map_fst,Prod.map_snd,id_eq,memEntry_addr,wrap64]
      rw [Nat.mod_add_mod,Nat.add_assoc]
    refine ⟨?_,heq⟩
    rw [hostByte,Option.isSome_map]
    exact Segments.locate_isSome.mpr (htotal ▸ hn.trans_le hsize)

/-- Entries that name the blocks leave no room for a longer list or a larger block. -/
theorem CreateBlob.Faithful.fits {c : CreateBlob} (h : c.Faithful base blocks)
    (hnents : c.entries.length < 2^32) :
    (∀ b ∈ blocks, b.size < 2^32) ∧ blocks.length < 2^32 := by
  have hlen := congrArg List.length h.entries
  rw [List.length_map,List.length_map] at hlen
  refine ⟨fun b hb => ?_,hlen ▸ hnents⟩
  have hmem : (wrap64 (base+b.offset),b.size) ∈ c.entries.map fun e => (e.addr.toNat,e.length.toNat) :=
    h.entries ▸ List.mem_map.mpr ⟨b,hb,rfl⟩
  obtain ⟨e,-,he⟩ := List.mem_map.mp hmem
  exact (Prod.mk.inj he).2 ▸ e.length.toNat_lt

section Pool
variable {σ β : Type} {H : PoolHost σ} {B : DrmBuddy β} {p₀ : GuestPool} {g : Guest σ β}
  {maxNents : ℤ} {size : ℕ}

/-- The blocks of a served request are at least as long as the request in whole pages. -/
theorem guestPoolAlloc_total (hB : B.Sound) (hS : B.Sized)
    (hok : (guestPoolAlloc H B maxNents size g).1 = 0) : align size PAGE_SIZE ≤
      Segments.total Extent.size (guestPoolAlloc H B maxNents size g).2.1 := by
  obtain ⟨g',mm',-,asked⟩ := guestPoolAlloc_served (H := H) hB hok
  obtain ⟨k,-,hk,hminBs,hsize⟩ := guestPoolRound_align maxNents size
  have hpos := hS.nonzero asked
  rw [hminBs] at asked
  rw [Segments.total,hS.total asked (hsize ▸ dvd_align_pow _ _)]
  rw [hsize] at hpos ⊢
  exact (align_bounds hk (align_lt _ _) hpos).1

/-- Nothing moves the base of the pool. -/
theorem PoolClient.run_base (hB : B.Sound) {s : PoolClient σ β} (hs : s.Safe B p₀) {base : ℕ}
    (h : s.guest.pool.base = base) (events : List PoolEvent) :
    (s.run H B events).guest.pool.base = base := by
  refine PoolClient.run_guest (I := fun g => g.pool.base = base) hB (fun _ _ h => h)
    (fun _ _ h => h) (fun g _ h => ?_) (fun g _ h => ?_) hs h events
  · have hout := guestPoolGrowOneLocked_outcome H B g
    generalize guestPoolGrowOneLocked H B g = r at hout ⊢
    cases hout with
    | refused => exact h
    | failed => simpa using h
    | raised => exact h
  · have hout := guestPoolShrinkOneLocked_outcome H B g
    generalize guestPoolShrinkOneLocked H B g = r at hout ⊢
    cases hout with
    | refused => exact h
    | stopped | lowered => exact h
    | failed => simpa using h

/-- In every reachable state of every accepted pool, what a create that succeeds passes to CREATE_BLOB is
faithful to the blocks it was given exactly when they are fewer than `2^32` and each is below
4 GiB. -/
theorem guestPoolCreate_faithful_iff (hB : B.Sound) (hS : B.Sized)
    {reservedMemory : Option (List DtNode)} {ret : ℤ} {p : GuestPool} {mm : β}
    (hinit : guestPoolInit B reservedMemory = (ret,some (p,mm))) {host : σ} {events : List PoolEvent}
    {maxNents maxNents' : ℤ} {port : CreatePort} {size : ℕ} {c : CreateBlob} {g' : Guest σ β}
    (hok : guestPoolCreate H B maxNents maxNents' port size
      ((PoolClient.start p mm host).run H B events).guest = (0,some c,g')) :
    let blocks := (guestPoolAlloc H B maxNents (align size PAGE_SIZE)
      ((PoolClient.start p mm host).run H B events).guest).2.1
    c.Faithful p.base blocks ↔ (∀ b ∈ blocks, b.size < 2^32) ∧ blocks.length < 2^32 := by
  intro blocks
  obtain ⟨hp,hmm⟩ := guestPoolInit_accepted hinit
  have hbase : ((PoolClient.start p mm host).run H B events).guest.pool.base = p.base :=
    PoolClient.run_base hB (PoolClient.start_safe hB hp hmm host) rfl events
  obtain ⟨halloc,hsize,hnents,hents⟩ := guestPoolCreate_ok hok
  rw [hbase] at hents
  constructor
  · intro h
    refine h.fits ?_
    have hcount : c.entries.length = c.nents := by
      have hread := decodeEntries_bytes (fillEnts p.base blocks 0 (List.replicate c.nents port.stale))
      rw [fillEnts_length,List.length_replicate] at hread
      rw [CreateBlob.entries,hents,hread,fillEnts_length,List.length_replicate]
    rw [hcount,hnents]
    exact wrap32_lt _
  · intro ⟨hblocks,hlen⟩
    have htotal : align size PAGE_SIZE ≤ Segments.total Extent.size blocks := by
      have hround := guestPoolAlloc_total hB hS halloc
      rwa [align_page_of_dvd (align_lt _ _) (dvd_align_page _)] at hround
    refine CreateBlob.faithful_of_entries ?_ (hsize.trans_le htotal) hblocks
    have hcount : c.nents = blocks.length := hnents.trans (wrap32_of_lt hlen)
    have hfill : fillEnts p.base blocks 0 (List.replicate c.nents port.stale) =
        blocks.map (memEntry p.base) := by
      rw [hcount]
      exact fillEnts_eq hlen
    have hread := decodeEntries_bytes (blocks.map (memEntry p.base))
    rw [List.length_map,← hcount] at hread
    rw [CreateBlob.entries,hents,hfill,hread]

end Pool

/-- One page of a pool of two. -/
theorem guestPoolCreate_faithful_page :
    let p : GuestPool := ⟨0x100000000,0x2000,0,0x2000,0x2000,0,true,false⟩
    let g := ((PoolClient.start p ⟨0x2000,[]⟩ ()).run PoolHost.willing FirstFit.buddy []).guest
    let c : CreateBlob := ⟨0x1000,[0,0,0,0,1,0,0,0,0,16,0,0,0,0,0,0],1⟩
    let blocks := (guestPoolAlloc PoolHost.willing FirstFit.buddy 1 (align 0x1000 PAGE_SIZE) g).2.1
    c.Faithful p.base blocks ↔ (∀ b ∈ blocks, b.size < 2^32) ∧ blocks.length < 2^32 :=
  guestPoolCreate_faithful_iff FirstFit.buddy_sound FirstFit.buddy_sized
    (show guestPoolInit _ (some [gpuGuestNode 0x2000 0x2000 0]) = (0,_) by rfl)
    (show guestPoolCreate _ _ 1 1 .willing _ _ = (0,some _,_) by rfl)

/-- A blob of 4 GiB in one block. Its entry has length 0, and the host finds no byte of it. -/
theorem guestPoolCreate_four_gib :
    let p : GuestPool := ⟨0x100000000,0x100000000,0,0x100000000,0x100000000,0,true,false⟩
    let g := ((PoolClient.start p ⟨0x100000000,[]⟩ ()).run PoolHost.willing FirstFit.buddy []).guest
    let c : CreateBlob := ⟨0x100000000,[0,0,0,0,1,0,0,0,0,0,0,0,0,0,0,0],1⟩
    guestPoolInit FirstFit.buddy (some [gpuGuestNode 0x100000000 0x100000000 0]) =
        (0,some (p,⟨0x100000000,[]⟩)) ∧
      (guestPoolAlloc PoolHost.willing FirstFit.buddy 1 0x100000000 g).2.1 = [FirstFit.slot 32 0] ∧
      (guestPoolCreate PoolHost.willing FirstFit.buddy 1 1 .willing 0x100000000 g).1 = 0 ∧
      (guestPoolCreate PoolHost.willing FirstFit.buddy 1 1 .willing 0x100000000 g).2.1 = some c ∧
      c.entries = [⟨0x100000000,0,0⟩] ∧ c.hostByte 0 = none ∧
      ¬ c.Faithful p.base [FirstFit.slot 32 0] := by
  intro p g c
  have hentries : c.entries = [⟨0x100000000,0,0⟩] := by decide +kernel
  refine ⟨by decide +kernel,by decide +kernel,by decide +kernel,by decide +kernel,hentries,
    by decide +kernel,fun h => ?_⟩
  have hcovers := h.covers
  rw [hentries] at hcovers
  exact absurd hcovers (by decide)

end GuestAdditions

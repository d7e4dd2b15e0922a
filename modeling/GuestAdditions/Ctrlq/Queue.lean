import GuestAdditions.Kernel.Errno
import GuestAdditions.Ctrlq.Fence
import GuestAdditions.Library.Transition

/-! The control queue: buffers go onto the ring, the host uses them in an order of its own, and the work
item of the driver takes them off, processes the answers and frees them. -/
namespace GuestAdditions

/-- What `virtio_gpu_queue_fenced_ctrl_buffer` and the work item read of a `struct virtio_gpu_vbuffer`. -/
structure Vbuf where
  id : ℕ
  dataSize : ℕ
  isVmallocAddr : Bool
  respSize : ℕ
  respCb : Bool
  objs : Option ℕ
  deriving DecidableEq

/-- The scatterlists of a buffer: the command, its data and the room for the response. -/
def Vbuf.elemcnt (v : Vbuf) : ℕ :=
  1+(if v.dataSize = 0 then 0
     else if v.isVmallocAddr then (v.dataSize+(PAGE_SIZE-1))/PAGE_SIZE else 1)+
    (if v.respSize = 0 then 0 else 1)

/-- How the calls on the way to the ring end: `vmalloc_to_sgt`, `drm_dev_enter`, and in
`virtqueue_add_sgs` the allocation of an indirect table, whether the queue is broken, and the DMA mapping. -/
structure QueueTries where
  vmallocToSgt : Bool
  devEnter : Bool
  indirectTable : Bool
  broken : Bool
  dmaMap : Bool

/-- Every call succeeds. -/
def QueueTries.willing : QueueTries := ⟨true,true,true,false,true⟩

/-- A buffer on the ring, with the header that the device reads, the fence it was queued with and the
descriptors that it holds. -/
structure RingEntry where
  vbuf : Vbuf
  hdr : CtrlHdr
  fence : Option Fence
  descs : ℕ
  seqno : ℕ
  deriving DecidableEq

/-- `vgdev->ctrlq` with its virtqueue, the fences, and the reclaim list of the work item. `available` and
`used` are the two sides of the ring. `reclaimed` and `answered` are the list in front of the first loop of
the work item and behind it. The other lists are a record: what callers handed in, what they lost or got
freed on the way, what was used, called and freed. -/
structure Ctrlq where
  hasIndirect : Bool
  size : ℕ
  numFree : ℕ
  seqno : ℕ
  fences : FenceTrace
  available : List RingEntry
  used : List (RingEntry × CtrlHdr)
  reclaimed : List (RingEntry × CtrlHdr)
  answered : List RingEntry
  submitted : List Vbuf
  lost : List Vbuf
  refused : List Vbuf
  usedOrder : List RingEntry
  called : List Vbuf
  released : List RingEntry

/-- What happens on the queue. The host picks a buffer by its place among those it has, and an answer. -/
inductive CtrlqEvent
  | queue (v : Vbuf) (fence : Option Fence) (tries : QueueTries)
  | use (i : ℕ) (resp : CtrlHdr)
  | reclaim
  | respond
  | release

namespace Ctrlq

/-- A ring of `size` descriptors. -/
def start (hasIndirect : Bool) (size context : ℕ) : Ctrlq :=
  ⟨hasIndirect,size,size,0,.start context,[],[],[],[],[],[],[],[],[],[]⟩

/-- What `virtio_gpu_queue_ctrl_sgs` waits for. -/
def need (q : Ctrlq) (v : Vbuf) : ℕ := if q.hasIndirect then 1 else v.elemcnt

/-- What `virtqueue_add_sgs` takes: one descriptor for an indirect table, or one for each scatterlist. -/
def takes (q : Ctrlq) (v : Vbuf) (tries : QueueTries) : ℕ :=
  if q.hasIndirect && decide (1 < v.elemcnt) && tries.indirectTable then 1 else v.elemcnt

/-- The fence goes on its list, now that the place of the buffer on the ring is known. -/
def emit (q : Ctrlq) : Option Fence → FenceTrace
  | none => q.fences
  | some fence => q.fences.call (.emit fence)

/-- The entry for a buffer. -/
def entry (q : Ctrlq) (v : Vbuf) (fence : Option Fence) (tries : QueueTries) : RingEntry :=
  { vbuf := v
    hdr := match fence with
      | none => ⟨0,0,0⟩
      | some fence => q.fences.drv.emitHdr fence ⟨0,0,0⟩
    fence := fence.map q.fences.drv.numbered
    descs := q.takes v tries
    seqno := wrap32 (q.seqno+1) }

/-- What `virtqueue_add_sgs` returns. -/
def addSgs (q : Ctrlq) (v : Vbuf) (tries : QueueTries) : ℤ :=
  if tries.broken then - EIO
  else if q.numFree < q.takes v tries then -ENOSPC
  else if tries.dmaMap = false then -ENOMEM
  else 0

/-- `virtio_gpu_queue_fenced_ctrl_buffer`, and the part of `virtio_gpu_queue_ctrl_sgs` that holds the lock.
There is no step while the ring has no room. A failure of `virtqueue_add_sgs` is only warned about. -/
def queue (q : Ctrlq) (v : Vbuf) (fence : Option Fence) (tries : QueueTries) : Option Ctrlq :=
  let q : Ctrlq := { q with submitted := v::q.submitted }
  if v.dataSize ≠ 0 ∧ v.isVmallocAddr = true ∧ tries.vmallocToSgt = false then
    some { q with lost := v::q.lost }
  else if tries.devEnter = false then some { q with refused := v::q.refused }
  else if q.numFree < q.need v then none
  else
    let entry : RingEntry := q.entry v fence tries
    let ret := q.addSgs v tries
    let q : Ctrlq := { q with fences := q.emit fence, seqno := wrap32 (q.seqno+1) }
    if ret ≠ 0 then some { q with lost := v::q.lost }
    else some { q with available := q.available ++ [entry], numFree := q.numFree-entry.descs }

/-- The device puts a buffer on the used ring. -/
def use (q : Ctrlq) (i : ℕ) (resp : CtrlHdr) : Option Ctrlq :=
  q.available[i]?.map fun entry =>
    { q with
      available := q.available.eraseIdx i
      used := q.used ++ [(entry,resp)]
      usedOrder := q.usedOrder ++ [entry] }

/-- The first part of `virtio_gpu_dequeue_ctrl_func`, under the lock: `reclaim_vbufs` until the used ring
is empty. A work item does not run beside itself. -/
def reclaim (q : Ctrlq) : Option Ctrlq :=
  if q.reclaimed = [] ∧ q.answered = [] then
    some { q with
      numFree := q.numFree+(q.used.map fun u => u.1.descs).sum
      reclaimed := q.used
      used := [] }
  else none

/-- One turn of the first loop: the fence of the response and the callback of the buffer. -/
def respond (q : Ctrlq) : Option Ctrlq :=
  match q.reclaimed with
  | [] => none
  | (entry,resp)::rest =>
    let fences := if resp.Fenced then q.fences.call (.answer resp.fenceId) else q.fences
    some { q with
      fences := fences
      reclaimed := rest
      answered := q.answered ++ [entry]
      called := if entry.vbuf.respCb then q.called ++ [entry.vbuf] else q.called }

/-- One turn of the second loop, after all of the first: the objects are put and the buffer is freed. -/
def release (q : Ctrlq) : Option Ctrlq :=
  match q.reclaimed, q.answered with
  | [], entry::rest => some { q with answered := rest, released := q.released ++ [entry] }
  | _, _ => none

def step (q : Ctrlq) : CtrlqEvent → Option Ctrlq
  | .queue v fence tries => q.queue v fence tries
  | .use i resp => q.use i resp
  | .reclaim => q.reclaim
  | .respond => q.respond
  | .release => q.release

/-- The events, in order, are possible and lead from one state to the other. -/
abbrev Runs (q : Ctrlq) (es : List CtrlqEvent) (q' : Ctrlq) : Prop :=
  Transition.Run (fun q e q' => step q e = some q') q es q'

/-- The buffers whose answer is not processed, the oldest first where the host keeps the order. -/
def inFlight (q : Ctrlq) : List RingEntry :=
  q.reclaimed.map Prod.fst ++ (q.used.map Prod.fst ++ q.available)

end Ctrlq

/-- What queueing does. -/
inductive Queued (q : Ctrlq) (v : Vbuf) (fence : Option Fence) (tries : QueueTries) : Ctrlq → Prop
  | noTable : v.dataSize ≠ 0 ∧ v.isVmallocAddr = true ∧ tries.vmallocToSgt = false →
      Queued q v fence tries { q with submitted := v::q.submitted, lost := v::q.lost }
  | unplugged : tries.devEnter = false →
      Queued q v fence tries { q with submitted := v::q.submitted, refused := v::q.refused }
  | warned : q.need v ≤ q.numFree → q.addSgs v tries ≠ 0 →
      Queued q v fence tries
        { q with
          submitted := v::q.submitted
          fences := q.emit fence
          seqno := wrap32 (q.seqno+1)
          lost := v::q.lost }
  | added : q.addSgs v tries = 0 →
      Queued q v fence tries
        { q with
          submitted := v::q.submitted
          fences := q.emit fence
          seqno := wrap32 (q.seqno+1)
          available := q.available ++ [q.entry v fence tries]
          numFree := q.numFree-q.takes v tries }

section Step
variable {q q' : Ctrlq} {v : Vbuf} {fence : Option Fence} {tries : QueueTries} {i : ℕ} {resp : CtrlHdr}

lemma queue_cases (h : q.queue v fence tries = some q') : Queued q v fence tries q' := by
  unfold Ctrlq.queue at h
  simp only at h
  split at h
  · obtain rfl := Option.some.inj h
    exact .noTable ‹_›
  · split at h
    · obtain rfl := Option.some.inj h
      exact .unplugged ‹_›
    · split at h
      · cases h
      · rename_i hroom
        split at h
        · rename_i hret
          obtain rfl := Option.some.inj h
          cases fence with
          | none => exact .warned (not_lt.mp hroom) hret
          | some f => exact .warned (not_lt.mp hroom) hret
        · rename_i hret
          obtain rfl := Option.some.inj h
          cases fence with
          | none => exact .added (not_not.mp hret)
          | some f => exact .added (not_not.mp hret)

lemma use_cases (h : q.use i resp = some q') : ∃ e, q.available[i]? = some e ∧ q' =
    { q with
      available := q.available.eraseIdx i
      used := q.used ++ [(e,resp)]
      usedOrder := q.usedOrder ++ [e] } := by
  obtain ⟨e,he,rfl⟩ := Option.map_eq_some_iff.mp h
  exact ⟨e,he,rfl⟩

lemma reclaim_cases (h : q.reclaim = some q') : q.reclaimed = [] ∧ q.answered = [] ∧ q' =
    { q with
      numFree := q.numFree+(q.used.map fun u => u.1.descs).sum
      reclaimed := q.used
      used := [] } := by
  unfold Ctrlq.reclaim at h
  split at h
  · rename_i hidle
    exact ⟨hidle.1,hidle.2,(Option.some.inj h).symm⟩
  · cases h

lemma respond_cases (h : q.respond = some q') : ∃ e resp rest, q.reclaimed = (e,resp)::rest ∧ q' =
    { q with
      fences := if resp.Fenced then q.fences.call (.answer resp.fenceId) else q.fences
      reclaimed := rest
      answered := q.answered ++ [e]
      called := if e.vbuf.respCb then q.called ++ [e.vbuf] else q.called } := by
  unfold Ctrlq.respond at h
  split at h
  · cases h
  · rename_i e resp rest hrec
    exact ⟨e,resp,rest,hrec,(Option.some.inj h).symm⟩

lemma release_cases (h : q.release = some q') : ∃ e rest, q.reclaimed = [] ∧ q.answered = e::rest ∧
    q' = { q with answered := rest, released := q.released ++ [e] } := by
  unfold Ctrlq.release at h
  split at h
  · rename_i e rest hrec hans
    exact ⟨e,rest,hrec,hans,(Option.some.inj h).symm⟩
  · cases h

/-- The buffer that the host picks leaves the others. -/
theorem perm_eraseIdx {α : Type*} {l : List α} {i : ℕ} {a : α} (h : l[i]? = some a) :
    l.Perm (a::l.eraseIdx i) := by
  obtain ⟨hi,rfl⟩ := List.getElem?_eq_some_iff.mp h
  exact (List.getElem_cons_eraseIdx_perm hi).symm

lemma elemcnt_pos (v : Vbuf) : 0 < v.elemcnt := by
  unfold Vbuf.elemcnt
  omega

/-- With its table allocated, a buffer that has waited for room finds it. -/
theorem takes_le_need (ht : tries.indirectTable = true) : q.takes v tries ≤ q.need v := by
  have hpos := elemcnt_pos v
  unfold Ctrlq.takes Ctrlq.need
  cases q.hasIndirect with
  | false => simp
  | true =>
    by_cases h1 : 1 < v.elemcnt
    · simp [h1,ht]
    · simp only [h1,decide_false,Bool.and_false,Bool.false_and,Bool.false_eq_true,if_false,if_true]
      omega

/-- A buffer is put on the ring only where it has room. -/
theorem takes_le_of_addSgs (h : q.addSgs v tries = 0) : q.takes v tries ≤ q.numFree := by
  unfold Ctrlq.addSgs at h
  by_contra hroom
  rw [if_pos (not_le.mp hroom)] at h
  split_ifs at h <;> cases h

lemma takes_pos : 0 < q.takes v tries := by
  unfold Ctrlq.takes
  split
  · exact Nat.one_pos
  · exact elemcnt_pos v

end Step

/-- Where the buffers are: the descriptors of the ring are free or held, each buffer handed in is in one
place, the work item takes the answers in the order in which the host gave them, and it frees the buffers
in that order, the callback of each before it. -/
structure Ctrlq.Ledger (q : Ctrlq) : Prop where
  room : q.numFree+((q.used.map Prod.fst ++ q.available).map RingEntry.descs).sum = q.size
  places : (q.lost ++ (q.refused ++ (q.released ++ q.answered ++ q.inFlight).map RingEntry.vbuf)).Perm
    q.submitted
  order : q.usedOrder = q.released ++ q.answered ++ (q.reclaimed.map Prod.fst ++ q.used.map Prod.fst)
  called : q.called = ((q.released ++ q.answered).map RingEntry.vbuf).filter Vbuf.respCb

section Ledger
variable {q q' : Ctrlq} {v : Vbuf} {fence : Option Fence} {tries : QueueTries}

lemma Ctrlq.Ledger.queue (h : q.Ledger) (hq : Queued q v fence tries q') : q'.Ledger := by
  cases hq with
  | noTable => exact ⟨h.room,h.places.cons v,h.order,h.called⟩
  | unplugged =>
    exact ⟨h.room,List.perm_middle.trans (h.places.cons v),h.order,h.called⟩
  | warned => exact ⟨h.room,h.places.cons v,h.order,h.called⟩
  | added hadd =>
    have hroom := takes_le_of_addSgs hadd
    refine ⟨?_,?_,h.order,h.called⟩
    · have hsum := h.room
      rw [List.map_append,List.sum_append] at hsum
      simp only [List.map_append,List.sum_append,List.map_cons,List.map_nil,List.sum_cons,List.sum_nil]
      simp only [Ctrlq.entry]
      omega
    · have hperm := h.places
      simp only [Ctrlq.inFlight,← List.append_assoc,List.map_append] at hperm ⊢
      exact List.perm_append_comm.trans (hperm.cons v)

lemma Ctrlq.Ledger.use {i : ℕ} {resp : CtrlHdr} (h : q.Ledger) (hq : q.use i resp = some q') :
    q'.Ledger := by
  obtain ⟨e,he,rfl⟩ := use_cases hq
  have hpick := perm_eraseIdx he
  refine ⟨?_,?_,?_,h.called⟩
  · have hsum := h.room
    rw [List.map_append,List.sum_append,(hpick.map RingEntry.descs).sum_nat] at hsum
    simp only [List.map_append,List.sum_append,List.map_cons,List.map_nil,List.sum_cons,
      List.sum_nil] at hsum ⊢
    omega
  · refine List.Perm.trans ?_ h.places
    refine (List.Perm.append_left _ (List.Perm.append_left _ (List.Perm.map _ ?_)))
    refine List.Perm.append_left _ (List.Perm.append_left _ ?_)
    rw [List.map_append,List.append_assoc]
    exact hpick.symm.append_left _
  · rw [h.order,List.map_append]
    simp only [List.append_assoc,List.map_cons,List.map_nil]

lemma Ctrlq.Ledger.reclaim (h : q.Ledger) (hq : q.reclaim = some q') : q'.Ledger := by
  obtain ⟨hrec,hans,rfl⟩ := reclaim_cases hq
  refine ⟨?_,?_,?_,h.called⟩
  · have hsum := h.room
    rw [List.map_append,List.sum_append,List.map_map] at hsum
    have hfst : (q.used.map fun u => u.1.descs) = q.used.map (RingEntry.descs ∘ Prod.fst) := rfl
    simp only [List.map_nil,List.nil_append,hfst]
    omega
  · have hplaces := h.places
    simp only [Ctrlq.inFlight,hrec,List.map_nil,List.nil_append] at hplaces ⊢
    exact hplaces
  · rw [h.order,hrec]
    simp

lemma Ctrlq.Ledger.respond (h : q.Ledger) (hq : q.respond = some q') : q'.Ledger := by
  obtain ⟨e,resp,rest,hrec,rfl⟩ := respond_cases hq
  refine ⟨h.room,?_,?_,?_⟩
  · have hplaces := h.places
    simp only [Ctrlq.inFlight,hrec,List.map_cons,List.append_assoc,List.cons_append,
      List.nil_append] at hplaces ⊢
    exact hplaces
  · rw [h.order,hrec]
    simp only [List.map_cons,List.append_assoc,List.cons_append,List.nil_append]
  · have hsnoc : (q.released ++ (q.answered ++ [e])).map RingEntry.vbuf =
        (q.released ++ q.answered).map RingEntry.vbuf ++ [e.vbuf] := by
      simp
    rw [h.called,hsnoc,List.filter_append]
    cases hcb : e.vbuf.respCb <;> simp [hcb]

lemma Ctrlq.Ledger.release (h : q.Ledger) (hq : q.release = some q') : q'.Ledger := by
  obtain ⟨e,rest,hrec,hans,rfl⟩ := release_cases hq
  refine ⟨h.room,?_,?_,?_⟩
  · have hplaces := h.places
    simp only [hans,List.append_assoc,List.cons_append,List.nil_append] at hplaces ⊢
    exact hplaces
  · rw [h.order,hans]
    simp only [List.append_assoc,List.cons_append,List.nil_append]
  · rw [h.called,hans]
    simp only [List.append_assoc,List.cons_append,List.nil_append]

lemma Ctrlq.Ledger.step {e : CtrlqEvent} (h : q.Ledger) (hq : q.step e = some q') : q'.Ledger := by
  cases e with
  | queue v fence tries => exact h.queue (queue_cases hq)
  | use i resp => exact h.use hq
  | reclaim => exact h.reclaim hq
  | respond => exact h.respond hq
  | release => exact h.release hq

end Ledger

/-- The tables for a vmalloc'd buffer and for the ring are allocated, the queue is not broken and its DMA
mapping succeeds. -/
def CtrlqEvent.NoFault : CtrlqEvent → Prop
  | .queue _ _ tries => tries.vmallocToSgt = true ∧ tries.indirectTable = true ∧
      tries.broken = false ∧ tries.dmaMap = true
  | _ => True

instance (e : CtrlqEvent) : Decidable e.NoFault :=
  match e with
  | .queue _ _ _ => inferInstanceAs (Decidable (_ ∧ _))
  | .use _ _ | .reclaim | .respond | .release => inferInstanceAs (Decidable True)

lemma step_lost {q q' : Ctrlq} {e : CtrlqEvent} (ha : e.NoFault) (hq : q.step e = some q') :
    q'.lost = q.lost := by
  cases e with
  | queue v fence tries =>
    obtain ⟨htable,hindirect,hbroken,hmap⟩ := ha
    cases queue_cases hq with
    | noTable h =>
      rw [htable] at h
      exact absurd h.2.2 (by simp)
    | unplugged | added => rfl
    | warned hneed hret =>
      have hroom := (takes_le_need (q := q) (v := v) hindirect).trans hneed
      exact absurd (by simp [Ctrlq.addSgs,hbroken,hmap,hroom]) hret
  | use i resp =>
    obtain ⟨_,_,rfl⟩ := use_cases hq
    rfl
  | reclaim =>
    obtain ⟨_,_,rfl⟩ := reclaim_cases hq
    rfl
  | respond =>
    obtain ⟨_,_,_,_,rfl⟩ := respond_cases hq
    rfl
  | release =>
    obtain ⟨_,_,_,_,rfl⟩ := release_cases hq
    rfl

namespace Ctrlq

lemma ledger_start (hasIndirect : Bool) (size context : ℕ) : (start hasIndirect size context).Ledger :=
  ⟨rfl,.refl _,rfl,rfl⟩

lemma Runs.lost {q q' : Ctrlq} {es : List CtrlqEvent} (h : q.Runs es q')
    (ha : ∀ e ∈ es, e.NoFault) : q'.lost = q.lost := by
  induction h with
  | nil => rfl
  | cons head _ ih =>
    rw [ih fun e he => ha e (.tail _ he)]
    exact step_lost (ha _ (.head _)) head

/-- In any order of the callers, the host and the work item: no descriptor is lost, each buffer is in one
place, the callbacks run and the buffers are freed in the order in which the host used them, and a buffer
is lost only behind a fault of the queueing. -/
theorem buffers_conserved {hasIndirect : Bool} {size context : ℕ} {es : List CtrlqEvent} {q : Ctrlq}
    (h : (start hasIndirect size context).Runs es q) :
    q.Ledger ∧ ((∀ e ∈ es, e.NoFault) → q.lost = []) :=
  ⟨h.invariant (fun _ _ _ hl hs => hl.step hs) (ledger_start _ _ _),fun ha => h.lost ha⟩

/-- Two buffers, the first of them vmalloc'd, which the host uses in the other order. -/
theorem two_buffers_conserved : ∃ q, (start true 64 1).Runs
    [.queue ⟨1,8192,true,24,true,none⟩ none .willing,.queue ⟨2,0,false,24,true,none⟩ none .willing,
      .use 1 ⟨0,0,0⟩,.use 0 ⟨0,0,0⟩,.reclaim,.respond,.respond,.release,.release] q ∧
    q.released.map (fun e => e.vbuf.id) = [2,1] ∧ q.Ledger ∧ q.lost = [] := by
  have h := Transition.Run.of_isSome (f := step) (s := start true 64 1)
    ([.queue ⟨1,8192,true,24,true,none⟩ none .willing,.queue ⟨2,0,false,24,true,none⟩ none .willing,
      .use 1 ⟨0,0,0⟩,.use 0 ⟨0,0,0⟩,.reclaim,.respond,.respond,.release,.release]) rfl
  have hinv := buffers_conserved h
  exact ⟨_,h,rfl,hinv.1,hinv.2 (by decide)⟩

end Ctrlq
end GuestAdditions

import GuestAdditions.GunyahGuest.PoolRequest
import GuestAdditions.Library.Transition
import Mathlib.Logic.Function.Basic

/-! Concurrent callers of `vga_pool_request`. A request context lives on the heap of the driver, where
a freed address may be handed out again, and the token of its buffers on the queue is its address. -/
namespace GuestAdditions

/-- The arguments of `vga_pool_request`. `extra` tells whether the pointer is given. -/
structure PoolCall where
  op : ℕ
  poolId : ℕ
  offset : ℕ
  len : ℕ
  extra : Bool

/-- `struct vga_pool_ctx`, with the number of the call that allocated it. -/
structure PoolCtx where
  req : PoolReq
  resp : PoolResp
  done : Bool
  call : ℕ

/-- The two buffers of a request: the token that they were queued with, and the call. -/
structure PoolBuf where
  addr : ℕ
  call : ℕ
  deriving DecidableEq

/-- How far a call has come. -/
inductive CallerState
  | idle
  | refused (ret : ℤ)
  | allocated (addr : ℕ)
  | notQueued (ret : ℤ)
  | waiting (addr : ℕ)
  | timedOut
  | answered (ret : ℤ) (extra : Option ℕ)

/-- What a call has returned. -/
def CallerState.result : CallerState → Option ℤ
  | idle | allocated _ | waiting _ => none
  | refused ret | notQueued ret | answered ret _ => some ret
  | timedOut => some (-ETIMEDOUT)

/-- The pool queue: the buffers that the device has, in any order, and those that it returned and the
callback has not seen, the oldest first. `stored` is what the device wrote into the response of a
call, `signalled` and `freed` list the calls whose context was completed and freed. -/
structure PoolQueueState where
  heap : ℕ → Option PoolCtx
  caller : ℕ → CallerState
  nextId : ℕ
  device : List PoolBuf
  used : List PoolBuf
  stored : ℕ → PoolResp
  signalled : List ℕ
  freed : List ℕ

/-- A response of which nothing is written. -/
def PoolResp.zero : PoolResp := ⟨[],Nat.zero_le _⟩

namespace PoolQueueState

def start (nextId : ℕ) : PoolQueueState :=
  ⟨fun _ => none,fun _ => .idle,nextId,[],[],fun _ => .zero,[],[]⟩

def setCaller (s : PoolQueueState) (i : ℕ) (c : CallerState) : PoolQueueState :=
  { s with caller := Function.update s.caller i c }

/-- `kzalloc` for the call `i`, with the completion initialised. -/
def kzalloc (s : PoolQueueState) (i addr : ℕ) : PoolQueueState :=
  { s with heap := Function.update s.heap addr (some ⟨⟨0,0,0,0,0,0⟩,.zero,false,i⟩) }

/-- `kfree` by the call `i`. -/
def kfree (s : PoolQueueState) (i addr : ℕ) : PoolQueueState :=
  { s with heap := Function.update s.heap addr none, freed := i::s.freed }

/-- A write to a context; there is nothing to write to at an address that is free. -/
def modify (s : PoolQueueState) (addr : ℕ) (f : PoolCtx → PoolCtx) : PoolQueueState :=
  { s with heap := Function.update s.heap addr ((s.heap addr).map f) }

section Model
variable (calls : ℕ → PoolCall)

/-- The critical section of `pool_lock`: the request is filled in and `virtqueue_add_sgs` returns
`err`. -/
def submit (s : PoolQueueState) (i addr : ℕ) (err : ℤ) : PoolQueueState :=
  let c := calls i
  let req : PoolReq := ⟨s.nextId,wrap32 c.op,wrap32 c.poolId,0,wrap64 c.offset,wrap64 c.len⟩
  let s := { s.modify addr fun ctx => { ctx with req := req } with nextId := wrap32 (s.nextId+1) }
  if err ≠ 0 then (s.kfree i addr).setCaller i (.notQueued err)
  else { s.setCaller i (.waiting addr) with device := s.device ++ [⟨addr,i⟩] }

/-- The device writes into a response that it owns. -/
def deviceWrite (s : PoolQueueState) (b : PoolBuf) (resp : PoolResp) : PoolQueueState :=
  { s.modify b.addr fun ctx => { ctx with resp := resp } with
    stored := Function.update s.stored b.call resp }

def deviceReturn (s : PoolQueueState) (b : PoolBuf) : PoolQueueState :=
  { s with device := s.device.erase b, used := s.used ++ [b] }

/-- One turn of the loop of `vga_pool_cb`. -/
def vgaPoolCb (s : PoolQueueState) (b : PoolBuf) (rest : List PoolBuf) : PoolQueueState :=
  { s.modify b.addr fun ctx => { ctx with done := true } with
    used := rest, signalled := b.call::s.signalled }

/-- The end of `vga_pool_request` after a wait that did not time out. -/
def wake (s : PoolQueueState) (i addr : ℕ) (ctx : PoolCtx) : PoolQueueState :=
  (s.kfree i addr).setCaller i
    (.answered ctx.resp.ret (if (calls i).extra then some ctx.resp.extra else none))

end Model
end PoolQueueState

inductive PoolQueueEvent
  | refuse (i : ℕ) (ret : ℤ)
  | alloc (i addr : ℕ)
  | submit (i : ℕ) (err : ℤ)
  | deviceWrite (b : PoolBuf) (resp : PoolResp)
  | deviceReturn (b : PoolBuf)
  | poolCb
  | wake (i : ℕ)
  | timeout (i : ℕ)

/-- The transitions. A wait times out only while its completion is not done, for the two are decided
under the lock of the completion. -/
inductive PoolQueueStep (calls : ℕ → PoolCall) :
    PoolQueueState → PoolQueueEvent → PoolQueueState → Prop
  | refuse {s i ret} (idle : s.caller i = .idle) (cause : ret = -ENODEV ∨ ret = -ENOMEM) :
      PoolQueueStep calls s (.refuse i ret) (s.setCaller i (.refused ret))
  | alloc {s i addr} (idle : s.caller i = .idle) (fresh : s.heap addr = none) :
      PoolQueueStep calls s (.alloc i addr) ((s.kzalloc i addr).setCaller i (.allocated addr))
  | submit {s i addr err} (allocated : s.caller i = .allocated addr) :
      PoolQueueStep calls s (.submit i err) (s.submit calls i addr err)
  | deviceWrite {s b resp} (owned : b ∈ s.device) :
      PoolQueueStep calls s (.deviceWrite b resp) (s.deviceWrite b resp)
  | deviceReturn {s b} (owned : b ∈ s.device) :
      PoolQueueStep calls s (.deviceReturn b) (s.deviceReturn b)
  | poolCb {s b rest} (head : s.used = b::rest) :
      PoolQueueStep calls s .poolCb (s.vgaPoolCb b rest)
  | wake {s i addr ctx} (waiting : s.caller i = .waiting addr) (there : s.heap addr = some ctx)
      (done : ctx.done = true) :
      PoolQueueStep calls s (.wake i) (s.wake calls i addr ctx)
  | timeout {s i addr ctx} (waiting : s.caller i = .waiting addr) (there : s.heap addr = some ctx)
      (pending : ctx.done = false) :
      PoolQueueStep calls s (.timeout i) (s.setCaller i .timedOut)

namespace PoolQueueState

/-- The buffers that the callback has not seen. -/
def queue (s : PoolQueueState) : List PoolBuf := s.device ++ s.used

/-- The context of the call `i` is at the address `addr`. -/
def Holds (s : PoolQueueState) (i addr : ℕ) (done : Bool) : Prop :=
  ∃ ctx, s.heap addr = some ctx ∧ ctx.call = i ∧ ctx.done = done ∧ ctx.resp = s.stored i

/-- No buffer of the call `i` is on the queue. -/
def Unqueued (s : PoolQueueState) (i : ℕ) : Prop := ∀ b ∈ s.queue, b.call ≠ i

/-- The response of the call `i` came back and was signalled. -/
def Completed (s : PoolQueueState) (i : ℕ) : Prop := i ∈ s.signalled ∧ s.Unqueued i

/-- What the progress of the call `i` says about its context. -/
def CallerOk (calls : ℕ → PoolCall) (s : PoolQueueState) (i : ℕ) : Prop :=
  match s.caller i with
  | .idle => i ∉ s.freed ∧ s.Unqueued i ∧ s.stored i = .zero
  | .refused _ => i ∉ s.freed ∧ s.Unqueued i
  | .allocated addr => i ∉ s.freed ∧ s.Unqueued i ∧ s.Holds i addr false
  | .notQueued _ => i ∈ s.freed ∧ s.Unqueued i
  | .waiting addr => i ∉ s.freed ∧ (s.Holds i addr false ∨ s.Holds i addr true ∧ s.Completed i)
  | .timedOut => i ∉ s.freed
  | .answered ret extra => i ∈ s.freed ∧ s.Completed i ∧ ret = (s.stored i).ret ∧
      extra = if (calls i).extra then some (s.stored i).extra else none

/-- A buffer on the queue belongs to a context that is allocated and not completed, and its caller
waits there or has given up. -/
def BufferOk (s : PoolQueueState) (b : PoolBuf) : Prop :=
  s.Holds b.call b.addr false ∧ (s.caller b.call = .waiting b.addr ∨ s.caller b.call = .timedOut)

/-- The invariant of the queue. -/
structure Owned (calls : ℕ → PoolCall) (s : PoolQueueState) : Prop where
  caller : ∀ i, s.CallerOk calls i
  buffer : ∀ b ∈ s.queue, s.BufferOk b
  once : (s.queue.map PoolBuf.call).Nodup
  freed : s.freed.Nodup

/-- From `s` to `t` nothing changed but what belongs to the call `i`. -/
structure Touches (i : ℕ) (s t : PoolQueueState) : Prop where
  caller : ∀ j ≠ i, t.caller j = s.caller j
  heap : ∀ addr ctx, s.heap addr = some ctx → ctx.call ≠ i → t.heap addr = some ctx
  stored : ∀ j ≠ i, t.stored j = s.stored j
  signalled : ∀ j ≠ i, j ∈ t.signalled ↔ j ∈ s.signalled
  freed : ∀ j ≠ i, j ∈ t.freed ↔ j ∈ s.freed
  queue : ∀ b, b.call ≠ i → (b ∈ t.queue ↔ b ∈ s.queue)

namespace Touches
variable {calls : ℕ → PoolCall} {i j : ℕ} {s t : PoolQueueState}

lemma holds (h : Touches i s t) (ne : j ≠ i) {addr : ℕ} {done : Bool} :
    s.Holds j addr done → t.Holds j addr done := by
  intro ⟨ctx,hctx,hcall,hdone,hresp⟩
  exact ⟨ctx,h.heap _ _ hctx (hcall ▸ ne),hcall,hdone,hresp.trans (h.stored j ne).symm⟩

lemma unqueued (h : Touches i s t) (ne : j ≠ i) (hj : s.Unqueued j) : t.Unqueued j := by
  intro b hb hcall
  exact hj b ((h.queue b (hcall ▸ ne)).mp hb) hcall

lemma completed (h : Touches i s t) (ne : j ≠ i) (hj : s.Completed j) : t.Completed j :=
  ⟨(h.signalled j ne).mpr hj.1,h.unqueued ne hj.2⟩

lemma callerOk (h : Touches i s t) (ne : j ≠ i) (hj : s.CallerOk calls j) :
    t.CallerOk calls j := by
  have hf := h.freed j ne
  unfold CallerOk at hj ⊢
  rw [h.caller j ne]
  cases hc : s.caller j with
  | idle =>
    simp only [hc] at hj
    exact ⟨mt hf.mp hj.1,h.unqueued ne hj.2.1,(h.stored j ne).trans hj.2.2⟩
  | refused ret =>
    simp only [hc] at hj
    exact ⟨mt hf.mp hj.1,h.unqueued ne hj.2⟩
  | allocated addr =>
    simp only [hc] at hj
    exact ⟨mt hf.mp hj.1,h.unqueued ne hj.2.1,h.holds ne hj.2.2⟩
  | notQueued ret =>
    simp only [hc] at hj
    exact ⟨hf.mpr hj.1,h.unqueued ne hj.2⟩
  | waiting addr =>
    simp only [hc] at hj
    exact ⟨mt hf.mp hj.1,hj.2.imp (h.holds ne) fun hd => ⟨h.holds ne hd.1,h.completed ne hd.2⟩⟩
  | timedOut =>
    simp only [hc] at hj
    exact mt hf.mp hj
  | answered ret extra =>
    simp only [hc] at hj
    dsimp only
    rw [h.stored j ne]
    exact ⟨hf.mpr hj.1,h.completed ne hj.2.1,hj.2.2⟩

lemma bufferOk (h : Touches i s t) {b : PoolBuf} (ne : b.call ≠ i) (hb : s.BufferOk b) :
    t.BufferOk b := by
  unfold BufferOk
  rw [h.caller _ ne]
  exact ⟨h.holds ne hb.1,hb.2⟩

/-- A step that touches one call has to be checked at that call only. -/
theorem owned (h : Touches i s t) (hs : s.Owned calls) (hi : t.CallerOk calls i)
    (hb : ∀ b ∈ t.queue, b.call = i → t.BufferOk b)
    (once : (t.queue.map PoolBuf.call).Nodup) (freed : t.freed.Nodup) : t.Owned calls where
  caller j := by
    by_cases hj : j = i
    · exact hj ▸ hi
    · exact h.callerOk hj (hs.caller j)
  buffer b hmem := by
    by_cases hc : b.call = i
    · exact hb b hmem hc
    · exact h.bufferOk hc (hs.buffer b ((h.queue b hc).mp hmem))
  once := once
  freed := freed

end Touches

section Steps
variable {calls : ℕ → PoolCall} {s : PoolQueueState} {i addr : ℕ} {b : PoolBuf}

/-- A change at the address of a context of the call `i` keeps the other contexts. -/
theorem update_keeps (own : ∀ ctx, s.heap addr = some ctx → ctx.call = i) (v : Option PoolCtx)
    {a : ℕ} {ctx : PoolCtx} (hctx : s.heap a = some ctx) (ne : ctx.call ≠ i) :
    Function.update s.heap addr v a = some ctx := by
  have ha : a ≠ addr := by
    intro heq
    exact ne (own ctx (heq ▸ hctx))
  rw [Function.update_of_ne ha]
  exact hctx

lemma Holds.own {done : Bool} (h : s.Holds i addr done) :
    ∀ ctx, s.heap addr = some ctx → ctx.call = i := by
  intro ctx hctx
  obtain ⟨c,hc,hcall,-⟩ := h
  cases hc.symm.trans hctx
  exact hcall

lemma setCaller_touches (c : CallerState) : Touches i s (s.setCaller i c) where
  caller _ ne := Function.update_of_ne ne ..
  heap _ _ h _ := h
  stored _ _ := rfl
  signalled _ _ := Iff.rfl
  freed _ _ := Iff.rfl
  queue _ _ := Iff.rfl

lemma Touches.trans {t u : PoolQueueState} (h : Touches i s t) (k : Touches i t u) :
    Touches i s u where
  caller j ne := (k.caller j ne).trans (h.caller j ne)
  heap a ctx hctx ne := k.heap a ctx (h.heap a ctx hctx ne) ne
  stored j ne := (k.stored j ne).trans (h.stored j ne)
  signalled j ne := (k.signalled j ne).trans (h.signalled j ne)
  freed j ne := (k.freed j ne).trans (h.freed j ne)
  queue b ne := (k.queue b ne).trans (h.queue b ne)

lemma kzalloc_touches (fresh : s.heap addr = none) : Touches i s (s.kzalloc i addr) where
  caller _ _ := rfl
  heap _ _ h ne := update_keeps (fun _ hctx => nomatch fresh.symm.trans hctx) _ h ne
  stored _ _ := rfl
  signalled _ _ := Iff.rfl
  freed _ _ := Iff.rfl
  queue _ _ := Iff.rfl

lemma kfree_touches (own : ∀ ctx, s.heap addr = some ctx → ctx.call = i) :
    Touches i s (s.kfree i addr) where
  caller _ _ := rfl
  heap _ _ h ne := update_keeps own _ h ne
  stored _ _ := rfl
  signalled _ _ := Iff.rfl
  freed _ ne := by simp [kfree,ne]
  queue _ _ := Iff.rfl

lemma modify_touches (own : ∀ ctx, s.heap addr = some ctx → ctx.call = i)
    (f : PoolCtx → PoolCtx) : Touches i s (s.modify addr f) where
  caller _ _ := rfl
  heap _ _ h ne := update_keeps own _ h ne
  stored _ _ := rfl
  signalled _ _ := Iff.rfl
  freed _ _ := Iff.rfl
  queue _ _ := Iff.rfl

lemma deviceWrite_touches (own : ∀ ctx, s.heap b.addr = some ctx → ctx.call = b.call)
    (resp : PoolResp) : Touches b.call s (s.deviceWrite b resp) where
  caller _ _ := rfl
  heap _ _ h ne := update_keeps own _ h ne
  stored _ ne := Function.update_of_ne ne ..
  signalled _ _ := Iff.rfl
  freed _ _ := Iff.rfl
  queue _ _ := Iff.rfl

lemma deviceReturn_perm (owned : b ∈ s.device) : (s.deviceReturn b).queue.Perm s.queue := by
  change (s.device.erase b ++ (s.used ++ [b])).Perm (s.device ++ s.used)
  calc (s.device.erase b ++ (s.used ++ [b])).Perm (s.device.erase b ++ (b::s.used)) :=
        (List.perm_append_singleton b s.used).append_left _
    _ |>.Perm (b::(s.device.erase b ++ s.used)) := List.perm_middle
    _ |>.Perm (s.device ++ s.used) := (List.perm_cons_erase owned).symm.append_right s.used

lemma deviceReturn_touches (owned : b ∈ s.device) : Touches i s (s.deviceReturn b) where
  caller _ _ := rfl
  heap _ _ h _ := h
  stored _ _ := rfl
  signalled _ _ := Iff.rfl
  freed _ _ := Iff.rfl
  queue _ _ := (deviceReturn_perm owned).mem_iff

lemma vgaPoolCb_touches {rest : List PoolBuf} (head : s.used = b::rest)
    (own : ∀ ctx, s.heap b.addr = some ctx → ctx.call = b.call) :
    Touches b.call s (s.vgaPoolCb b rest) where
  caller _ _ := rfl
  heap _ _ h ne := update_keeps own _ h ne
  stored _ _ := rfl
  signalled _ ne := by simp [vgaPoolCb,ne]
  freed _ _ := Iff.rfl
  queue c ne := by
    have hne : c ≠ b := fun heq => ne (heq ▸ rfl)
    simp [queue,vgaPoolCb,modify,head,hne]

lemma Owned.refuse (h : s.Owned calls) (ret : ℤ) (idle : s.caller i = .idle) :
    (s.setCaller i (.refused ret)).Owned calls := by
  have hi := h.caller i
  simp only [CallerOk,idle] at hi
  refine (setCaller_touches _).owned h ?_ ?_ h.once h.freed
  · unfold CallerOk
    rw [show (s.setCaller i (.refused ret)).caller i = _ from Function.update_self ..]
    exact ⟨hi.1,hi.2.1⟩
  · intro b hb hcall
    exact absurd hcall (hi.2.1 b hb)

lemma Owned.alloc (h : s.Owned calls) (idle : s.caller i = .idle)
    (fresh : s.heap addr = none) :
    ((s.kzalloc i addr).setCaller i (.allocated addr)).Owned calls := by
  have hi := h.caller i
  simp only [CallerOk,idle] at hi
  refine ((kzalloc_touches fresh).trans (setCaller_touches _)).owned h ?_ ?_ h.once h.freed
  · unfold CallerOk
    rw [show ((s.kzalloc i addr).setCaller i (.allocated addr)).caller i = _ from
      Function.update_self ..]
    exact ⟨hi.1,hi.2.1,_,Function.update_self ..,rfl,rfl,hi.2.2.symm⟩
  · intro b hb hcall
    exact absurd hcall (hi.2.1 b hb)

/-- Taking the next request number touches nobody's context. -/
theorem nextId_touches (n : ℕ) : Touches i s { s with nextId := n } :=
  ⟨fun _ _ => rfl,fun _ _ h _ => h,fun _ _ => rfl,fun _ _ => Iff.rfl,fun _ _ => Iff.rfl,
    fun _ _ => Iff.rfl⟩

lemma queue_touches (a : ℕ) : Touches i s { s with device := s.device ++ [⟨a,i⟩] } where
  caller _ _ := rfl
  heap _ _ h _ := h
  stored _ _ := rfl
  signalled _ _ := Iff.rfl
  freed _ _ := Iff.rfl
  queue b ne := by
    have hne : b ≠ ⟨a,i⟩ := fun heq => ne (heq ▸ rfl)
    simp [queue,hne]

lemma modify_own (own : ∀ ctx, s.heap addr = some ctx → ctx.call = i) (f : PoolCtx → PoolCtx)
    (keeps : ∀ ctx, (f ctx).call = ctx.call) :
    ∀ ctx, (s.modify addr f).heap addr = some ctx → ctx.call = i := by
  intro ctx hctx
  rw [show (s.modify addr f).heap addr = (s.heap addr).map f from Function.update_self ..] at hctx
  obtain ⟨c,hc,rfl⟩ := Option.map_eq_some_iff.mp hctx
  exact (keeps c).trans (own c hc)

lemma submit_touches (calls : ℕ → PoolCall)
    (own : ∀ ctx, s.heap addr = some ctx → ctx.call = i) (err : ℤ) :
    Touches i s (s.submit calls i addr err) := by
  unfold submit
  dsimp only
  have hm := modify_touches own fun ctx => { ctx with req := (⟨s.nextId,wrap32 (calls i).op,
    wrap32 (calls i).poolId,0,wrap64 (calls i).offset,wrap64 (calls i).len⟩ : PoolReq) }
  have hn := hm.trans (nextId_touches (wrap32 (s.nextId+1)))
  split
  · apply (hn.trans (kfree_touches ?_)).trans (setCaller_touches _)
    exact modify_own own _ fun _ => rfl
  · exact (hn.trans (setCaller_touches _)).trans (queue_touches addr)

lemma Owned.notQueued (h : s.Owned calls) (allocated : s.caller i = .allocated addr) {err : ℤ}
    (ne : err ≠ 0) : (s.submit calls i addr err).Owned calls := by
  have hi := h.caller i
  simp only [CallerOk,allocated] at hi
  obtain ⟨hfreed,hqueue,hctx⟩ := hi
  have ht := submit_touches calls hctx.own err
  unfold submit at ht ⊢
  rw [if_pos ne] at ht ⊢
  refine ht.owned h ?_ ?_ h.once (List.nodup_cons.mpr ⟨hfreed,h.freed⟩)
  · unfold CallerOk
    dsimp only [setCaller]
    rw [Function.update_self]
    exact ⟨List.mem_cons_self ..,hqueue⟩
  · intro b hb hcall
    exact absurd hcall (hqueue b hb)

lemma Owned.queued (h : s.Owned calls) (allocated : s.caller i = .allocated addr) :
    (s.submit calls i addr 0).Owned calls := by
  have hi := h.caller i
  simp only [CallerOk,allocated] at hi
  obtain ⟨hfreed,hqueue,ctx,hctx,hcall,hdone,hresp⟩ := hi
  have ht := submit_touches calls (Holds.own ⟨ctx,hctx,hcall,hdone,hresp⟩) 0
  have hcaller : (s.submit calls i addr 0).caller i = .waiting addr := Function.update_self ..
  have hheap : (s.submit calls i addr 0).Holds i addr false := by
    refine ⟨{ ctx with req := ⟨s.nextId,wrap32 (calls i).op,wrap32 (calls i).poolId,0,
      wrap64 (calls i).offset,wrap64 (calls i).len⟩ },?_,hcall,hdone,hresp⟩
    exact (Function.update_self ..).trans (congrArg (Option.map _) hctx)
  have hperm : (s.submit calls i addr 0).queue.Perm (⟨addr,i⟩::s.queue) :=
    (List.perm_append_singleton _ s.device).append_right s.used
  refine ht.owned h ?_ ?_ ?_ h.freed
  · unfold CallerOk
    rw [hcaller]
    exact ⟨hfreed,.inl hheap⟩
  · intro b hb hbi
    cases List.mem_cons.mp (hperm.mem_iff.mp hb) with
    | inl heq => exact heq ▸ ⟨hheap,.inl hcaller⟩
    | inr hmem => exact absurd hbi (hqueue b hmem)
  · rw [(hperm.map _).nodup_iff,List.map_cons,List.nodup_cons]
    refine ⟨?_,h.once⟩
    intro hmem
    obtain ⟨b,hb,hbi⟩ := List.mem_map.mp hmem
    exact hqueue b hb hbi

/-- The device reaches the contexts of its buffers only. -/
theorem Owned.deviceWrite (h : s.Owned calls) (resp : PoolResp) (owned : b ∈ s.device) :
    (s.deviceWrite b resp).Owned calls := by
  have hmem : b ∈ s.queue := List.mem_append_left _ owned
  obtain ⟨⟨ctx,hctx,hcall,hdone,hresp⟩,hstate⟩ := h.buffer b hmem
  have hi := h.caller b.call
  have hheap : (s.deviceWrite b resp).Holds b.call b.addr false := by
    have hstored : (s.deviceWrite b resp).stored b.call = resp := Function.update_self ..
    refine ⟨{ ctx with resp := resp },?_,hcall,hdone,hstored.symm⟩
    exact (Function.update_self ..).trans (congrArg (Option.map _) hctx)
  refine (deviceWrite_touches (Holds.own ⟨ctx,hctx,hcall,hdone,hresp⟩) resp).owned h ?_ ?_ h.once
    h.freed
  · unfold CallerOk at hi ⊢
    cases hstate with
    | inl hw =>
      rw [hw] at hi
      rw [show (s.deviceWrite b resp).caller b.call = _ from hw]
      exact ⟨hi.1,.inl hheap⟩
    | inr ht =>
      rw [ht] at hi
      rw [show (s.deviceWrite b resp).caller b.call = _ from ht]
      exact hi
  · intro c hc hcb
    have heq : c = b := List.inj_on_of_nodup_map h.once hc hmem hcb
    rw [heq]
    exact ⟨hheap,hstate⟩

lemma Owned.deviceReturn (h : s.Owned calls) (owned : b ∈ s.device) :
    (s.deviceReturn b).Owned calls where
  caller j := (deviceReturn_touches owned).callerOk (Nat.lt_succ_self j).ne (h.caller j)
  buffer c hc := h.buffer c ((deviceReturn_perm owned).mem_iff.mp hc)
  once := ((deviceReturn_perm owned).map _).nodup_iff.mpr h.once
  freed := h.freed

lemma Owned.vgaPoolCb {rest : List PoolBuf} (h : s.Owned calls) (head : s.used = b::rest) :
    (s.vgaPoolCb b rest).Owned calls := by
  have hperm : s.queue.Perm (b::(s.vgaPoolCb b rest).queue) := by
    rw [queue,head]
    exact List.perm_middle
  have hmem : b ∈ s.queue := hperm.mem_iff.mpr (List.mem_cons_self ..)
  obtain ⟨⟨ctx,hctx,hcall,hdone,hresp⟩,hstate⟩ := h.buffer b hmem
  have honce := (hperm.map PoolBuf.call).nodup_iff.mp h.once
  rw [List.map_cons,List.nodup_cons] at honce
  have hgone : (s.vgaPoolCb b rest).Unqueued b.call := by
    intro c hc heq
    exact honce.1 (List.mem_map.mpr ⟨c,hc,heq⟩)
  have hi := h.caller b.call
  refine (vgaPoolCb_touches head (Holds.own ⟨ctx,hctx,hcall,hdone,hresp⟩)).owned h ?_ ?_ honce.2
    h.freed
  · unfold CallerOk at hi ⊢
    cases hstate with
    | inl hw =>
      rw [hw] at hi
      rw [show (s.vgaPoolCb b rest).caller b.call = _ from hw]
      refine ⟨hi.1,.inr ⟨⟨{ ctx with done := true },?_,hcall,rfl,hresp⟩,List.mem_cons_self ..,hgone⟩⟩
      exact (Function.update_self ..).trans (congrArg (Option.map _) hctx)
    | inr ht =>
      rw [ht] at hi
      rw [show (s.vgaPoolCb b rest).caller b.call = _ from ht]
      exact hi
  · intro c hc hcb
    exact absurd hcb (hgone c hc)

lemma Owned.wake {ctx : PoolCtx} (h : s.Owned calls) (waiting : s.caller i = .waiting addr)
    (there : s.heap addr = some ctx) (done : ctx.done = true) :
    (s.wake calls i addr ctx).Owned calls := by
  have hi := h.caller i
  simp only [CallerOk,waiting] at hi
  obtain ⟨hfreed,hctx⟩ := hi
  cases hctx with
  | inl hp =>
    obtain ⟨c,hc,-,hd,-⟩ := hp
    cases hc.symm.trans there
    exact absurd (hd.symm.trans done) Bool.false_ne_true
  | inr hd =>
    obtain ⟨⟨c,hc,hcall,hdone,hresp⟩,hcompl⟩ := hd
    cases hc.symm.trans there
    have ht := (kfree_touches (i := i) (Holds.own ⟨ctx,hc,hcall,hdone,hresp⟩)).trans
      (setCaller_touches (.answered ctx.resp.ret (if (calls i).extra then some ctx.resp.extra else none)))
    refine ht.owned h ?_ ?_ h.once (List.nodup_cons.mpr ⟨hfreed,h.freed⟩)
    · unfold CallerOk
      dsimp only [setCaller]
      rw [Function.update_self]
      refine ⟨List.mem_cons_self ..,hcompl,congrArg _ hresp,?_⟩
      exact congrArg (fun r : PoolResp => if (calls i).extra then some r.extra else none) hresp
    · intro b hb hcb
      exact absurd hcb (hcompl.2 b hb)

lemma Owned.timeout (h : s.Owned calls) (waiting : s.caller i = .waiting addr) :
    (s.setCaller i .timedOut).Owned calls := by
  have hi := h.caller i
  simp only [CallerOk,waiting] at hi
  have hcaller : (s.setCaller i .timedOut).caller i = .timedOut := Function.update_self ..
  refine (setCaller_touches _).owned h ?_ ?_ h.once h.freed
  · unfold CallerOk
    rw [hcaller]
    exact hi.1
  · intro b hb hcb
    exact ⟨(h.buffer b hb).1,.inr (hcb ▸ hcaller)⟩

lemma start_owned (nextId : ℕ) : (start nextId).Owned calls where
  caller _ := ⟨List.not_mem_nil,fun _ hb => absurd hb List.not_mem_nil,rfl⟩
  buffer _ hb := absurd hb List.not_mem_nil
  once := List.nodup_nil
  freed := List.nodup_nil

end Steps
end PoolQueueState

variable {calls : ℕ → PoolCall} {s t : PoolQueueState}

/-- Every transition keeps the invariant. -/
theorem PoolQueueStep.owned (e : PoolQueueEvent) (h : s.Owned calls)
    (step : PoolQueueStep calls s e t) : t.Owned calls := by
  cases step with
  | refuse idle _ => exact h.refuse _ idle
  | alloc idle fresh => exact h.alloc idle fresh
  | @submit i addr err allocated =>
    by_cases he : err = 0
    · rw [he]
      exact h.queued allocated
    · exact h.notQueued allocated he
  | deviceWrite owned => exact h.deviceWrite _ owned
  | deviceReturn owned => exact h.deviceReturn owned
  | poolCb head => exact h.vgaPoolCb head
  | wake waiting there done => exact h.wake waiting there done
  | timeout waiting _ _ => exact h.timeout waiting

/-- What a caller and the device may rely on. -/
structure PoolQueueState.ContextsSafe (calls : ℕ → PoolCall) (s : PoolQueueState) : Prop where
  /-- No context is freed twice. -/
  freedOnce : s.freed.Nodup
  /-- A context that was freed is not on the queue; it was never queued or it was signalled. -/
  freedLate : ∀ i ∈ s.freed, (∀ b ∈ s.device ++ s.used, b.call ≠ i) ∧
    ((∃ ret, s.caller i = .notQueued ret) ∨ i ∈ s.signalled)
  /-- What the device writes to and the callback signals is the allocated context of the call. -/
  live : ∀ b ∈ s.device ++ s.used, ∃ ctx, s.heap b.addr = some ctx ∧ ctx.call = b.call
  /-- A caller that waits has its own context, and finds it done after its own response only. -/
  ownSignal : ∀ i addr, s.caller i = .waiting addr → ∃ ctx, s.heap addr = some ctx ∧
    ctx.call = i ∧ (ctx.done = true → i ∈ s.signalled)
  /-- A caller that did not time out returns what the device stored for it. -/
  ownAnswer : ∀ i ret extra, s.caller i = .answered ret extra → i ∈ s.signalled ∧
    ret = (s.stored i).ret ∧ extra = if (calls i).extra then some (s.stored i).extra else none
  /-- The next response to be signalled wakes its own caller or, if that has timed out, nobody. -/
  ownWake : ∀ b ∈ s.device ++ s.used, ∀ i, s.caller i = .waiting b.addr → i = b.call

namespace PoolQueueState.Owned
variable {i : ℕ}

lemma freedLate (h : s.Owned calls) (hi : i ∈ s.freed) :
    s.Unqueued i ∧ ((∃ ret, s.caller i = .notQueued ret) ∨ i ∈ s.signalled) := by
  have hc := h.caller i
  unfold CallerOk at hc
  cases hs : s.caller i with
  | idle => exact absurd hi (by simp only [hs] at hc; exact hc.1)
  | refused ret => exact absurd hi (by simp only [hs] at hc; exact hc.1)
  | allocated addr => exact absurd hi (by simp only [hs] at hc; exact hc.1)
  | waiting addr => exact absurd hi (by simp only [hs] at hc; exact hc.1)
  | timedOut => exact absurd hi (by simp only [hs] at hc; exact hc)
  | notQueued ret =>
    simp only [hs] at hc
    exact ⟨hc.2,.inl ⟨ret,rfl⟩⟩
  | answered ret extra =>
    simp only [hs] at hc
    exact ⟨hc.2.1.2,.inr hc.2.1.1⟩

lemma ownSignal (h : s.Owned calls) {addr : ℕ} (hi : s.caller i = .waiting addr) :
    ∃ ctx, s.heap addr = some ctx ∧ ctx.call = i ∧ (ctx.done = true → i ∈ s.signalled) := by
  have hc := h.caller i
  simp only [CallerOk,hi] at hc
  cases hc.2 with
  | inl hp =>
    obtain ⟨ctx,hctx,hcall,hdone,-⟩ := hp
    exact ⟨ctx,hctx,hcall,fun hd => absurd (hdone.symm.trans hd) Bool.false_ne_true⟩
  | inr hd =>
    obtain ⟨⟨ctx,hctx,hcall,-,-⟩,hcompl⟩ := hd
    exact ⟨ctx,hctx,hcall,fun _ => hcompl.1⟩

lemma contextsSafe (h : s.Owned calls) : s.ContextsSafe calls where
  freedOnce := h.freed
  freedLate i hi := h.freedLate hi
  live b hb := by
    obtain ⟨⟨ctx,hctx,hcall,-,-⟩,-⟩ := h.buffer b hb
    exact ⟨ctx,hctx,hcall⟩
  ownSignal i addr hi := h.ownSignal hi
  ownAnswer i ret extra hi := by
    have hc := h.caller i
    simp only [CallerOk,hi] at hc
    exact ⟨hc.2.1.1,hc.2.2⟩
  ownWake b hb i hi := by
    obtain ⟨ctx,hctx,hcall,-⟩ := h.ownSignal hi
    exact hcall.symm.trans ((h.buffer b hb).1.own ctx hctx)

end PoolQueueState.Owned

/-- In every run of concurrent requests, whatever times out and however late a response comes, the
contexts are safe. -/
theorem vgaPoolRequest_contextsSafe {nextId : ℕ} {es : List PoolQueueEvent}
    (run : Transition.Run (PoolQueueStep calls) (.start nextId) es s) : s.ContextsSafe calls :=
  (run.invariant (fun _ e _ h step => step.owned e h) (PoolQueueState.start_owned nextId)).contextsSafe

/-- Three requests for one page each. -/
def lateCalls : ℕ → PoolCall := fun i => ⟨1,0,i*PAGE_SIZE,PAGE_SIZE,true⟩

/-- The first call times out, the second one is answered and frees its context, a third one gets that
address, and then the late response comes. -/
def lateEvents : List PoolQueueEvent :=
  [.alloc 0 0,.submit 0 0,.alloc 1 1,.submit 1 0,.timeout 0,.deviceWrite ⟨1,1⟩ .zero,
    .deviceReturn ⟨1,1⟩,.poolCb,.wake 1,.alloc 2 1,.submit 2 0,.deviceReturn ⟨0,0⟩,.poolCb]

theorem vgaPoolRequest_contextsSafe_late :
    ∃ s, Transition.Run (PoolQueueStep lateCalls) (.start 7) lateEvents s ∧
      s.caller 0 = .timedOut ∧ s.caller 2 = .waiting 1 ∧ s.signalled = [0,1] ∧ s.freed = [1] ∧
      s.ContextsSafe lateCalls := by
  have hrun : ∃ s, Transition.Run (PoolQueueStep lateCalls) (.start 7) lateEvents s ∧
      s.caller 0 = .timedOut ∧ s.caller 2 = .waiting 1 ∧ s.signalled = [0,1] ∧ s.freed = [1] :=
    ⟨_,.cons (.alloc rfl rfl) <| .cons (.submit rfl) <| .cons (.alloc rfl rfl) <|
      .cons (.submit rfl) <| .cons (.timeout rfl rfl rfl) <|
      .cons (.deviceWrite (List.mem_cons_of_mem _ (List.mem_cons_self ..))) <|
      .cons (.deviceReturn (List.mem_cons_of_mem _ (List.mem_cons_self ..))) <|
      .cons (.poolCb rfl) <| .cons (.wake rfl rfl rfl) <| .cons (.alloc rfl rfl) <|
      .cons (.submit rfl) <| .cons (.deviceReturn (List.mem_cons_self ..)) <|
      .cons (.poolCb rfl) (.nil _),rfl,rfl,rfl,rfl⟩
  obtain ⟨s,run,hfirst,hthird,hsignalled,hfreed⟩ := hrun
  exact ⟨s,run,hfirst,hthird,hsignalled,hfreed,vgaPoolRequest_contextsSafe run⟩

end GuestAdditions

import GuestAdditions.GunyahGuest.Rpc
import GuestAdditions.Library.Transition
import Mathlib.Data.List.Find

/-! Which replies the resource manager's client takes. A run is any sequence of calls; the resource
manager answers a request at most once, during its own call or a later one, and the receive attempts
of a call get these replies in any order, mixed with other messages and with nothing. -/
namespace GuestAdditions

/-- What a receive attempt gets. A reply names the call that sent its request. -/
inductive Delivery
  | nothing (err : ℤ) (ne : err ≠ 0)
  | other (bytes : List UInt8) (other : ¬ IsReply bytes)
  | reply (call : ℕ) (bytes : List UInt8) (isReply : IsReply bytes)

namespace Delivery

def recv : Delivery → Recv
  | nothing err ne => .error err ne
  | other bytes _ => .message bytes
  | reply _ bytes _ => .message bytes

def origin : Delivery → Option ℕ
  | reply call _ _ => some call
  | _ => none

/-- The attempt gets nothing instead, unless this is the reply to the call `n`. -/
def silence (n : ℕ) (d : Delivery) : Delivery :=
  if d.origin = some n then d else nothing 1 Int.one_ne_zero

end Delivery

/-- A call, with the result of `gg_msgq_send` and what its receive attempts get. Attempts beyond the
list get nothing. -/
structure RpcCall where
  request : RmRequest
  sendErr : ℤ
  rx : List Delivery

/-- The queues during one call. -/
structure RmScript where
  sendErr : ℤ
  rx : List Recv
  sent : List (List UInt8)

def RmScript.port : RmPort RmScript where
  send s tx := (s.sendErr,if s.sendErr = 0 then { s with sent := s.sent ++ [tx] } else s)
  recv s :=
    match s.rx with
    | [] => (.empty,s)
    | r::rest => (r,{ s with rx := rest })

namespace RpcCall

def script (c : RpcCall) : RmScript := ⟨c.sendErr,c.rx.map Delivery.recv,[]⟩

/-- The call. -/
def exec (c : RpcCall) (seq : UInt16) : ℤ × RmClient RmScript :=
  match c.request with
  | .accept handle gpa size =>
    gunyahGuestMemAccept RmScript.port true handle.toNat gpa.toNat size.toNat ⟨seq,c.script⟩
  | .release handle => gunyahGuestMemRelease RmScript.port true handle.toNat ⟨seq,c.script⟩

/-- The result of `gg_rpc` in the call, with the error code and the queues. -/
def rpc (c : RpcCall) (seq : UInt16) : ℤ × ℕ × RmScript :=
  ggRpc RmScript.port (c.request.frame (seq+1)) (seq+1) c.script

def silenced (c : RpcCall) (n : ℕ) : RpcCall := { c with rx := c.rx.map (Delivery.silence n) }

end RpcCall

/-- The state between two calls: `gg_seq`, the number of calls made, and the requests that have been
sent and not answered, with the numbers of their calls. -/
structure RpcState where
  seq : UInt16
  next : ℕ
  pending : List (ℕ × List UInt8)

namespace RpcState

/-- `gg_seq` at module load. -/
def boot : RpcState := ⟨1,0,[]⟩

/-- The unanswered requests once the call has sent its own. -/
def sent (s : RpcState) (c : RpcCall) : List (ℕ × List UInt8) :=
  (c.rpc s.seq).2.2.sent.map (fun tx => (s.next,tx)) ++ s.pending

def after (s : RpcState) (c : RpcCall) : RpcState where
  seq := (c.exec s.seq).2.seq
  next := s.next+1
  pending := (s.sent c).filter fun p => some p.1 ∉ c.rx.map Delivery.origin

end RpcState

/-- A call gets only replies to unanswered requests, each at most once and with the sequence number
of the request, and none whose request is 65536 or more calls old. `consumed` says that the list of
the call holds nothing beyond its receive attempts. -/
inductive RpcStep (s : RpcState) (c : RpcCall) : RpcState → Prop
  | call (consumed : (c.rpc s.seq).2.2.rx = [])
      (answers : ∀ k bytes h, .reply k bytes h ∈ c.rx →
        ∃ tx, (k,tx) ∈ s.sent c ∧ headerSeq bytes = headerSeq tx ∧ s.next < k+65536)
      (once : (c.rx.filterMap Delivery.origin).Nodup) : RpcStep s c (s.after c)

lemma RpcCall.exec_eq (c : RpcCall) (seq : UInt16) :
    c.exec seq = (if (c.rpc seq).1 ≠ 0 then (c.rpc seq).1
      else if (c.rpc seq).2.1 ≠ 0 then c.request.refused else 0,⟨seq+1,(c.rpc seq).2.2⟩) := by
  cases h : c.request <;>
    simp [RpcCall.exec, RpcCall.rpc, h, RmRequest.frame, RmRequest.refused,
      gunyahGuestMemAccept, gunyahGuestMemRelease, memCall]

section Poll
variable {seq : UInt16} {n : ℕ} {r : Recv} {sendErr : ℤ} {rx : List Recv} {sent : List (List UInt8)}

lemma pollReply_nil : pollReply RmScript.port seq (n+1) ⟨sendErr,[],sent⟩ =
    pollReply RmScript.port seq n ⟨sendErr,[],sent⟩ := rfl

lemma pollReply_cons_of_answers (h : r.Answers seq) :
    pollReply RmScript.port seq (n+1) ⟨sendErr,r::rx,sent⟩ = (0,r.errCode,⟨sendErr,rx,sent⟩) :=
  if_pos h

lemma pollReply_cons_of_not (h : ¬ r.Answers seq) :
    pollReply RmScript.port seq (n+1) ⟨sendErr,r::rx,sent⟩ =
      pollReply RmScript.port seq n ⟨sendErr,rx,sent⟩ := if_neg h

/-- The poll takes the first receive attempt that answers. -/
theorem pollReply_result :
    ((pollReply RmScript.port seq n ⟨sendErr,rx,sent⟩).1,
      (pollReply RmScript.port seq n ⟨sendErr,rx,sent⟩).2.1) =
        ((rx.take n).find? (Recv.Answers seq)).elim (-ETIMEDOUT,0) fun r => (0,r.errCode) := by
  induction n generalizing rx with
  | zero => simp [pollReply]
  | succ n ih =>
    cases rx with
    | nil =>
      rw [pollReply_nil]
      simpa using @ih []
    | cons r rx =>
      by_cases hr : r.Answers seq
      · simp [pollReply_cons_of_answers hr, hr]
      · simpa [pollReply_cons_of_not hr, hr] using ih

lemma pollReply_sent : (pollReply RmScript.port seq n ⟨sendErr,rx,sent⟩).2.2.sent = sent := by
  induction n generalizing rx with
  | zero => rfl
  | succ n ih =>
    cases rx with
    | nil => exact ih
    | cons r rx =>
      by_cases hr : r.Answers seq
      · rw [pollReply_cons_of_answers hr]
      · rw [pollReply_cons_of_not hr, ih]

/-- Each attempt takes one entry off the list. -/
theorem pollReply_length :
    rx.length ≤ (pollReply RmScript.port seq n ⟨sendErr,rx,sent⟩).2.2.rx.length+n := by
  induction n generalizing rx with
  | zero => simp [pollReply]
  | succ n ih =>
    cases rx with
    | nil => simp
    | cons r rx =>
      by_cases hr : r.Answers seq
      · simp only [pollReply_cons_of_answers hr, List.length_cons]
        omega
      · have := @ih rx
        simp only [pollReply_cons_of_not hr, List.length_cons]
        omega

end Poll

namespace RpcCall
variable {c : RpcCall} {seq : UInt16}

lemma rpc_of_sent (h : c.sendErr = 0) : c.rpc seq = pollReply RmScript.port (seq+1) 2000
    ⟨0,c.rx.map Delivery.recv,[c.request.frame (seq+1)]⟩ := by
  simp only [rpc, ggRpc, script, RmScript.port, h, ne_eq, not_true_eq_false, if_false, if_true,
    List.nil_append]

lemma rpc_of_not_sent (h : c.sendErr ≠ 0) : c.rpc seq = (- EIO,0,c.script) := by
  simp only [rpc, ggRpc, script, RmScript.port, h, ne_eq, not_false_eq_true, if_false, if_true]

lemma length_le (h : c.sendErr = 0) (consumed : (c.rpc seq).2.2.rx = []) : c.rx.length ≤ 2000 := by
  have hlen := @pollReply_length (seq+1) 2000 0 (c.rx.map Delivery.recv) [c.request.frame (seq+1)]
  rw [rpc_of_sent h] at consumed
  rwa [List.length_map, consumed, List.length_nil, Nat.zero_add] at hlen

/-- If the attempts that answer are those with the reply to call `n`, that reply decides. -/
theorem result_eq (h : c.sendErr = 0) {n : ℕ} (hlen : c.rx.length ≤ 2000)
    (hown : ∀ d ∈ c.rx, d.recv.Answers (seq+1) ↔ d.origin = some n) :
    ((c.rpc seq).1,(c.rpc seq).2.1) =
      (c.rx.find? fun d => d.origin = some n).elim (-ETIMEDOUT,0) fun d => (0,d.recv.errCode) := by
  rw [rpc_of_sent h, pollReply_result, List.take_of_length_le (by rwa [List.length_map]),
    List.find?_map]
  have hsame : c.rx.find? (fun d => decide (d.recv.Answers (seq+1))) =
      c.rx.find? (fun d => decide (d.origin = some n)) :=
    List.find?_congr fun d hd => decide_eq_decide.mpr (hown d hd)
  rw [← hsame, Option.elim_map]
  rfl

end RpcCall

/-- The sequence numbers follow the number of calls, also across a wrap. -/
structure RpcState.Numbered (s : RpcState) : Prop where
  seq_eq : s.seq.toNat = (s.next+1) % 65536
  pending : ∀ k tx, (k,tx) ∈ s.pending → k < s.next ∧ headerSeq tx = (k+2) % 65536

lemma RpcState.boot_numbered : RpcState.boot.Numbered := ⟨rfl,by simp [RpcState.boot]⟩

namespace RpcState.Numbered
variable {s : RpcState} {c : RpcCall}

lemma next_seq (h : s.Numbered) : (s.seq+1).toNat = (s.next+2) % 65536 := by
  rw [UInt16.toNat_add, h.seq_eq]
  simp
  
lemma sent (h : s.Numbered) {k : ℕ} {tx : List UInt8} (hmem : (k,tx) ∈ s.sent c) :
    k ≤ s.next ∧ headerSeq tx = (k+2) % 65536 := by
  rcases List.mem_append.mp hmem with hmem | hmem
  · obtain ⟨tx',htx,heq⟩ := List.mem_map.mp hmem
    obtain ⟨rfl,rfl⟩ := Prod.mk.inj heq
    by_cases hsend : c.sendErr = 0
    · rw [RpcCall.rpc_of_sent hsend, pollReply_sent] at htx
      rw [List.mem_singleton.mp htx, RmRequest.headerSeq_frame, h.next_seq]
      exact ⟨le_rfl,rfl⟩
    · rw [RpcCall.rpc_of_not_sent hsend] at htx
      cases htx
  · obtain ⟨hlt,hseq⟩ := h.pending k tx hmem
    exact ⟨hlt.le,hseq⟩

lemma step (h : s.Numbered) {s' : RpcState} (hstep : RpcStep s c s') : s'.Numbered := by
  cases hstep with
  | call =>
    refine ⟨?_,fun k tx hmem => ?_⟩
    · rw [RpcState.after, RpcCall.exec_eq]
      exact h.next_seq
    · obtain ⟨hle,hseq⟩ := h.sent (List.mem_of_mem_filter hmem)
      exact ⟨Nat.lt_succ_of_le hle,hseq⟩

/-- A receive attempt answers exactly when it gets the reply to the call's own request. -/
theorem answers_iff (h : s.Numbered) {s' : RpcState} (hstep : RpcStep s c s') {d : Delivery}
    (hd : d ∈ c.rx) : d.recv.Answers (s.seq+1) ↔ d.origin = some s.next := by
  cases hstep with
  | call _ answers =>
    cases d with
    | nothing => exact iff_of_false id (by simp [Delivery.origin])
    | other bytes other => exact iff_of_false (fun ha => other ha.1) (by simp [Delivery.origin])
    | reply k bytes isReply =>
      obtain ⟨tx,hmem,hhdr,hold⟩ := answers k bytes isReply hd
      obtain ⟨hle,hseq⟩ := h.sent hmem
      simp only [Delivery.recv, Delivery.origin, Recv.Answers, isReply, true_and, hhdr, hseq,
        h.next_seq, Option.some.injEq]
      -- the numbers of the two calls differ by less than one turn of the counter
      omega

end RpcState.Numbered

namespace Delivery

lemma silence_of_origin {n : ℕ} {d : Delivery} (h : d.origin = some n) : d.silence n = d := if_pos h

lemma silence_origin_iff {n : ℕ} {d : Delivery} :
    (d.silence n).origin = some n ↔ d.origin = some n := by
  unfold silence
  split_ifs with h
  · rfl
  · exact iff_of_false (by simp [origin]) h

end Delivery

/-- Silencing what is not the reply to call `n` does not change what the poll finds. -/
theorem RpcCall.silenced_result {c : RpcCall} {seq : UInt16} (h : c.sendErr = 0) {n : ℕ}
    (hlen : c.rx.length ≤ 2000)
    (hown : ∀ d ∈ c.rx, d.recv.Answers (seq+1) ↔ d.origin = some n) :
    (((c.silenced n).rpc seq).1,((c.silenced n).rpc seq).2.1) = ((c.rpc seq).1,(c.rpc seq).2.1) := by
  have hown' : ∀ d ∈ (c.silenced n).rx, d.recv.Answers (seq+1) ↔ d.origin = some n := by
    intro d hd
    obtain ⟨a,ha,rfl⟩ := List.mem_map.mp hd
    by_cases horigin : a.origin = some n
    · rw [Delivery.silence_of_origin horigin]
      exact hown a ha
    · rw [Delivery.silence_origin_iff, Delivery.silence, if_neg horigin]
      exact iff_of_false id horigin
  rw [result_eq h hlen hown, result_eq (c := c.silenced n) h (by simpa [silenced] using hlen) hown',
    silenced, List.find?_map, Option.elim_map]
  have hsame : c.rx.find? ((fun d => decide (d.origin = some n)) ∘ Delivery.silence n) =
      c.rx.find? (fun d => decide (d.origin = some n)) :=
    List.find?_congr fun d _ => decide_eq_decide.mpr Delivery.silence_origin_iff
  rw [hsame]
  cases hfind : c.rx.find? (fun d => decide (d.origin = some n)) with
  | none => rfl
  | some d =>
    have horigin : d.origin = some n := by simpa using List.find?_some hfind
    simp [Delivery.silence_of_origin horigin]

namespace RpcStep
variable {s s' : RpcState} {c : RpcCall}

/-- Only a call that was sent makes receive attempts, and at most 2000. -/
theorem attempts (hstep : RpcStep s c s') :
    (c.sendErr = 0 → c.rx.length ≤ 2000) ∧ (c.sendErr ≠ 0 → c.rx = []) := by
  cases hstep with
  | call consumed =>
    refine ⟨fun hsend => RpcCall.length_le hsend consumed,fun hsend => ?_⟩
    rw [RpcCall.rpc_of_not_sent hsend] at consumed
    exact List.map_eq_nil_iff.mp consumed

lemma origin_unique (hstep : RpcStep s c s') {n : ℕ} {d e : Delivery} (hd : d ∈ c.rx)
    (he : e ∈ c.rx) (hdn : d.origin = some n) (hen : e.origin = some n) : d = e := by
  cases hstep with
  | call _ _ once =>
    have hpair := List.pairwise_iff_getElem.mp (List.pairwise_filterMap.mp once)
    obtain ⟨i,hi,rfl⟩ := List.mem_iff_getElem.mp hd
    obtain ⟨j,hj,rfl⟩ := List.mem_iff_getElem.mp he
    rcases Nat.lt_trichotomy i j with h | rfl | h
    · exact absurd rfl (hpair i j hi hj h n hdn n hen)
    · rfl
    · exact absurd rfl (hpair j i hj hi h n hen n hdn)

end RpcStep

/-- The call takes the reply to its own request, if it gets it in time, and no other. -/
structure RpcState.Matched (s : RpcState) (c : RpcCall) : Prop where
  taken : c.sendErr = 0 → ((c.rpc s.seq).1 = 0 ↔ some s.next ∈ c.rx.map Delivery.origin)
  timeout : c.sendErr = 0 → (c.rpc s.seq).1 ≠ 0 → (c.rpc s.seq).1 = -ETIMEDOUT
  unsent : c.sendErr ≠ 0 → (c.rpc s.seq).1 = - EIO
  code : ∀ bytes h, .reply s.next bytes h ∈ c.rx → (c.rpc s.seq).2.1 = errCode bytes
  result : (c.exec s.seq).1 = if (c.rpc s.seq).1 ≠ 0 then (c.rpc s.seq).1
    else if (c.rpc s.seq).2.1 ≠ 0 then c.request.refused else 0
  /-- No attempt takes the reply to another call. -/
  own : ∀ d ∈ c.rx, d.recv.Answers (s.seq+1) → d.origin = some s.next
  /-- The attempts that get something else could as well get nothing. -/
  silent : ((c.silenced s.next).exec s.seq).1 = (c.exec s.seq).1

/-- In every run, every call is matched with the reply to its own request. -/
theorem rm_reply_matching {calls : List RpcCall} {s s' : RpcState} {c : RpcCall}
    (hrun : Transition.Run RpcStep .boot calls s) (hstep : RpcStep s c s') : s.Matched c := by
  have h : s.Numbered := hrun.invariant (fun _ _ _ hs hstep => hs.step hstep) RpcState.boot_numbered
  have hown : ∀ d ∈ c.rx, d.recv.Answers (s.seq+1) ↔ d.origin = some s.next :=
    fun d hd => h.answers_iff hstep hd
  have hexec : ∀ c : RpcCall, (c.exec s.seq).1 = (if (c.rpc s.seq).1 ≠ 0 then (c.rpc s.seq).1
      else if (c.rpc s.seq).2.1 ≠ 0 then c.request.refused else 0) := fun c => by rw [c.exec_eq]
  by_cases hsend : c.sendErr = 0
  · have hlen := hstep.attempts.1 hsend
    have hres := RpcCall.result_eq hsend hlen hown
    have hsilent : ((c.silenced s.next).exec s.seq).1 = (c.exec s.seq).1 := by
      obtain ⟨hret,hcode⟩ := Prod.mk.inj (RpcCall.silenced_result hsend hlen hown)
      rw [hexec, hexec, hret, hcode]
      rfl
    have hpoll : ((c.rpc s.seq).1 = 0 ↔ some s.next ∈ c.rx.map Delivery.origin) ∧
        ((c.rpc s.seq).1 ≠ 0 → (c.rpc s.seq).1 = -ETIMEDOUT) := by
      cases hfind : c.rx.find? (fun d => decide (d.origin = some s.next)) with
      | none =>
        obtain ⟨hret,-⟩ := Prod.mk.inj (by simpa only [hfind, Option.elim_none] using hres)
        have hnone : some s.next ∉ c.rx.map Delivery.origin := by
          simpa [List.find?_eq_none] using hfind
        rw [hret]
        exact ⟨iff_of_false (by decide) hnone,fun _ => rfl⟩
      | some d =>
        obtain ⟨hret,-⟩ := Prod.mk.inj (by simpa only [hfind, Option.elim_some] using hres)
        have hd : some s.next ∈ c.rx.map Delivery.origin :=
          List.mem_map.mpr ⟨d,List.mem_of_find?_eq_some hfind,by simpa using List.find?_some hfind⟩
        exact ⟨iff_of_true hret hd,fun hne => absurd hret hne⟩
    refine ⟨fun _ => hpoll.1,fun _ => hpoll.2,absurd hsend,fun bytes hb hmem => ?_,hexec c,
      fun d hd => (hown d hd).mp,hsilent⟩
    cases hfind : c.rx.find? (fun d => decide (d.origin = some s.next)) with
    | none =>
      exact absurd (show (Delivery.reply s.next bytes hb).origin = some s.next from rfl)
        (by simpa only [decide_eq_true_eq] using List.find?_eq_none.mp hfind _ hmem)
    | some d =>
      obtain ⟨-,hcode⟩ := Prod.mk.inj (by simpa only [hfind, Option.elim_some] using hres)
      rw [hcode, hstep.origin_unique (List.mem_of_find?_eq_some hfind) hmem
        (by simpa using List.find?_some hfind) rfl]
      rfl
  · have hrx := hstep.attempts.2 hsend
    refine ⟨fun h0 => absurd h0 hsend,fun h0 => absurd h0 hsend,
      fun _ => by rw [RpcCall.rpc_of_not_sent hsend],by simp [hrx],hexec c,by simp [hrx],?_⟩
    have hsame : c.silenced s.next = c := by
      obtain ⟨request,sendErr,rx⟩ := c
      obtain rfl : rx = [] := hrx
      rfl
    rw [hsame]

/-- A release whose answer is late, and the next call, which gets that answer before its own. -/
theorem rm_reply_matching_late :
    let reply (seq code : ℕ) : List UInt8 := leBytes 1 0x21 ++ leBytes 1 2 ++ leBytes 2 seq ++
      leBytes 4 0 ++ leBytes 4 code
    let late : Delivery := .reply 0 (reply 2 5) (by decide)
    let own : Delivery := .reply 1 (reply 3 0) (by decide)
    let lost : RpcCall := ⟨.release 7,0,[]⟩
    let c : RpcCall := ⟨.accept 8 0x80000000 0x200000,0,[late,.nothing 1 (by decide),own]⟩
    let s := RpcState.boot.after lost
    s.Matched c := by
  intro reply late own lost c s
  have hfirst : RpcStep .boot lost s := .call (by decide +kernel) (by simp [lost]) (by simp [lost])
  have hsecond : RpcStep s c (s.after c) := by
    refine .call (by decide +kernel) ?_ (by decide +kernel)
    intro k bytes h hmem
    simp only [c, late, own, List.mem_cons, Delivery.reply.injEq, reduceCtorEq, List.not_mem_nil,
      or_false, false_or] at hmem
    rcases hmem with ⟨rfl,rfl⟩ | ⟨rfl,rfl⟩
    · exact ⟨releaseFrame 7 2,by decide +kernel,by decide +kernel,by decide +kernel⟩
    · exact ⟨acceptFrame 8 0x80000000 0x200000 3,by decide +kernel,by decide +kernel,
        by decide +kernel⟩
  exact rm_reply_matching (.single hfirst) hsecond

end GuestAdditions

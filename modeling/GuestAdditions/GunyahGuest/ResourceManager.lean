import GuestAdditions.GunyahGuest.Rpc

/-! The resource manager behind the client of `gunyah_guest.c`: a server that maps and unmaps
parcels, reached through its message queues, on which a request or its answer can be lost. -/
namespace GuestAdditions

namespace RmRequest

/-- How the resource manager reads a frame. -/
def decode (tx : List UInt8) : Option RmRequest :=
  if leField tx 4 4 = GH_RM_RPC_MEM_ACCEPT then
    some (.accept (.ofNat (leField tx 8 4)) (.ofNat (leField tx 28 8)) (.ofNat (leField tx 36 8)))
  else if leField tx 4 4 = GH_RM_RPC_MEM_RELEASE then some (.release (.ofNat (leField tx 8 4)))
  else none

/-- The resource manager reads the request that the driver wrote. -/
theorem decode_frame (r : RmRequest) (seq : UInt16) : decode (r.frame seq) = some r := by
  cases r with
  | accept handle gpa size =>
    have hid : leField (frame (.accept handle gpa size) seq) 4 4 = GH_RM_RPC_MEM_ACCEPT := by
      simp [frame,acceptFrame,rpcHeader,leField_skip,
        leField_head (show GH_RM_RPC_MEM_ACCEPT < 256^4 by decide)]
    have hhandle : leField (frame (.accept handle gpa size) seq) 8 4 = handle.toNat := by
      simp [frame,acceptFrame,rpcHeader,leField_skip,leField_head (w := 4) handle.toNat_lt]
    have hgpa : leField (frame (.accept handle gpa size) seq) 28 8 = gpa.toNat := by
      simp [frame,acceptFrame,rpcHeader,leField_skip,leField_head (w := 8) gpa.toNat_lt]
    have hsize : leField (frame (.accept handle gpa size) seq) 36 8 = size.toNat := by
      simp [frame,acceptFrame,rpcHeader,leField_skip,leField_head (w := 8) size.toNat_lt]
    rw [decode,hid,if_pos rfl,hhandle,hgpa,hsize,UInt32.ofNat_toNat,UInt64.ofNat_toNat,
      UInt64.ofNat_toNat]
  | release handle =>
    have hid : leField (frame (.release handle) seq) 4 4 = GH_RM_RPC_MEM_RELEASE := by
      simp [frame,releaseFrame,rpcHeader,leField_skip,
        leField_head (show GH_RM_RPC_MEM_RELEASE < 256^4 by decide)]
    have hhandle : leField (frame (.release handle) seq) 8 4 = handle.toNat := by
      simp [frame,releaseFrame,rpcHeader,leField_skip,leField_head (w := 4) handle.toNat_lt]
    rw [decode,hid,if_neg (by decide),if_pos rfl,hhandle,UInt32.ofNat_toNat]

end RmRequest

/-- The bytes of a reply to the request `tx`. -/
def replyFrame (tx : List UInt8) (code : UInt32) : List UInt8 :=
  leBytes 1 GH_RM_RPC_API ++ leBytes 1 GH_RM_RPC_TYPE_REPLY ++ leBytes 2 (headerSeq tx) ++
    leBytes 4 (leField tx 4 4) ++ leBytes 4 code.toNat

/-- A parcel that is mapped into the guest, and the `struct vga_accepted` that the driver keeps of
it. -/
structure Parcel where
  gpa : UInt64
  size : UInt64
  handle : UInt32
  deriving DecidableEq

/-- The two ranges share no address. -/
def Parcel.Apart (p q : Parcel) : Prop :=
  p.gpa.toNat+p.size.toNat ≤ q.gpa.toNat ∨ q.gpa.toNat+q.size.toNat ≤ p.gpa.toNat

instance (p q : Parcel) : Decidable (p.Apart q) := inferInstanceAs (Decidable (_ ∨ _))

/-- The service: the answer to a request is an error code, 0 for success. -/
structure RmServer (σ : Type) where
  serve : σ → RmRequest → UInt32 × σ
  mapped : σ → List Parcel

/-- A request has its whole effect or, refused, none. Accepting a handle or a range that is mapped is
refused, and so is the release of a handle that is not. -/
structure RmServer.Sound {σ : Type} (S : RmServer σ) : Prop where
  accepted : ∀ {s handle gpa size s'}, S.serve s (.accept handle gpa size) = (0,s') →
    (S.mapped s').Perm (⟨gpa,size,handle⟩::S.mapped s) ∧
      ∀ p ∈ S.mapped s, p.handle ≠ handle ∧ p.Apart ⟨gpa,size,handle⟩
  released : ∀ {s handle s'}, S.serve s (.release handle) = (0,s') →
    ∃ p, p.handle = handle ∧ (S.mapped s).Perm (p::S.mapped s')
  refused : ∀ {s r code s'}, S.serve s r = (code,s') → code ≠ 0 → (S.mapped s').Perm (S.mapped s)

/-- What becomes of a request: it cannot be sent, it is answered in time, or no answer comes in time,
whether it is performed or not. An answer that comes later is no answer to a later request. -/
inductive RpcFate
  | unsent (err : ℤ) (ne : err ≠ 0)
  | answered
  | lost (performed : Bool)
  deriving DecidableEq

/-- The server and its queues: the answers not yet received, the fates of the coming requests, which
are answered when the list ends, and the requests that the driver made, the newest first. -/
structure RmLink (σ : Type) where
  server : σ
  answers : List Recv
  fates : List RpcFate
  asked : List RmRequest

namespace RmServer
variable {σ : Type} (S : RmServer σ)

/-- The request arrives at the server, and is answered or not. -/
def deliver (s : RmLink σ) (tx : List UInt8) (r : RmRequest) : RpcFate → ℤ × RmLink σ
  | .unsent err _ => (err,s)
  | .answered =>
    let a := S.serve s.server r
    (0,{ s with server := a.2, answers := s.answers ++ [.message (replyFrame tx a.1)] })
  | .lost performed =>
    (0,{ s with server := if performed then (S.serve s.server r).2 else s.server })

def port : RmPort (RmLink σ) where
  send s tx :=
    match RmRequest.decode tx with
    | none => (0,s)
    | some r =>
      S.deliver { s with fates := s.fates.tail, asked := r::s.asked } tx r
        (s.fates.headD .answered)
  recv s :=
    match s.answers with
    | [] => (.empty,s)
    | r::rest => (r,{ s with answers := rest })

end RmServer

/-- A reply has the sequence number of its request, and answers it. -/
theorem replyFrame_answers (r : RmRequest) (seq : UInt16) (code : UInt32) :
    (Recv.message (replyFrame (r.frame seq) code)).Answers seq := by
  have hseq : headerSeq (replyFrame (r.frame seq) code) =
    leValue (leBytes 2 (headerSeq (r.frame seq))) := rfl
  have htype : leField (replyFrame (r.frame seq) code) 1 1 =
    leValue (leBytes 1 GH_RM_RPC_TYPE_REPLY) := rfl
  refine ⟨⟨by simp [replyFrame],by rw [htype]; decide⟩,?_⟩
  rw [hseq, r.headerSeq_frame, leValue_leBytes_of_lt seq.toNat_lt]

lemma errCode_replyFrame (tx : List UInt8) (code : UInt32) :
    errCode (replyFrame tx code) = code.toNat := by
  have hcode : errCode (replyFrame tx code) = leValue (leBytes 4 code.toNat) := rfl
  rw [hcode, leValue_leBytes_of_lt code.toNat_lt]

section Poll
variable {σ : Type} {T : RmPort σ} {seq : UInt16} {s : σ}

lemma pollReply_of_answers (h : (T.recv s).1.Answers seq) (n : ℕ) :
    pollReply T seq (n+1) s = (0,(T.recv s).1.errCode,(T.recv s).2) := if_pos h

/-- An empty queue is polled in vain. -/
theorem pollReply_of_empty (h : T.recv s = (.empty,s)) (n : ℕ) :
    pollReply T seq n s = (-ETIMEDOUT,0,s) := by
  induction n with
  | zero => rfl
  | succ n ih =>
    have hno : ¬ (T.recv s).1.Answers seq := by rw [h]; exact id
    rw [pollReply, if_neg hno, h, ih]

end Poll

/-- The client after a call, with the server in the state that the call left it in. -/
def RmClient.after {σ : Type} (s : RmClient (RmLink σ)) (r : RmRequest) (server : σ) :
    RmClient (RmLink σ) :=
  ⟨s.seq+1,⟨server,[],s.port.fates.tail,r::s.port.asked⟩⟩

namespace RmServer
variable {σ : Type} (S : RmServer σ)

/-- A call of the client with the link idle. -/
def call (r : RmRequest) (s : RmClient (RmLink σ)) : ℤ × RmClient (RmLink σ) :=
  memCall S.port r.frame r.refused true s

/-- `gunyah_guest_mem_accept` is a call, once the resource manager is available. -/
theorem memAccept_eq_call {ready : Bool} (hready : ready = true) (handle : UInt32) (gpa size : UInt64)
    (s : RmClient (RmLink σ)) :
    gunyahGuestMemAccept S.port ready handle.toNat gpa.toNat size.toNat s =
      S.call (.accept handle gpa size) s := by
  rw [hready]
  rfl

lemma memRelease_eq_call {ready : Bool} (hready : ready = true) (handle : UInt32)
    (s : RmClient (RmLink σ)) :
    gunyahGuestMemRelease S.port ready handle.toNat s = S.call (.release handle) s := by
  rw [hready]
  rfl

/-- The ways a call can end. -/
inductive CallOutcome (r : RmRequest) (s : RmClient (RmLink σ)) : ℤ × RmClient (RmLink σ) → Prop
  | unsent {err ne} (fate : s.port.fates.headD .answered = .unsent err ne) :
      CallOutcome r s (- EIO,s.after r s.port.server)
  | done {s'} (fate : s.port.fates.headD .answered = .answered)
      (served : S.serve s.port.server r = (0,s')) : CallOutcome r s (0,s.after r s')
  | refused {code s'} (fate : s.port.fates.headD .answered = .answered)
      (served : S.serve s.port.server r = (code,s')) (ne : code ≠ 0) :
      CallOutcome r s (r.refused,s.after r s')
  | lost {performed} (fate : s.port.fates.headD .answered = .lost performed) :
      CallOutcome r s (-ETIMEDOUT,s.after r
        (if performed then (S.serve s.port.server r).2 else s.port.server))

lemma pollReply_answer (r : RmRequest) (seq : UInt16) (code : UInt32) (server : σ)
    (fates : List RpcFate) (asked : List RmRequest) :
    pollReply S.port seq 2000 ⟨server,[.message (replyFrame (r.frame seq) code)],fates,asked⟩ =
      (0,code.toNat,⟨server,[],fates,asked⟩) := by
  rw [pollReply_of_answers (T := S.port) (replyFrame_answers r seq code) 1999,
    ← errCode_replyFrame (r.frame seq) code]
  rfl

lemma call_outcome (r : RmRequest) {s : RmClient (RmLink σ)} (idle : s.port.answers = []) :
    CallOutcome S r s (S.call r s) := by
  obtain ⟨seq,server,answers,fates,asked⟩ := s
  obtain rfl : answers = [] := idle
  have hsend : S.port.send ⟨server,[],fates,asked⟩ (r.frame (seq+1)) =
      S.deliver ⟨server,[],fates.tail,r::asked⟩ (r.frame (seq+1)) r (fates.headD .answered) := by
    simp only [port, r.decode_frame]
  simp only [call, memCall, Bool.true_eq_false, if_false, ggRpc, hsend]
  cases hfate : fates.headD .answered with
  | unsent err ne =>
    simp only [deliver, ne, ne_eq, not_false_eq_true, if_true]
    exact .unsent hfate
  | answered =>
    obtain ⟨⟨code,s'⟩,hserve⟩ : ∃ a, S.serve server r = a := ⟨_,rfl⟩
    simp only [deliver, hserve, List.nil_append, ne_eq, not_true_eq_false, if_false, S.pollReply_answer]
    by_cases hcode : code = 0
    · subst hcode
      exact .done hfate hserve
    · have hne : ¬ code.toNat = 0 := fun h0 => hcode (UInt32.toNat_inj.mp h0)
      rw [if_pos hne]
      exact .refused hfate hserve hcode
  | lost performed =>
    simp only [deliver, ne_eq, not_true_eq_false, if_false]
    rw [pollReply_of_empty (T := S.port) rfl]
    exact .lost hfate

end RmServer
end GuestAdditions

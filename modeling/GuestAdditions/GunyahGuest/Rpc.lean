import GuestAdditions.Kernel.Errno
import GuestAdditions.Library.Bytes

/-! The resource manager's client in `gunyah_guest.c`: the frames it sends, and the poll for the reply
whose sequence number is that of the request. -/
namespace GuestAdditions

abbrev GH_RM_RPC_API : ℕ := 0x21
abbrev GH_RM_RPC_TYPE_REQUEST : ℕ := 0x01
abbrev GH_RM_RPC_TYPE_REPLY : ℕ := 0x02
abbrev GH_RM_RPC_TYPE_MASK : ℕ := 0x03
abbrev GH_RM_RPC_MEM_ACCEPT : ℕ := 0x51000011
abbrev GH_RM_RPC_MEM_RELEASE : ℕ := 0x51000014
abbrev GH_RM_MEM_TYPE_NORMAL : ℕ := 0
abbrev GH_RM_TRANS_TYPE_SHARE : ℕ := 2
abbrev GH_RM_MEM_ACCEPT_MAP_IPA_CONTIGUOUS : ℕ := 0x10
abbrev GH_RM_MEM_ACCEPT_DONE : ℕ := 0x80

/-- What `gg_msgq_recv` gets: an error of the hypervisor, or a message of `rxlen` bytes. -/
inductive Recv
  | error (err : ℤ) (ne : err ≠ 0)
  | message (bytes : List UInt8)

/-- An attempt that finds the queue empty. -/
def Recv.empty : Recv := .error 1 (by decide)

/-- The two message queues of the resource manager. -/
structure RmPort (σ : Type) where
  send : σ → List UInt8 → ℤ × σ
  recv : σ → Recv × σ

/-- The part of a message that `struct gh_rpc_reply` describes is there, and is a reply. -/
def IsReply (bytes : List UInt8) : Prop :=
  12 ≤ bytes.length ∧ leField bytes 1 1 &&& GH_RM_RPC_TYPE_MASK = GH_RM_RPC_TYPE_REPLY

instance (bytes : List UInt8) : Decidable (IsReply bytes) := inferInstanceAs (Decidable (_ ∧ _))

/-- The sequence number in the header of a request or a reply. -/
def headerSeq (bytes : List UInt8) : ℕ := leField bytes 2 2

def errCode (bytes : List UInt8) : ℕ := leField bytes 8 4

/-- The test of `gg_rpc` on one receive attempt. -/
def Recv.Answers (seq : UInt16) : Recv → Prop
  | error _ _ => False
  | message bytes => IsReply bytes ∧ headerSeq bytes = seq.toNat

instance (seq : UInt16) : DecidablePred (Recv.Answers seq)
  | .error _ _ => inferInstanceAs (Decidable False)
  | .message _ => inferInstanceAs (Decidable (_ ∧ _))

def Recv.errCode : Recv → ℕ
  | error _ _ => 0
  | message bytes => GuestAdditions.errCode bytes

/-- The eight bytes before the payload. -/
def rpcHeader (seq : UInt16) (msgId : ℕ) : List UInt8 :=
  leBytes 1 GH_RM_RPC_API ++ leBytes 1 GH_RM_RPC_TYPE_REQUEST ++ leBytes 2 seq.toNat ++
    leBytes 4 msgId

/-- The contents of `gg_txbuf` for MEM_ACCEPT: one range, accepted as a contiguous mapping. -/
def acceptFrame (handle gpa size : ℕ) (seq : UInt16) : List UInt8 :=
  rpcHeader seq GH_RM_RPC_MEM_ACCEPT ++
    (leBytes 4 handle ++ leBytes 1 GH_RM_MEM_TYPE_NORMAL ++ leBytes 1 GH_RM_TRANS_TYPE_SHARE ++
      leBytes 1 (GH_RM_MEM_ACCEPT_MAP_IPA_CONTIGUOUS ||| GH_RM_MEM_ACCEPT_DONE) ++ leBytes 1 0 ++
      leBytes 4 0 ++ leBytes 4 0 ++ leBytes 2 1 ++ leBytes 2 0 ++ leBytes 8 gpa ++ leBytes 8 size ++
      leBytes 2 0 ++ leBytes 2 0)

def releaseFrame (handle : ℕ) (seq : UInt16) : List UInt8 :=
  rpcHeader seq GH_RM_RPC_MEM_RELEASE ++ (leBytes 4 handle ++ leBytes 4 0)

section Client
variable {σ : Type} (T : RmPort σ)

/-- The loop of `gg_rpc`: its result, the error code stored and the port. -/
def pollReply (seq : UInt16) : ℕ → σ → ℤ × ℕ × σ
  | 0, s => (-ETIMEDOUT,0,s)
  | n+1, s =>
    let r := T.recv s
    if r.1.Answers seq then (0,r.1.errCode,r.2) else pollReply seq n r.2

/-- `gg_rpc`. -/
def ggRpc (tx : List UInt8) (seq : UInt16) (s : σ) : ℤ × ℕ × σ :=
  let r := T.send s tx
  if r.1 ≠ 0 then (- EIO,0,r.2) else pollReply T seq 2000 r.2

/-- `gg_seq` with the queues. -/
structure RmClient (σ : Type) where
  seq : UInt16
  port : σ

/-- What `gunyah_guest_mem_accept` and `gunyah_guest_mem_release` have in common: the frame and the
error for a refusal are theirs. -/
def memCall (frame : UInt16 → List UInt8) (refused : ℤ) (ready : Bool) (s : RmClient σ) :
    ℤ × RmClient σ :=
  if ready = false then (-ENODEV,s)
  else
    let seq := s.seq+1
    let r := ggRpc T (frame seq) seq s.port
    (if r.1 ≠ 0 then r.1 else if r.2.1 ≠ 0 then refused else 0,⟨seq,r.2.2⟩)

def gunyahGuestMemAccept (ready : Bool) (handle gpa size : ℕ) (s : RmClient σ) : ℤ × RmClient σ :=
  memCall T (acceptFrame handle gpa size) (-EACCES) ready s

def gunyahGuestMemRelease (ready : Bool) (handle : ℕ) (s : RmClient σ) : ℤ × RmClient σ :=
  memCall T (releaseFrame handle) (- EIO) ready s

end Client

lemma headerSeq_rpcHeader (seq : UInt16) (msgId : ℕ) (payload : List UInt8) :
    headerSeq (rpcHeader seq msgId ++ payload) = seq.toNat := by
  have h : seq.toNat < 256^2 := seq.toNat_lt
  exact leValue_leBytes_of_lt h

lemma headerSeq_acceptFrame (handle gpa size : ℕ) (seq : UInt16) :
    headerSeq (acceptFrame handle gpa size seq) = seq.toNat := by
  rw [acceptFrame, headerSeq_rpcHeader]

lemma headerSeq_releaseFrame (handle : ℕ) (seq : UInt16) :
    headerSeq (releaseFrame handle seq) = seq.toNat := by
  rw [releaseFrame, headerSeq_rpcHeader]

/-- A request of the driver. -/
inductive RmRequest
  | accept (handle : UInt32) (gpa size : UInt64)
  | release (handle : UInt32)
  deriving DecidableEq

namespace RmRequest

def frame : RmRequest → UInt16 → List UInt8
  | accept handle gpa size => acceptFrame handle.toNat gpa.toNat size.toNat
  | release handle => releaseFrame handle.toNat

/-- The error for a refusal. -/
def refused : RmRequest → ℤ
  | accept _ _ _ => -EACCES
  | release _ => - EIO

lemma refused_ne (r : RmRequest) : r.refused ≠ 0 := by
  cases r <;> rw [refused] <;> decide

lemma headerSeq_frame (r : RmRequest) (seq : UInt16) : headerSeq (r.frame seq) = seq.toNat := by
  cases r with
  | accept => exact headerSeq_acceptFrame _ _ _ _
  | release => exact headerSeq_releaseFrame _ _

end RmRequest

end GuestAdditions

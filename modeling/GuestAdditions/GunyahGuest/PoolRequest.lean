import GuestAdditions.GuestPool.Boundary
import GuestAdditions.GuestPool.FirstFit
import GuestAdditions.Library.Bytes

/-! The pool control queue of `gunyah_guest.c`: one request and every way in which the device can
hand its buffers back. The response lives in a zero-allocated context and the callback ignores the
used length, so a field that the device did not write reads as 0. -/
namespace GuestAdditions

abbrev VGP_OP_SHARE : ℕ := 1
abbrev VGP_OP_UNSHARE : ℕ := 2
abbrev VGP_OP_QUERY : ℕ := 3

/-- `struct virtio_gunyah_pool_req`. -/
structure PoolReq where
  reqId : ℕ
  op : ℕ
  poolId : ℕ
  flags : ℕ
  offset : ℕ
  len : ℕ

/-- A `struct virtio_gunyah_pool_resp` of 16 bytes, as the device left it: the bytes that the used
length covers. -/
structure PoolResp where
  written : List UInt8
  fits : written.length ≤ 16

/-- How a request can go: there is no device, the context cannot be allocated, the queue refuses the
buffers, the wait runs out, or the buffers come back. -/
inductive PoolFate
  | noDevice
  | noMemory
  | notQueued (err : ℤ) (ne : err ≠ 0)
  | timedOut
  | returned (resp : PoolResp)

/-- The environment of the queue. -/
structure PoolQueue (σ : Type) where
  submit : σ → PoolReq → PoolFate × σ

/-- The environment's state with `pool_next_id`. -/
structure PoolPort (σ : Type) where
  dev : σ
  nextId : ℕ

/-- `(s32)le32_to_cpu(ctx->resp.ret)`. -/
def PoolResp.ret (r : PoolResp) : ℤ := toS32 (leField (padTo 16 r.written) 4 4)

/-- `le64_to_cpu(ctx->resp.extra)`. -/
def PoolResp.extra (r : PoolResp) : ℕ := leField (padTo 16 r.written) 8 8

namespace PoolQueue
variable {σ : Type} (Q : PoolQueue σ)

def request (port : PoolPort σ) (op poolId offset len : ℕ) : PoolReq :=
  ⟨port.nextId,wrap32 op,wrap32 poolId,0,wrap64 offset,wrap64 len⟩

/-- `vga_pool_request`. The flag says whether the `extra` pointer is given; the second component is
the value stored through it, if one is. -/
def vgaPoolRequest (port : PoolPort σ) (op poolId offset len : ℕ) (extra : Bool) :
    ℤ × Option ℕ × PoolPort σ :=
  let r := Q.submit port.dev (request port op poolId offset len)
  let sent : PoolPort σ := ⟨r.2,wrap32 (port.nextId+1)⟩
  match r.1 with
  | .noDevice => (-ENODEV,none,⟨r.2,port.nextId⟩)
  | .noMemory => (-ENOMEM,none,⟨r.2,port.nextId⟩)
  | .notQueued err _ => (err,none,sent)
  | .timedOut => (-ETIMEDOUT,none,sent)
  | .returned resp => (resp.ret,if extra then some resp.extra else none,sent)

/-- `gunyah_pool_grow`. -/
def gunyahPoolGrow (port : PoolPort σ) (poolId offset len : ℕ) : ℤ × PoolPort σ :=
  let r := Q.vgaPoolRequest port VGP_OP_SHARE poolId offset len false
  (r.1,r.2.2)

/-- `gunyah_pool_shrink`. -/
def gunyahPoolShrink (port : PoolPort σ) (poolId offset len : ℕ) : ℤ × PoolPort σ :=
  let r := Q.vgaPoolRequest port VGP_OP_UNSHARE poolId offset len false
  (r.1,r.2.2)

/-- `gunyah_pool_query_range` with a `backed` pointer; the truth value is the one it stores when the
result is 0. -/
def gunyahPoolQueryRange (port : PoolPort σ) (poolId offset len : ℕ) : ℤ × Bool × PoolPort σ :=
  let r := Q.vgaPoolRequest port VGP_OP_QUERY poolId offset len true
  (r.1,decide (r.2.1.getD 0 ≠ 0),r.2.2)

/-- The host of the guest pool, reached through the queue. -/
def poolHost : PoolHost (PoolPort σ) where
  grow := Q.gunyahPoolGrow
  shrink := Q.gunyahPoolShrink
  queryRange := Q.gunyahPoolQueryRange

/-- What becomes of a request. -/
def fate (port : PoolPort σ) (op poolId offset len : ℕ) : PoolFate :=
  (Q.submit port.dev (request port op poolId offset len)).1

end PoolQueue

namespace PoolFate

/-- The result that the request returns. -/
def ret : PoolFate → ℤ
  | noDevice => -ENODEV
  | noMemory => -ENOMEM
  | notQueued err _ => err
  | timedOut => -ETIMEDOUT
  | returned resp => resp.ret

/-- The device wrote a whole `ret` field and it says success. -/
def WroteSuccess : PoolFate → Prop
  | returned resp => 8 ≤ resp.written.length ∧ leField resp.written 4 4 = 0
  | _ => False

/-- The device wrote the whole `extra` field. -/
def WroteExtra : PoolFate → Prop
  | returned resp => resp.written.length = 16
  | _ => False

/-- The device wrote the whole `extra` field and it is not zero. -/
def WroteBacked : PoolFate → Prop
  | returned resp => resp.written.length = 16 ∧ leField resp.written 8 8 ≠ 0
  | _ => False

/-- A response covers the `ret` field, or some byte that it did write there is not zero. -/
def CoversRet : PoolFate → Prop
  | returned resp => 8 ≤ resp.written.length ∨ ∃ b ∈ resp.written.drop 4, b ≠ 0
  | _ => True

/-- A response covers the `extra` field. -/
def CoversExtra : PoolFate → Prop
  | returned resp => resp.written.length = 16
  | _ => True

/-- A response to a query covers the `extra` field, or what it did write reports an error or leaves
the field zero. -/
def CoversRange : PoolFate → Prop
  | returned resp => resp.written.length = 16 ∨ leField resp.written 4 4 ≠ 0 ∨
      leField resp.written 8 8 = 0
  | _ => True

/-- The result after which a grow asks for the truth. -/
def Doubtful (f : PoolFate) : Prop := f.ret = -ETIMEDOUT ∨ f.ret = -EEXIST

end PoolFate

lemma PoolResp.ret_eq_zero (r : PoolResp) : r.ret = 0 ↔ leField r.written 4 4 = 0 := by
  rw [PoolResp.ret, leField_padTo]
  refine toS32_eq_zero ((leValue_lt _).trans_le ?_)
  calc 256^((r.written.drop 4).take 4).length ≤ 256^4 :=
        Nat.pow_le_pow_right (by norm_num) (List.length_take_le _ _)
    _ = 2^32 := by norm_num

lemma PoolResp.extra_eq (r : PoolResp) : r.extra = leField r.written 8 8 :=
  leField_padTo _ _ _ _

/-- A response too short for the `ret` field reads as success exactly when all that it wrote of the
field is zero. -/
theorem leField_short {l : List UInt8} (h : ¬ 8 ≤ l.length) :
    leField l 4 4 = 0 ↔ ¬ ∃ b ∈ l.drop 4, b ≠ 0 := by
  rw [leField, List.take_of_length_le (by rw [List.length_drop]; omega), leValue_eq_zero]
  simp

namespace PoolFate
variable {f : PoolFate}

/-- A request that reads as success was answered with one exactly when the response covers the
field. -/
theorem wroteSuccess_iff (h : f.ret = 0) : f.WroteSuccess ↔ f.CoversRet := by
  cases f with
  | noDevice | noMemory | timedOut => simp [ret] at h
  | notQueued err ne => exact absurd h ne
  | returned resp =>
    have hzero := resp.ret_eq_zero.mp h
    simp only [WroteSuccess, CoversRet, hzero, and_true]
    by_cases hlen : 8 ≤ resp.written.length
    · simp [hlen]
    · exact ⟨fun h => absurd h hlen,fun h => (h.resolve_left hlen).elim
        (fun b hb => absurd ⟨b,hb⟩ ((leField_short hlen).mp hzero))⟩

lemma WroteSuccess.ret (h : f.WroteSuccess) : f.ret = 0 := by
  cases f with
  | noDevice | noMemory | timedOut | notQueued => exact absurd h id
  | returned resp => exact resp.ret_eq_zero.mpr h.2

lemma coversRet_of_ne (h : f.ret ≠ 0) : f.CoversRet := by
  cases f with
  | noDevice | noMemory | timedOut | notQueued => trivial
  | returned resp =>
    by_cases hlen : 8 ≤ resp.written.length
    · exact .inl hlen
    · refine .inr ?_
      by_contra hno
      exact h (resp.ret_eq_zero.mpr ((leField_short hlen).mpr hno))

end PoolFate

variable {σ β : Type} (Q : PoolQueue σ) (B : DrmBuddy β)

lemma vgaPoolRequest_ret (port : PoolPort σ) (op poolId offset len : ℕ) (extra : Bool) :
    (Q.vgaPoolRequest port op poolId offset len extra).1 = (Q.fate port op poolId offset len).ret := by
  simp only [PoolQueue.vgaPoolRequest, PoolQueue.fate]
  cases (Q.submit port.dev (PoolQueue.request port op poolId offset len)).1 <;> rfl

/-- A value is stored exactly when the pointer is given and the buffers come back. -/
theorem vgaPoolRequest_stored (port : PoolPort σ) (op poolId offset len : ℕ) (extra : Bool) :
    (Q.vgaPoolRequest port op poolId offset len extra).2.1 =
      match Q.fate port op poolId offset len with
      | .returned resp => if extra then some resp.extra else none
      | _ => none := by
  simp only [PoolQueue.vgaPoolRequest, PoolQueue.fate]
  cases (Q.submit port.dev (PoolQueue.request port op poolId offset len)).1 <;> rfl

/-- A request returns 0 only for a success that the device wrote, and stores a value only from a
field that it wrote. -/
def PoolFate.Reported (f : PoolFate) (ret : ℤ) (stored : Option ℕ) : Prop :=
  (ret = 0 → f.WroteSuccess) ∧ (stored ≠ none → f.WroteExtra)

lemma vgaPoolRequest_reported_iff (port : PoolPort σ) (op poolId offset len : ℕ) (extra : Bool) :
    let f := Q.fate port op poolId offset len
    let r := Q.vgaPoolRequest port op poolId offset len extra
    f.Reported r.1 r.2.1 ↔ f.CoversRet ∧ (extra = true → f.CoversExtra) := by
  intro f r
  have hret : (r.1 = 0 → f.WroteSuccess) ↔ f.CoversRet := by
    rw [show r.1 = f.ret from vgaPoolRequest_ret Q port op poolId offset len extra]
    by_cases h : f.ret = 0
    · simp [h, PoolFate.wroteSuccess_iff h]
    · simp [h, PoolFate.coversRet_of_ne h]
  have hstored : (r.2.1 ≠ none → f.WroteExtra) ↔ (extra = true → f.CoversExtra) := by
    rw [show r.2.1 = _ from vgaPoolRequest_stored Q port op poolId offset len extra]
    show (match f with
      | .returned resp => if extra then some resp.extra else none
      | _ => none) ≠ none → f.WroteExtra ↔ _
    cases f <;> cases extra <;> simp [PoolFate.WroteExtra, PoolFate.CoversExtra]
  exact and_congr hret hstored

section Boundary
variable (g : Guest (PoolPort σ) β)

/-- What becomes of the SHARE of the next step. -/
def shareFate : PoolFate := Q.fate g.host VGP_OP_SHARE g.pool.poolId g.pool.backed g.pool.step

/-- What becomes of the query that may follow it. -/
def queryFate : PoolFate :=
  Q.fate (Q.gunyahPoolGrow g.host g.pool.poolId g.pool.backed g.pool.step).2 VGP_OP_QUERY
    g.pool.poolId g.pool.backed g.pool.step

/-- If a grow raises the boundary, the host wrote a success for the SHARE, or a non-zero `extra` for
the query that followed it. -/
def RaisedByHost : Prop :=
  g.pool.backed < (guestPoolGrowOneLocked Q.poolHost B g).2.pool.backed →
    (shareFate Q g).WroteSuccess ∨ (shareFate Q g).Doubtful ∧ (queryFate Q g).WroteBacked

/-- A grow that is attempted gets a response that covers the `ret` field and, when it asks for the
truth, one that covers the range. -/
def GrowCovered : Prop :=
  g.pool.CanGrow → (shareFate Q g).CoversRet ∧
    ((shareFate Q g).Doubtful → (queryFate Q g).CoversRange)

/-- The query confirms the range when its response reads as a success with a non-zero `extra`. -/
theorem query_confirms_iff (port : PoolPort σ) (poolId offset len : ℕ) :
    let f := Q.fate port VGP_OP_QUERY poolId offset len
    let q := Q.gunyahPoolQueryRange port poolId offset len
    q.1 = 0 ∧ q.2.1 = true → (f.CoversRange ↔ f.WroteBacked) := by
  intro f q hq
  have hret : q.1 = f.ret := vgaPoolRequest_ret Q port VGP_OP_QUERY poolId offset len true
  have hstored : q.2.1 = decide ((match f with
      | .returned resp => if true then some resp.extra else none
      | _ => none).getD 0 ≠ 0) :=
    congrArg (fun o : Option ℕ => decide (o.getD 0 ≠ 0))
      (vgaPoolRequest_stored Q port VGP_OP_QUERY poolId offset len true)
  rw [hret, hstored] at hq
  cases hf : f with
  | noDevice | noMemory | timedOut | notQueued => simp [hf] at hq
  | returned resp =>
    obtain ⟨hzero,hextra⟩ := hq
    simp only [hf, if_true, Option.getD_some, decide_eq_true_eq, resp.extra_eq] at hextra
    rw [hf] at hzero
    have hfield := resp.ret_eq_zero.mp hzero
    simp [PoolFate.CoversRange, PoolFate.WroteBacked, hfield, hextra]

/-- A response to a query that does not cover the range reads as a confirmation. -/
theorem query_reads_backed (port : PoolPort σ) (poolId offset len : ℕ)
    (h : ¬ (Q.fate port VGP_OP_QUERY poolId offset len).CoversRange) :
    let q := Q.gunyahPoolQueryRange port poolId offset len
    q.1 = 0 ∧ q.2.1 = true := by
  intro q
  have hret : q.1 = _ := vgaPoolRequest_ret Q port VGP_OP_QUERY poolId offset len true
  have hstored : q.2.1 = decide (_ ≠ 0) :=
    congrArg (fun o : Option ℕ => decide (o.getD 0 ≠ 0))
      (vgaPoolRequest_stored Q port VGP_OP_QUERY poolId offset len true)
  generalize Q.fate port VGP_OP_QUERY poolId offset len = f at h hret hstored
  cases f with
  | noDevice | noMemory | timedOut | notQueued => exact absurd trivial h
  | returned resp =>
    simp only [PoolFate.CoversRange, not_or, not_not] at h
    rw [hret, hstored]
    simp [PoolFate.ret, resp.ret_eq_zero, resp.extra_eq, h]

/-- When the growth request succeeds, the boundary was raised by the host exactly when the responses
cover what is read of them. -/
theorem growRequest_covered (h : (growRequest Q.poolHost B g).1 = 0) :
    ((shareFate Q g).WroteSuccess ∨ (shareFate Q g).Doubtful ∧ (queryFate Q g).WroteBacked) ↔
      (shareFate Q g).CoversRet ∧ ((shareFate Q g).Doubtful → (queryFate Q g).CoversRange) := by
  have hans := growRequest_answer Q.poolHost B g
  have hret : (Q.poolHost.grow g.host g.pool.poolId g.pool.backed g.pool.step).1 =
      (shareFate Q g).ret := vgaPoolRequest_ret Q _ _ _ _ _ _
  generalize growRequest Q.poolHost B g = r at hans h
  cases hans with
  | clear asked ht he =>
    rw [asked] at hret
    obtain rfl : _ = 0 := h
    have hclear : ¬ (shareFate Q g).Doubtful := by simp [PoolFate.Doubtful, ← hret]
    simp [hclear, PoolFate.wroteSuccess_iff hret.symm]
  | @confirmed ret s s' asked doubt queried =>
    have hport : (Q.gunyahPoolGrow g.host g.pool.poolId g.pool.backed g.pool.step).2 = s :=
      congrArg Prod.snd asked
    have hquery : (queryFate Q g).CoversRange ↔ (queryFate Q g).WroteBacked := by
      refine query_confirms_iff Q _ _ _ _ ?_
      rw [hport]
      exact ⟨congrArg Prod.fst queried,congrArg (fun q => q.2.1) queried⟩
    rw [asked] at hret
    have hdoubt : (shareFate Q g).Doubtful := by rwa [PoolFate.Doubtful, ← hret]
    have hne : (shareFate Q g).ret ≠ 0 := by
      rw [← hret]
      rcases doubt with rfl | rfl <;> simp
    have hfail : ¬ (shareFate Q g).WroteSuccess := fun h => hne h.ret
    simp [hdoubt, hfail, hquery, PoolFate.coversRet_of_ne hne]
  | unconfirmed asked doubt => rcases doubt with rfl | rfl <;> simp at h

/-- When the growth request fails, the responses read the same as what the host wrote. -/
theorem growRequest_failed_covered (h : (growRequest Q.poolHost B g).1 ≠ 0) :
    (shareFate Q g).CoversRet ∧ ((shareFate Q g).Doubtful → (queryFate Q g).CoversRange) := by
  have hans := growRequest_answer Q.poolHost B g
  have hret : (Q.poolHost.grow g.host g.pool.poolId g.pool.backed g.pool.step).1 =
      (shareFate Q g).ret := vgaPoolRequest_ret Q _ _ _ _ _ _
  generalize growRequest Q.poolHost B g = r at hans h
  cases hans with
  | clear asked ht he =>
    rw [asked] at hret
    refine ⟨PoolFate.coversRet_of_ne (hret ▸ h),fun hd => ?_⟩
    rw [PoolFate.Doubtful, ← hret] at hd
    exact absurd hd (not_or.mpr ⟨ht,he⟩)
  | confirmed => exact absurd rfl h
  | @unconfirmed ret s s' qret answer asked doubt queried no =>
    have hport : (Q.gunyahPoolGrow g.host g.pool.poolId g.pool.backed g.pool.step).2 = s :=
      congrArg Prod.snd asked
    rw [asked] at hret
    refine ⟨PoolFate.coversRet_of_ne (hret ▸ h),fun _ => ?_⟩
    by_contra hshort
    have hconfirm := query_reads_backed Q _ _ _ _ hshort
    rw [hport] at hconfirm
    have hq : Q.gunyahPoolQueryRange s g.pool.poolId g.pool.backed g.pool.step = (qret,answer,s') :=
      queried
    rw [hq] at hconfirm
    simp [no hconfirm.1] at hconfirm

/-- A request returns 0 only for a whole success that the device wrote and stores only a whole
`extra` field exactly when its response covers them; and a grow raises the boundary only on the
host's word exactly when the responses of its SHARE and of its query cover what it reads. -/
theorem vgaPoolRequest_reported_iff_covered :
    (∀ (port : PoolPort σ) (op poolId offset len : ℕ) (extra : Bool),
      let f := Q.fate port op poolId offset len
      let r := Q.vgaPoolRequest port op poolId offset len extra
      f.Reported r.1 r.2.1 ↔ f.CoversRet ∧ (extra = true → f.CoversExtra)) ∧
    ∀ g : Guest (PoolPort σ) β, RaisedByHost Q B g ↔ GrowCovered Q g := by
  refine ⟨vgaPoolRequest_reported_iff Q,fun g => ?_⟩
  have hout := guestPoolGrowOneLocked_outcome Q.poolHost B g
  simp only [RaisedByHost, GrowCovered]
  generalize guestPoolGrowOneLocked Q.poolHost B g = r at hout ⊢
  cases hout with
  | refused _ stuck => simp [stuck]
  | failed can ne =>
    exact ⟨fun _ _ => growRequest_failed_covered Q B g ne,fun _ h => by simp at h⟩
  | raised can ok =>
    have hlt : g.pool.backed < g.pool.backed+g.pool.step :=
      Nat.lt_add_of_pos_right (Nat.pos_of_ne_zero can.1)
    rw [← growRequest_covered Q B g ok]
    simp [can, hlt]

end Boundary

/-- A device that hands every buffer back without writing to it. -/
def PoolQueue.silent : PoolQueue Unit where
  submit _ _ := (.returned ⟨[],by decide⟩,())

/-- The empty response to a SHARE reads as success and raises the boundary. -/
theorem vgaPoolRequest_silent :
    let g : Guest (PoolPort Unit) FirstFit :=
      ⟨⟨0x100000000,2*SZ_2M,0,SZ_2M,SZ_2M,SZ_2M,true,false⟩,⟨2*SZ_2M,[]⟩,⟨(),1⟩,[]⟩
    let f := PoolQueue.silent.fate g.host VGP_OP_SHARE 0 SZ_2M SZ_2M
    let r := PoolQueue.silent.vgaPoolRequest g.host VGP_OP_SHARE 0 SZ_2M SZ_2M false
    ¬ f.Reported r.1 r.2.1 ∧
      (guestPoolGrowOneLocked PoolQueue.silent.poolHost FirstFit.buddy g).2.pool.backed = 2*SZ_2M ∧
      ¬ RaisedByHost PoolQueue.silent FirstFit.buddy g := by
  refine ⟨fun h => ?_,by decide,fun h => ?_⟩
  · exact absurd (h.1 (by decide)).1 (by decide)
  · rcases h (by decide) with h | ⟨-,h⟩
    · exact absurd h.1 (by decide)
    · exact absurd h.1 (by decide)

end GuestAdditions

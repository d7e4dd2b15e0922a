import GuestAdditions.GunyahGuest.AcceptQueue

/-! The accept device when answers are lost: the parcels that the resource manager has mapped, and
whether the table still leads to them. -/
namespace GuestAdditions

section Fate
variable {σ : Type} (S : RmServer σ) (ready : Bool)

/-- A RELEASE of its address and the removal of the device both ask for the release of every parcel
that is mapped. -/
def NoneLost (vga : VgaDev (RmLink σ)) : Prop :=
  ∀ p ∈ S.mapped vga.rm.port.server,
    (vgaDoRelease S.port ready p.gpa vga).2.rm.port.asked =
        RmRequest.release p.handle::vga.rm.port.asked ∧
      ∃ asked, (vgaRemove S.port ready vga).rm.port.asked = asked ++ vga.rm.port.asked ∧
        RmRequest.release p.handle ∈ asked

/-- What becomes of the next call. -/
def VgaDev.nextFate (vga : VgaDev (RmLink σ)) : RpcFate := vga.rm.port.fates.headD .answered

/-- The request is an accept that arrives at the resource manager and that it performs. -/
def VgaReq.Performed (vga : VgaDev (RmLink σ)) (req : VgaReq) : Prop :=
  ready = true ∧ ¬ req.len < 32 ∧ req.op = VGA_OP_ACCEPT ∧ req.entAlloc = true ∧
    ¬ (req.handle = 0 ∨ req.size = 0) ∧
    (vga.nextFate = .answered ∨ vga.nextFate = .lost true) ∧
    (S.serve vga.rm.port.server (.accept req.handle req.gpa req.size)).1 = 0

instance (vga : VgaDev (RmLink σ)) (req : VgaReq) : Decidable (req.Performed S ready vga) :=
  inferInstanceAs (Decidable (_ ∧ _))

/-- A performed accept finds no entry at its address, and its answer comes in time, or the first entry
there has its handle. -/
def VgaReq.Recorded (vga : VgaDev (RmLink σ)) (req : VgaReq) : Prop :=
  req.Performed S ready vga →
    Keyed.firstAt Parcel.gpa req.gpa vga.accepted = none ∧ vga.nextFate = .answered ∨
      (Keyed.firstAt Parcel.gpa req.gpa vga.accepted).map Parcel.handle = some req.handle

instance (vga : VgaDev (RmLink σ)) (req : VgaReq) : Decidable (req.Recorded S ready vga) :=
  inferInstanceAs (Decidable (_ → _))

/-- The first entry at the address of a mapped parcel has its handle. -/
def Covered (vga : VgaDev (RmLink σ)) : Prop :=
  Keyed.Leads Parcel.gpa Parcel.handle vga.accepted (S.mapped vga.rm.port.server)

/-- What holds in every state, whatever is lost. -/
structure Linked (vga : VgaDev (RmLink σ)) : Prop where
  idle : vga.rm.port.answers = []
  handles : ((S.mapped vga.rm.port.server).map Parcel.handle).Nodup
  available : ready = false → S.mapped vga.rm.port.server = [] ∧ vga.accepted = []

end Fate

section Proofs
variable {σ : Type} {S : RmServer σ} {ready : Bool} {vga : VgaDev (RmLink σ)}

lemma Linked.ready_of_entry (h : Linked S ready vga) (hne : vga.accepted ≠ []) : ready = true :=
  Bool.eq_true_of_not_eq_false fun hr => hne (h.available hr).2

lemma vgaDoRelease_none {gpa : UInt64} (hent : Keyed.firstAt Parcel.gpa gpa vga.accepted = none) :
    vgaDoRelease S.port ready gpa vga = (-ENOENT,vga) := by
  rw [vgaDoRelease, hent]

/-- A RELEASE asks for the handle of the first entry at the address. -/
theorem vgaDoRelease_asked (h : Linked S ready vga) {gpa : UInt64} {ent : Parcel}
    (hent : Keyed.firstAt Parcel.gpa gpa vga.accepted = some ent) :
    (vgaDoRelease S.port ready gpa vga).2.rm.port.asked =
      RmRequest.release ent.handle::vga.rm.port.asked := by
  have hne : vga.accepted ≠ [] := List.ne_nil_of_mem (Keyed.mem_of_firstAt hent).1
  have hcall := (S.call_asked (.release ent.handle) h.idle).1
  rw [vgaDoRelease, hent]
  simp only [S.memRelease_eq_call (h.ready_of_entry hne)]
  split_ifs <;> exact hcall

/-- Nothing is lost where the table covers the parcels. -/
theorem noneLost_iff_covered (h : Linked S ready vga) : NoneLost S ready vga ↔ Covered S vga := by
  constructor
  · intro hn p hp
    have hasked := (hn p hp).1
    cases hent : Keyed.firstAt Parcel.gpa p.gpa vga.accepted with
    | none =>
      rw [vgaDoRelease_none hent] at hasked
      exact absurd hasked.symm (List.cons_ne_self _ _)
    | some ent =>
      rw [vgaDoRelease_asked h hent] at hasked
      obtain ⟨hhead,-⟩ := List.cons.inj hasked
      exact congrArg some (RmRequest.release.inj hhead)
  · intro hc p hp
    obtain ⟨ent,hent,hhandle⟩ := Option.map_eq_some_iff.mp (hc p hp)
    refine ⟨hhandle ▸ vgaDoRelease_asked h hent,_,(vgaRemove_asked h.ready_of_entry h.idle).1,?_⟩
    rw [List.mem_reverse, List.mem_map]
    exact ⟨ent,(Keyed.mem_of_firstAt hent).1,congrArg _ hhandle⟩

/-- What a request can do to the parcels and to the table. -/
inductive RequestOutcome (S : RmServer σ) (ready : Bool) (vga : VgaDev (RmLink σ)) (req : VgaReq) :
    VgaDev (RmLink σ) → Prop
  | kept {vga'} (unperformed : ¬ req.Performed S ready vga) (idle : vga'.rm.port.answers = [])
      (mapped : (S.mapped vga'.rm.port.server).Perm (S.mapped vga.rm.port.server))
      (table : vga'.accepted = vga.accepted) : RequestOutcome S ready vga req vga'
  | gained {vga'} (performed : req.Performed S ready vga) (idle : vga'.rm.port.answers = [])
      (mapped : (S.mapped vga'.rm.port.server).Perm
        (⟨req.gpa,req.size,req.handle⟩::S.mapped vga.rm.port.server))
      (fresh : ∀ p ∈ S.mapped vga.rm.port.server, p.handle ≠ req.handle)
      (table : vga'.accepted = if vga.nextFate = .answered then
        vga.accepted ++ [⟨req.gpa,req.size,req.handle⟩] else vga.accepted) :
      RequestOutcome S ready vga req vga'
  | forgotten {vga' p} (unperformed : ¬ req.Performed S ready vga) (idle : vga'.rm.port.answers = [])
      (mapped : (S.mapped vga.rm.port.server).Perm (p::S.mapped vga'.rm.port.server))
      (table : vga'.accepted = vga.accepted) : RequestOutcome S ready vga req vga'
  | dropped {vga' ent p} (unperformed : ¬ req.Performed S ready vga)
      (idle : vga'.rm.port.answers = [])
      (mapped : (S.mapped vga.rm.port.server).Perm (p::S.mapped vga'.rm.port.server))
      (first : Keyed.firstAt Parcel.gpa req.gpa vga.accepted = some ent)
      (same : p.handle = ent.handle)
      (table : vga'.accepted = Keyed.eraseAt Parcel.gpa req.gpa vga.accepted) :
      RequestOutcome S ready vga req vga'

namespace RequestOutcome
variable {req : VgaReq} {vga' : VgaDev (RmLink σ)}

lemma linked (h : Linked S ready vga) (hout : RequestOutcome S ready vga req vga') :
    Linked S ready vga' := by
  cases hout with
  | kept _ idle mapped table =>
    refine ⟨idle,(mapped.map _).nodup_iff.mpr h.handles,fun hr => ⟨?_,?_⟩⟩
    · exact ((h.available hr).1 ▸ mapped).eq_nil
    · exact table.trans (h.available hr).2
  | gained performed idle mapped fresh =>
    refine ⟨idle,(mapped.map _).nodup_iff.mpr ?_,fun hr => absurd (hr.symm.trans performed.1) (by simp)⟩
    rw [List.map_cons, List.nodup_cons]
    refine ⟨fun hmem => ?_,h.handles⟩
    obtain ⟨p,hp,hhandle⟩ := List.mem_map.mp hmem
    exact fresh p hp hhandle
  | forgotten _ idle mapped table =>
    have hn := (mapped.map _).nodup_iff.mp h.handles
    refine ⟨idle,(List.nodup_cons.mp hn).2,fun hr => ?_⟩
    exact absurd ((h.available hr).1 ▸ mapped).nil_eq (List.cons_ne_nil _ _).symm
  | dropped _ idle mapped =>
    have hn := (mapped.map _).nodup_iff.mp h.handles
    refine ⟨idle,(List.nodup_cons.mp hn).2,fun hr => ?_⟩
    exact absurd ((h.available hr).1 ▸ mapped).nil_eq (List.cons_ne_nil _ _).symm

/-- The table covers the parcels after a request just where the request is recorded. -/
theorem covered_iff (h : Linked S ready vga) (hc : Covered S vga)
    (hout : RequestOutcome S ready vga req vga') : Covered S vga' ↔ req.Recorded S ready vga := by
  cases hout with
  | kept unperformed _ mapped table =>
    refine iff_of_true ?_ fun hp => absurd hp unperformed
    rw [Covered, table]
    exact hc.mono mapped.subset
  | gained performed _ mapped _ table =>
    rw [Covered, Keyed.leads_perm mapped, table, VgaReq.Recorded, imp_iff_right performed]
    split_ifs with hfate
    · rw [Keyed.leads_cons_append hc]
      cases Keyed.firstAt Parcel.gpa req.gpa vga.accepted <;> simp [hfate]
    · rw [Keyed.leads_cons hc]
      cases Keyed.firstAt Parcel.gpa req.gpa vga.accepted <;> simp [hfate]
  | forgotten unperformed _ mapped table =>
    refine iff_of_true ?_ fun hp => absurd hp unperformed
    rw [Covered, table]
    exact hc.mono fun p hp => mapped.symm.subset (.tail _ hp)
  | dropped unperformed _ mapped first same table =>
    refine iff_of_true ?_ fun hp => absurd hp unperformed
    rw [Covered, table]
    exact hc.erase first mapped same h.handles

end RequestOutcome

/-- A performed release takes one parcel with the handle away. -/
theorem RmServer.Sound.serve_release (hS : S.Sound) (s : σ) (handle : UInt32) :
    (S.mapped (S.serve s (.release handle)).2).Perm (S.mapped s) ∨
      ∃ p : Parcel, p.handle = handle ∧
        (S.mapped s).Perm (p::S.mapped (S.serve s (.release handle)).2) := by
  obtain ⟨⟨code,s'⟩,served⟩ : ∃ a, S.serve s (.release handle) = a := ⟨_,rfl⟩
  rw [served]
  by_cases hcode : code = 0
  · exact .inr (hS.released (hcode ▸ served))
  · exact .inl (hS.refused served hcode)

/-- An accept that does not arrive is not performed. -/
theorem unperformed_of_fate {req : VgaReq} {fate : RpcFate} (h : vga.rm.port.fates.headD .answered = fate)
    (answered : fate ≠ .answered) (lost : fate ≠ .lost true) : ¬ req.Performed S ready vga := by
  intro ⟨_,_,_,_,_,hfate,_⟩
  rw [VgaDev.nextFate, h] at hfate
  exact hfate.elim answered lost

lemma unperformed_of_served {req : VgaReq} {code : UInt32} {s' : σ}
    (served : S.serve vga.rm.port.server (.accept req.handle req.gpa req.size) = (code,s'))
    (ne : code ≠ 0) : ¬ req.Performed S ready vga := by
  intro ⟨_,_,_,_,_,_,hserve⟩
  rw [served] at hserve
  exact ne hserve

lemma vgaDoAccept_outcome (hS : S.Sound) (h : Linked S ready vga) {req : VgaReq}
    (hlen : ¬ req.len < 32) (hop : req.op = VGA_OP_ACCEPT) :
    RequestOutcome S ready vga req
      (vgaDoAccept S.port ready req.entAlloc req.handle req.gpa req.size vga).2 := by
  rw [vgaDoAccept]
  split_ifs with hready hargs halloc
  · exact .kept (fun hp => absurd (hready.symm.trans hp.1) (by simp)) h.idle (.refl _) rfl
  · exact .kept (fun hp => hp.2.2.2.2.1 hargs) h.idle (.refl _) rfl
  · exact .kept (fun hp => absurd (halloc.symm.trans hp.2.2.2.1) (by simp)) h.idle (.refl _) rfl
  have hperformed (hfate : vga.nextFate = .answered ∨ vga.nextFate = .lost true)
      (hserve : (S.serve vga.rm.port.server (.accept req.handle req.gpa req.size)).1 = 0) :
      req.Performed S ready vga :=
    ⟨Bool.eq_true_of_not_eq_false hready,hlen,hop,Bool.eq_true_of_not_eq_false halloc,hargs,hfate,hserve⟩
  have hout := S.call_outcome (.accept req.handle req.gpa req.size) h.idle
  simp only [S.memAccept_eq_call (Bool.eq_true_of_not_eq_false hready)]
  generalize S.call (.accept req.handle req.gpa req.size) vga.rm = r at hout ⊢
  cases hout with
  | @unsent err ne fate =>
    have hne : (- EIO : ℤ) ≠ 0 := by decide
    rw [if_pos hne]
    exact .kept (unperformed_of_fate fate (by simp) (by simp)) rfl (.refl _) rfl
  | done fate served =>
    obtain ⟨hmapped,hfresh⟩ := hS.accepted served
    rw [if_neg (by simp)]
    refine .gained (hperformed (.inl fate) (by rw [served])) rfl hmapped (fun p hp => (hfresh p hp).1) ?_
    exact (if_pos fate).symm
  | refused fate served ne =>
    rw [if_pos (RmRequest.refused_ne _)]
    exact .kept (unperformed_of_served served ne) rfl (hS.refused served ne) rfl
  | @lost performed fate =>
    have hne : (-ETIMEDOUT : ℤ) ≠ 0 := by decide
    have hunanswered : vga.nextFate ≠ .answered := by
      rw [VgaDev.nextFate, fate]
      simp
    rw [if_pos hne]
    cases performed with
    | false => exact .kept (unperformed_of_fate fate (by simp) (by simp)) rfl (.refl _) rfl
    | true =>
      obtain ⟨⟨code,s'⟩,served⟩ :
        ∃ a, S.serve vga.rm.port.server (.accept req.handle req.gpa req.size) = a := ⟨_,rfl⟩
      simp only [served, if_true]
      by_cases hcode : code = 0
      · subst hcode
        obtain ⟨hmapped,hfresh⟩ := hS.accepted served
        refine .gained (hperformed (.inr fate) (by rw [served])) rfl hmapped
          (fun p hp => (hfresh p hp).1) ?_
        exact (if_neg hunanswered).symm
      · exact .kept (unperformed_of_served served hcode) rfl (hS.refused served hcode) rfl

lemma vgaDoRelease_outcome (hS : S.Sound) (h : Linked S ready vga) {req : VgaReq}
    (hop : req.op = VGA_OP_RELEASE) :
    RequestOutcome S ready vga req (vgaDoRelease S.port ready req.gpa vga).2 := by
  have unperformed : ¬ req.Performed S ready vga := fun hp =>
    absurd (hop.symm.trans hp.2.2.1) (by decide)
  cases hent : Keyed.firstAt Parcel.gpa req.gpa vga.accepted with
  | none =>
    rw [vgaDoRelease_none hent]
    exact .kept unperformed h.idle (.refl _) rfl
  | some ent =>
    have hready := h.ready_of_entry (List.ne_nil_of_mem (Keyed.mem_of_firstAt hent).1)
    have hserve := hS.serve_release vga.rm.port.server ent.handle
    have hout := S.call_outcome (.release ent.handle) h.idle
    rw [vgaDoRelease, hent]
    simp only [S.memRelease_eq_call hready]
    generalize S.call (.release ent.handle) vga.rm = r at hout ⊢
    cases hout with
    | unsent =>
      have hne : (- EIO : ℤ) ≠ 0 := by decide
      rw [if_pos hne]
      exact .kept unperformed rfl (.refl _) rfl
    | done fate served =>
      obtain ⟨p,hhandle,hmapped⟩ := hS.released served
      rw [if_neg (by simp)]
      exact .dropped unperformed rfl hmapped hent hhandle rfl
    | refused fate served ne =>
      rw [if_pos (RmRequest.refused_ne _)]
      exact .kept unperformed rfl (hS.refused served ne) rfl
    | @lost performed fate =>
      have hne : (-ETIMEDOUT : ℤ) ≠ 0 := by decide
      rw [if_pos hne]
      cases performed with
      | false => exact .kept unperformed rfl (.refl _) rfl
      | true =>
        rcases hserve with hmapped | ⟨p,-,hmapped⟩
        · exact .kept unperformed rfl hmapped rfl
        · exact .forgotten unperformed rfl hmapped rfl

lemma vgaRequest_outcome (hS : S.Sound) (h : Linked S ready vga) (req : VgaReq) :
    RequestOutcome S ready vga req (vgaRequest S.port ready req vga).2 := by
  rw [vgaRequest]
  split_ifs with hlen hacc hrel
  · exact .kept (fun hp => hp.2.1 hlen) h.idle (.refl _) rfl
  · exact vgaDoAccept_outcome hS h hlen hacc
  · exact vgaDoRelease_outcome hS h hrel
  · exact .kept (fun hp => hacc hp.2.2.1) h.idle (.refl _) rfl

lemma vgaSendCompletion_rm (req : VgaReq) (ret : ℤ) (vga : VgaDev (RmLink σ)) :
    (vgaSendCompletion req ret vga).rm = vga.rm ∧
      (vgaSendCompletion req ret vga).accepted = vga.accepted := by
  unfold vgaSendCompletion
  split_ifs <;> exact ⟨rfl,rfl⟩

lemma Linked.send (h : Linked S ready vga) (req : VgaReq) (ret : ℤ) :
    Linked S ready (vgaSendCompletion req ret vga) := by
  obtain ⟨hrm,htable⟩ := vgaSendCompletion_rm req ret vga
  exact ⟨hrm ▸ h.idle,hrm ▸ h.handles,fun hr => hrm ▸ htable ▸ h.available hr⟩

lemma covered_send (req : VgaReq) (ret : ℤ) :
    Covered S (vgaSendCompletion req ret vga) ↔ Covered S vga := by
  obtain ⟨hrm,htable⟩ := vgaSendCompletion_rm req ret vga
  rw [Covered, Covered, hrm, htable]

lemma vgaWorkFunc_append (served : List VgaReq) (req : VgaReq) :
    vgaWorkFunc S.port ready (served ++ [req]) vga =
      vgaServe S.port ready (vgaWorkFunc S.port ready served vga) req := by
  rw [vgaWorkFunc, List.foldl_append]
  rfl

lemma Linked.serve (hS : S.Sound) (h : Linked S ready vga) (req : VgaReq) :
    Linked S ready (vgaServe S.port ready vga req) :=
  ((vgaRequest_outcome hS h req).linked h).send req _

lemma Linked.run (hS : S.Sound) (h : Linked S ready vga) (reqs : List VgaReq) :
    Linked S ready (vgaWorkFunc S.port ready reqs vga) := by
  induction reqs generalizing vga with
  | nil => exact h
  | cons req reqs ih => exact ih (h.serve hS req)

/-- One request loses nothing just where it is recorded. -/
theorem noneLost_serve_iff (hS : S.Sound) (h : Linked S ready vga) (hn : NoneLost S ready vga)
    (req : VgaReq) : NoneLost S ready (vgaServe S.port ready vga req) ↔ req.Recorded S ready vga := by
  rw [noneLost_iff_covered (h.serve hS req), vgaServe, covered_send]
  exact (vgaRequest_outcome hS h req).covered_iff h ((noneLost_iff_covered h).mp hn)

/-- The device before its first request, with the fates of the calls to come. -/
def VgaDev.start (seq : UInt16) (server : σ) (fates : List RpcFate) : VgaDev (RmLink σ) :=
  ⟨⟨seq,⟨server,[],fates,[]⟩⟩,[],[]⟩

lemma VgaDev.start_linked {server : σ} (hempty : S.mapped server = []) (seq : UInt16)
    (fates : List RpcFate) : Linked S ready (.start seq server fates) :=
  ⟨rfl,by rw [start, hempty]; exact .nil,fun _ => ⟨hempty,rfl⟩⟩

end Proofs

section Run
variable {σ : Type} {S : RmServer σ} {ready : Bool} {server : σ} {seq : UInt16}
  {fates : List RpcFate} {reqs : List VgaReq}

/-- In every run, over any requests and any fates of the calls: no parcel is lost in any state that is
reached if and only if every request is recorded in the state that it finds. -/
theorem vga_noneLost_iff_recorded (hS : S.Sound) (hempty : S.mapped server = []) :
    (∀ n, NoneLost S ready (vgaWorkFunc S.port ready (reqs.take n) (.start seq server fates))) ↔
    ∀ i (_ : i < reqs.length), reqs[i].Recorded S ready
      (vgaWorkFunc S.port ready (reqs.take i) (.start seq server fates)) := by
  have hlinked : ∀ n, Linked S ready
      (vgaWorkFunc S.port ready (reqs.take n) (.start seq server fates)) :=
    fun n => (VgaDev.start_linked hempty seq fates).run hS _
  have hstep : ∀ i (_ : i < reqs.length),
      vgaWorkFunc S.port ready (reqs.take (i+1)) (.start seq server fates) =
        vgaServe S.port ready
          (vgaWorkFunc S.port ready (reqs.take i) (.start seq server fates)) reqs[i] := by
    intro i hi
    rw [List.take_succ_eq_append_getElem hi, vgaWorkFunc_append]
  constructor
  · intro hnone i hi
    have hafter := hnone (i+1)
    rw [hstep i hi] at hafter
    exact (noneLost_serve_iff hS (hlinked i) (hnone i) _).mp hafter
  · intro hrecorded n
    induction n with
    | zero =>
      intro p hp
      exact absurd (hempty ▸ hp) List.not_mem_nil
    | succ i ih =>
      by_cases hi : i < reqs.length
      · rw [hstep i hi]
        exact (noneLost_serve_iff hS (hlinked i) ih _).mpr (hrecorded i hi)
      · rw [List.take_of_length_le (by omega), ← List.take_of_length_le (not_lt.mp hi)]
        exact ih

/-- A lost accept that was not performed, and a lost release with nothing accepted at its address
after it. -/
theorem vga_noneLost_iff_recorded_lost :
    let fates := [.lost false,.answered,.answered,.lost true,.lost false]
    let reqs := [.whole 1 VGA_OP_ACCEPT 7 0x1000 0x1000,.whole 2 VGA_OP_ACCEPT 7 0x1000 0x1000,
      .whole 3 VGA_OP_ACCEPT 8 0x8000 0x1000,.whole 4 VGA_OP_RELEASE 0 0x8000 0,
      .whole 5 VGA_OP_RELEASE 0 0x1000 0]
    let vga := vgaWorkFunc tableServer.port true reqs (.start 1 [] fates)
    (vga.rm.port.server = [⟨0x1000,0x1000,7⟩] ∧ vga.accepted.length = 2) ∧
      NoneLost tableServer true vga := by
  intro fates reqs vga
  have hrecorded := (@vga_noneLost_iff_recorded _ tableServer true [] 1 fates reqs tableServer_sound
    rfl).mpr (by decide +kernel)
  exact ⟨by decide +kernel,hrecorded 5⟩

/-- An accept that is performed and whose answer is lost, and an accept at the address of an entry
whose release was lost: neither parcel is released by a RELEASE of its address. -/
theorem vga_parcel_lost :
    let accept := VgaReq.whole 1 VGA_OP_ACCEPT 7 0x1000 0x1000
    let release := VgaReq.whole 2 VGA_OP_RELEASE 0 0x1000 0
    let reaccept := VgaReq.whole 3 VGA_OP_ACCEPT 8 0x1000 0x1000
    let lost := vgaWorkFunc tableServer.port true [accept] (.start 1 [] [.lost true])
    let shadowed := vgaWorkFunc tableServer.port true [accept,release,reaccept]
      (.start 1 [] [.answered,.lost true,.answered])
    (lost.rm.port.server = [⟨0x1000,0x1000,7⟩] ∧
      (vgaDoRelease tableServer.port true 0x1000 lost).1 = -ENOENT ∧
      (vgaDoRelease tableServer.port true 0x1000 lost).2.rm.port.asked = lost.rm.port.asked ∧
      (vgaRemove tableServer.port true lost).rm.port.asked = lost.rm.port.asked) ∧
    (shadowed.rm.port.server = [⟨0x1000,0x1000,8⟩] ∧
      (vgaDoRelease tableServer.port true 0x1000 shadowed).2.rm.port.asked =
        .release 7::shadowed.rm.port.asked) ∧
    ¬ NoneLost tableServer true lost ∧ ¬ NoneLost tableServer true shadowed := by
  intro accept release reaccept lost shadowed
  have hlost : lost.rm.port.server = [⟨0x1000,0x1000,7⟩] ∧
      (vgaDoRelease tableServer.port true 0x1000 lost).1 = -ENOENT ∧
      (vgaDoRelease tableServer.port true 0x1000 lost).2.rm.port.asked = lost.rm.port.asked ∧
      (vgaRemove tableServer.port true lost).rm.port.asked = lost.rm.port.asked := by decide +kernel
  have hshadowed : shadowed.rm.port.server = [⟨0x1000,0x1000,8⟩] ∧
      (vgaDoRelease tableServer.port true 0x1000 shadowed).2.rm.port.asked =
        .release 7::shadowed.rm.port.asked := by decide +kernel
  clear_value lost shadowed
  refine ⟨hlost,hshadowed,?_,?_⟩
  · intro h
    have hasked := (h ⟨0x1000,0x1000,7⟩ (hlost.1 ▸ List.mem_singleton_self _)).1
    exact absurd (hlost.2.2.1.symm.trans hasked) (List.cons_ne_self _ _).symm
  · intro h
    have hasked := (h ⟨0x1000,0x1000,8⟩ (hshadowed.1 ▸ List.mem_singleton_self _)).1
    exact absurd (List.cons.inj (hshadowed.2.symm.trans hasked)).1 (by decide)

end Run
end GuestAdditions

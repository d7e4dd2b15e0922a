import GuestAdditions.GunyahGuest.ResourceManager
import GuestAdditions.Library.Keyed

/-! Queue 0 of the accept device: `vga_work_func` with the table of accepted parcels, and `vga_remove`.
With a resource manager that answers every request, the table is a map from addresses to parcels. -/
namespace GuestAdditions

abbrev VGA_OP_ACCEPT : UInt32 := 1
abbrev VGA_OP_RELEASE : UInt32 := 2

/-- A used buffer of the request queue: the fields of `struct virtio_gunyah_accept_req`, of 32 bytes,
as they are found in it, and the used length. The flags tell whether the allocations made for the
request succeed and the completion ring has room. -/
structure VgaReq where
  reqId : UInt32
  op : UInt32
  handle : UInt32
  gpa : UInt64
  size : UInt64
  len : ℕ
  entAlloc : Bool
  compAlloc : Bool
  ringFree : Bool

/-- `struct vga_dev` with the resource manager's client and the completions sent, the newest first. -/
structure VgaDev (σ : Type) where
  rm : RmClient σ
  accepted : List Parcel
  completions : List (UInt32 × ℤ)

section Driver
variable {σ : Type} (T : RmPort σ) (ready : Bool)

def vgaDoAccept (entAlloc : Bool) (handle : UInt32) (gpa size : UInt64) (vga : VgaDev σ) :
    ℤ × VgaDev σ :=
  if ready = false then (-ENODEV,vga)
  else if handle = 0 ∨ size = 0 then (-EINVAL,vga)
  else if entAlloc = false then (-ENOMEM,vga)
  else
    let r := gunyahGuestMemAccept T ready handle.toNat gpa.toNat size.toNat vga.rm
    if r.1 ≠ 0 then (r.1,{ vga with rm := r.2 })
    else (0,{ vga with rm := r.2, accepted := vga.accepted ++ [⟨gpa,size,handle⟩] })

def vgaDoRelease (gpa : UInt64) (vga : VgaDev σ) : ℤ × VgaDev σ :=
  match Keyed.firstAt Parcel.gpa gpa vga.accepted with
  | none => (-ENOENT,vga)
  | some ent =>
    let r := gunyahGuestMemRelease T ready ent.handle.toNat vga.rm
    if r.1 ≠ 0 then (r.1,{ vga with rm := r.2 })
    else (0,{ vga with rm := r.2, accepted := Keyed.eraseAt Parcel.gpa gpa vga.accepted })

def vgaSendCompletion (req : VgaReq) (ret : ℤ) (vga : VgaDev σ) : VgaDev σ :=
  if req.compAlloc = false then vga
  else if req.ringFree = false then vga
  else { vga with completions := (req.reqId,ret)::vga.completions }

/-- The switch of `vga_work_func`. -/
def vgaRequest (req : VgaReq) (vga : VgaDev σ) : ℤ × VgaDev σ :=
  if req.len < 32 then (-EINVAL,vga)
  else if req.op = VGA_OP_ACCEPT then
    vgaDoAccept T ready req.entAlloc req.handle req.gpa req.size vga
  else if req.op = VGA_OP_RELEASE then vgaDoRelease T ready req.gpa vga
  else (-EINVAL,vga)

/-- One turn of the loop of `vga_work_func`. -/
def vgaServe (vga : VgaDev σ) (req : VgaReq) : VgaDev σ :=
  let r := vgaRequest T ready req vga
  vgaSendCompletion req r.1 r.2

/-- `vga_work_func` on the requests that it finds. -/
def vgaWorkFunc (reqs : List VgaReq) (vga : VgaDev σ) : VgaDev σ :=
  reqs.foldl (vgaServe T ready) vga

/-- An entry is released, whatever the answer, and dropped. -/
def vgaDropEntry (ent : Parcel) (vga : VgaDev σ) : VgaDev σ :=
  { vga with
    rm := (gunyahGuestMemRelease T ready ent.handle.toNat vga.rm).2
    accepted := vga.accepted.tail }

/-- `vga_remove` on the table. -/
def vgaRemove (vga : VgaDev σ) : VgaDev σ :=
  vga.accepted.foldl (fun vga ent => vgaDropEntry T ready ent vga) vga

end Driver

/-- The parcels by their address, beside the server that decides. -/
structure ParcelMap (σ : Type) where
  server : σ
  parcel : UInt64 → Option Parcel

namespace ParcelMap
variable {σ : Type} (S : RmServer σ) (ready : Bool)

def accept (handle : UInt32) (gpa size : UInt64) (m : ParcelMap σ) : ℤ × ParcelMap σ :=
  if ready = false then (-ENODEV,m)
  else if handle = 0 ∨ size = 0 then (-EINVAL,m)
  else
    let a := S.serve m.server (.accept handle gpa size)
    if a.1 ≠ 0 then (-EACCES,{ m with server := a.2 })
    else (0,⟨a.2,Function.update m.parcel gpa (some ⟨gpa,size,handle⟩)⟩)

def release (gpa : UInt64) (m : ParcelMap σ) : ℤ × ParcelMap σ :=
  match m.parcel gpa with
  | none => (-ENOENT,m)
  | some p =>
    let a := S.serve m.server (.release p.handle)
    if a.1 ≠ 0 then (- EIO,{ m with server := a.2 })
    else (0,⟨a.2,Function.update m.parcel gpa none⟩)

def request (req : VgaReq) (m : ParcelMap σ) : ℤ × ParcelMap σ :=
  if req.len < 32 then (-EINVAL,m)
  else if req.op = VGA_OP_ACCEPT then m.accept S ready req.handle req.gpa req.size
  else if req.op = VGA_OP_RELEASE then m.release S req.gpa
  else (-EINVAL,m)

/-- The requests one after another, with the completion of each. -/
def run : List VgaReq → ParcelMap σ → List (UInt32 × ℤ) × ParcelMap σ
  | [], m => ([],m)
  | req::reqs, m =>
    let r := m.request S ready req
    let rest := run reqs r.2
    ((req.reqId,r.1)::rest.1,rest.2)

end ParcelMap

section Simulation
variable {σ : Type} {S : RmServer σ} {ready : Bool} {vga : VgaDev (RmLink σ)} {m : ParcelMap σ}

/-- The driver's table, the server's parcels and the map are the same. -/
structure Tracks (S : RmServer σ) (ready : Bool) (vga : VgaDev (RmLink σ)) (m : ParcelMap σ) : Prop where
  idle : vga.rm.port.answers = []
  answered : vga.rm.port.fates = []
  server_eq : vga.rm.port.server = m.server
  lookup : ∀ gpa, m.parcel gpa = Keyed.firstAt Parcel.gpa gpa vga.accepted
  table : (S.mapped m.server).Perm vga.accepted
  gpas : (vga.accepted.map Parcel.gpa).Nodup
  handles : (vga.accepted.map Parcel.handle).Nodup
  sizes : ∀ p ∈ vga.accepted, p.size ≠ 0
  available : ready = false → vga.accepted = []

/-- Where every request is answered, a call returns the server's verdict. -/
theorem RmServer.call_answered (S : RmServer σ) (r : RmRequest) {s : RmClient (RmLink σ)}
    (idle : s.port.answers = []) (answered : s.port.fates = []) :
    S.call r s = (if (S.serve s.port.server r).1 ≠ 0 then r.refused else 0,
      s.after r (S.serve s.port.server r).2) := by
  have hfate : s.port.fates.headD .answered = .answered := by rw [answered]; rfl
  have hout := S.call_outcome r idle
  generalize S.call r s = a at hout ⊢
  cases hout with
  | unsent fate => rw [hfate] at fate; cases fate
  | done _ served => rw [served]; simp
  | refused _ served ne => rw [served]; simp [ne]
  | lost fate => rw [hfate] at fate; cases fate

/-- Two parcels at one address are not apart. -/
theorem Parcel.Apart.gpa_ne {p q : Parcel} (h : p.Apart q) (hp : p.size ≠ 0) (hq : q.size ≠ 0) :
    p.gpa ≠ q.gpa := by
  have hp' : p.size.toNat ≠ 0 := fun h0 => hp (UInt64.toNat_inj.mp h0)
  have hq' : q.size.toNat ≠ 0 := fun h0 => hq (UInt64.toNat_inj.mp h0)
  intro heq
  rw [Apart, heq] at h
  omega

namespace Tracks

lemma start {server : σ} (hempty : S.mapped server = []) (ready : Bool) (seq : UInt16) :
    Tracks S ready ⟨⟨seq,⟨server,[],[],[]⟩⟩,[],[]⟩ ⟨server,fun _ => none⟩ :=
  ⟨rfl,rfl,rfl,fun _ => rfl,by rw [hempty],.nil,.nil,by simp,fun _ => rfl⟩

/-- A refusal changes neither the parcels nor the table. -/
theorem refuse (hS : S.Sound) (h : Tracks S ready vga m) {r : RmRequest} {code : UInt32} {s' : σ}
    (served : S.serve m.server r = (code,s')) (ne : code ≠ 0) :
    Tracks S ready { vga with rm := vga.rm.after r s' } { m with server := s' } where
  idle := rfl
  answered := by rw [RmClient.after, h.answered]; rfl
  server_eq := rfl
  lookup := h.lookup
  table := (hS.refused served ne).trans h.table
  gpas := h.gpas
  handles := h.handles
  sizes := h.sizes
  available := h.available

/-- A new parcel is at an address and has a handle of its own: the resource manager accepted it. -/
theorem insert (hS : S.Sound) (h : Tracks S ready vga m) (hready : ready ≠ false)
    {handle : UInt32} {gpa size : UInt64} (hsize : size ≠ 0) {s' : σ}
    (served : S.serve m.server (.accept handle gpa size) = (0,s')) :
    Tracks S ready
      { vga with
        rm := vga.rm.after (.accept handle gpa size) s'
        accepted := vga.accepted ++ [⟨gpa,size,handle⟩] }
      ⟨s',Function.update m.parcel gpa (some ⟨gpa,size,handle⟩)⟩ := by
  obtain ⟨hmapped,hfresh⟩ := hS.accepted served
  have hnew : ∀ p ∈ vga.accepted, p.handle ≠ handle ∧ p.gpa ≠ gpa := by
    intro p hp
    obtain ⟨hhandle,hapart⟩ := hfresh p (h.table.mem_iff.mpr hp)
    exact ⟨hhandle,hapart.gpa_ne (h.sizes p hp) hsize⟩
  have hnone : Keyed.firstAt Parcel.gpa gpa vga.accepted = none :=
    Keyed.firstAt_eq_none.mpr fun p hp => (hnew p hp).2
  refine ⟨rfl,?_,rfl,?_,?_,?_,?_,?_,fun hr => absurd hr hready⟩
  · rw [RmClient.after, h.answered]
    rfl
  · intro g
    by_cases hg : g = gpa
    · subst hg
      have hself := @Keyed.firstAt_append_self _ _ _ Parcel.gpa ⟨g,size,handle⟩ _ hnone
      exact (Function.update_self ..).trans hself.symm
    · refine (Function.update_of_ne hg ..).trans ((h.lookup g).trans ?_)
      exact (Keyed.firstAt_append_of_ne fun he => hg he.symm).symm
  · exact hmapped.trans ((h.table.cons _).trans (List.perm_append_singleton _ _).symm)
  · rw [List.map_append, List.nodup_append]
    refine ⟨h.gpas,by simp,?_⟩
    simpa using fun p hp => (hnew p hp).2
  · rw [List.map_append, List.nodup_append]
    refine ⟨h.handles,by simp,?_⟩
    simpa using fun p hp => (hnew p hp).1
  · intro p hp
    rcases List.mem_append.mp hp with hp | hp
    · exact h.sizes p hp
    · obtain rfl := List.mem_singleton.mp hp
      exact hsize

/-- The entry that leaves the table is the parcel that the resource manager released: no other has
its handle. -/
theorem erase (hS : S.Sound) (h : Tracks S ready vga m) {gpa : UInt64} {ent : Parcel}
    (hent : Keyed.firstAt Parcel.gpa gpa vga.accepted = some ent) {s' : σ}
    (served : S.serve m.server (.release ent.handle) = (0,s')) :
    Tracks S ready
      { vga with
        rm := vga.rm.after (.release ent.handle) s'
        accepted := Keyed.eraseAt Parcel.gpa gpa vga.accepted }
      ⟨s',Function.update m.parcel gpa none⟩ := by
  have hperm := Keyed.perm_eraseAt hent
  have hsub : List.Sublist (Keyed.eraseAt Parcel.gpa gpa vga.accepted) vga.accepted :=
    List.eraseP_sublist
  obtain ⟨p,hhandle,hreleased⟩ := hS.released served
  have hp : p ∈ vga.accepted := h.table.mem_iff.mp (hreleased.mem_iff.mpr (.head _))
  obtain rfl : p = ent :=
    List.inj_on_of_nodup_map h.handles hp (Keyed.mem_of_firstAt hent).1 hhandle
  refine ⟨rfl,?_,rfl,?_,?_,?_,?_,?_,?_⟩
  · rw [RmClient.after, h.answered]
    rfl
  · intro g
    by_cases hg : g = gpa
    · subst hg
      exact (Function.update_self ..).trans (Keyed.firstAt_eraseAt_self h.gpas).symm
    · refine (Function.update_of_ne hg ..).trans ((h.lookup g).trans ?_)
      exact (Keyed.firstAt_eraseAt_of_ne hg).symm
  · exact ((hreleased.symm.trans h.table).trans hperm).cons_inv
  · exact h.gpas.sublist (hsub.map _)
  · exact h.handles.sublist (hsub.map _)
  · exact fun q hq => h.sizes q (hsub.subset hq)
  · intro hr
    have hempty := h.available hr
    rw [hempty] at hent
    cases hent

lemma accept (hS : S.Sound) (h : Tracks S ready vga m) (handle : UInt32) (gpa size : UInt64) :
    (vgaDoAccept S.port ready true handle gpa size vga).1 = (m.accept S ready handle gpa size).1 ∧
      Tracks S ready (vgaDoAccept S.port ready true handle gpa size vga).2
        (m.accept S ready handle gpa size).2 := by
  by_cases hready : ready = false
  · simp only [vgaDoAccept, ParcelMap.accept, if_pos hready]
    exact ⟨trivial,h⟩
  by_cases hargs : handle = 0 ∨ size = 0
  · simp only [vgaDoAccept, ParcelMap.accept, if_neg hready, if_pos hargs]
    exact ⟨trivial,h⟩
  have hcall := S.call_answered (.accept handle gpa size) h.idle h.answered
  rw [h.server_eq] at hcall
  obtain ⟨⟨code,s'⟩,served⟩ : ∃ a, S.serve m.server (.accept handle gpa size) = a := ⟨_,rfl⟩
  simp only [vgaDoAccept, ParcelMap.accept, if_neg hready, if_neg hargs, Bool.true_eq_false, if_false,
    S.memAccept_eq_call (Bool.eq_true_of_not_eq_false hready), hcall, served]
  by_cases hcode : code = 0
  · subst hcode
    simp only [ne_eq, not_true_eq_false, if_false]
    exact ⟨trivial,h.insert hS hready (fun h0 => hargs (.inr h0)) served⟩
  · have hne : (-EACCES : ℤ) ≠ 0 := by decide
    simp only [RmRequest.refused, ne_eq, hcode, not_false_eq_true, if_true, hne]
    exact ⟨trivial,h.refuse hS served hcode⟩

lemma release (hS : S.Sound) (h : Tracks S ready vga m) (gpa : UInt64) :
    (vgaDoRelease S.port ready gpa vga).1 = (m.release S gpa).1 ∧
      Tracks S ready (vgaDoRelease S.port ready gpa vga).2 (m.release S gpa).2 := by
  rw [ParcelMap.release, vgaDoRelease, h.lookup]
  cases hent : Keyed.firstAt Parcel.gpa gpa vga.accepted with
  | none => exact ⟨rfl,h⟩
  | some ent =>
    have hready : ready = true := by
      by_contra hr
      rw [h.available (Bool.eq_false_of_not_eq_true hr)] at hent
      cases hent
    have hcall := S.call_answered (.release ent.handle) h.idle h.answered
    rw [h.server_eq] at hcall
    obtain ⟨⟨code,s'⟩,served⟩ : ∃ a, S.serve m.server (.release ent.handle) = a := ⟨_,rfl⟩
    simp only [S.memRelease_eq_call hready, hcall, served]
    by_cases hcode : code = 0
    · subst hcode
      simp only [ne_eq, not_true_eq_false, if_false]
      exact ⟨trivial,h.erase hS hent served⟩
    · have hne : (- EIO : ℤ) ≠ 0 := by decide
      simp only [RmRequest.refused, ne_eq, hcode, not_false_eq_true, if_true, hne]
      exact ⟨trivial,h.refuse hS served hcode⟩

lemma request (hS : S.Sound) (h : Tracks S ready vga m) {req : VgaReq} (halloc : req.entAlloc = true) :
    (vgaRequest S.port ready req vga).1 = (m.request S ready req).1 ∧
      Tracks S ready (vgaRequest S.port ready req vga).2 (m.request S ready req).2 := by
  rw [vgaRequest, ParcelMap.request, halloc]
  split_ifs with hlen hacc hrel
  · exact ⟨rfl,h⟩
  · exact h.accept hS _ _ _
  · exact h.release hS _
  · exact ⟨rfl,h⟩

lemma send (h : Tracks S ready vga m) (req : VgaReq) (ret : ℤ) :
    Tracks S ready (vgaSendCompletion req ret vga) m := by
  unfold vgaSendCompletion
  split_ifs
  · exact h
  · exact h
  · exact ⟨h.idle,h.answered,h.server_eq,h.lookup,h.table,h.gpas,h.handles,h.sizes,h.available⟩

end Tracks

/-- A request alone completes nothing. -/
theorem vgaRequest_completions {T : RmPort σ} (req : VgaReq) (vga : VgaDev σ) :
    (vgaRequest T ready req vga).2.completions = vga.completions := by
  simp only [vgaRequest, vgaDoAccept, vgaDoRelease]
  repeat' split
  all_goals rfl

lemma vgaSendCompletion_of_room {req : VgaReq} (halloc : req.compAlloc = true)
    (hroom : req.ringFree = true) (ret : ℤ) (vga : VgaDev (RmLink σ)) :
    (vgaSendCompletion req ret vga).completions = (req.reqId,ret)::vga.completions := by
  rw [vgaSendCompletion, if_neg (by simp [halloc]), if_neg (by simp [hroom])]

/-- The allocations for the request succeed and its completion finds room. -/
def VgaReq.Ample (req : VgaReq) : Prop :=
  req.entAlloc = true ∧ req.compAlloc = true ∧ req.ringFree = true

instance (req : VgaReq) : Decidable req.Ample := inferInstanceAs (Decidable (_ ∧ _))

/-- The requests are worked off as the map works them off, one completion for each. -/
theorem Tracks.run (hS : S.Sound) {reqs : List VgaReq} (hample : ∀ req ∈ reqs, req.Ample)
    (h : Tracks S ready vga m) :
    Tracks S ready (vgaWorkFunc S.port ready reqs vga) (m.run S ready reqs).2 ∧
      (vgaWorkFunc S.port ready reqs vga).completions =
        (m.run S ready reqs).1.reverse ++ vga.completions := by
  induction reqs generalizing vga m with
  | nil => exact ⟨h,rfl⟩
  | cons req reqs ih =>
    obtain ⟨hent,hcomp,hring⟩ := hample req (.head _)
    obtain ⟨hret,hnext⟩ := h.request hS hent
    obtain ⟨htracks,hsent⟩ := ih (fun r hr => hample r (.tail _ hr)) (hnext.send req _)
    refine ⟨htracks,hsent.trans ?_⟩
    rw [vgaSendCompletion_of_room hcomp hring, hret, ParcelMap.run, List.reverse_cons,
      List.append_assoc]
    rw [vgaRequest_completions]
    rfl

lemma ParcelMap.run_reqIds (reqs : List VgaReq) (m : ParcelMap σ) :
    (m.run S ready reqs).1.map Prod.fst = reqs.map VgaReq.reqId := by
  induction reqs generalizing m with
  | nil => rfl
  | cons req reqs ih => rw [run, List.map_cons, ih, List.map_cons]

/-- Whatever becomes of it, a call asks once, and leaves no answer behind. -/
theorem RmServer.call_asked (S : RmServer σ) (r : RmRequest) {s : RmClient (RmLink σ)}
    (idle : s.port.answers = []) :
    (S.call r s).2.port.asked = r::s.port.asked ∧ (S.call r s).2.port.answers = [] := by
  have hout := S.call_outcome r idle
  generalize S.call r s = a at hout ⊢
  cases hout <;> exact ⟨rfl,rfl⟩

/-- Dropping entries asks for the release of each. -/
theorem vgaDropEntry_foldl_asked (ents : List Parcel) {vga : VgaDev (RmLink σ)}
    (idle : vga.rm.port.answers = []) :
    let rest := ents.foldl (fun vga ent => vgaDropEntry S.port true ent vga) vga
    rest.rm.port.asked =
        (ents.map fun p => RmRequest.release p.handle).reverse ++ vga.rm.port.asked ∧
      rest.accepted = vga.accepted.drop ents.length := by
  induction ents generalizing vga with
  | nil => exact ⟨rfl,rfl⟩
  | cons ent ents ih =>
    obtain ⟨hasked,hidle⟩ := S.call_asked (.release ent.handle) idle
    rw [← S.memRelease_eq_call rfl] at hidle
    obtain ⟨hrest,htable⟩ := @ih (vgaDropEntry S.port true ent vga) hidle
    refine ⟨hrest.trans ?_,htable.trans ?_⟩
    · rw [List.map_cons, List.reverse_cons, List.append_assoc]
      rw [← S.memRelease_eq_call rfl] at hasked
      exact congrArg _ hasked
    · exact List.drop_tail ..

lemma vgaRemove_asked (hready : vga.accepted ≠ [] → ready = true)
    (idle : vga.rm.port.answers = []) :
    (vgaRemove S.port ready vga).rm.port.asked =
        (vga.accepted.map fun p => RmRequest.release p.handle).reverse ++ vga.rm.port.asked ∧
      (vgaRemove S.port ready vga).accepted = [] := by
  by_cases hempty : vga.accepted = []
  · rw [vgaRemove, hempty]
    exact ⟨rfl,hempty⟩
  obtain ⟨hasked,htable⟩ := @vgaDropEntry_foldl_asked _ S vga.accepted vga idle
  rw [hready hempty]
  exact ⟨hasked,htable.trans List.drop_length⟩

/-- From an idle device and a server without parcels, over any requests: the table holds the server's
parcels, one at most for an address; the completions are, in order, those of the map; and removal asks
for the release of each handle left, once. -/
theorem vga_simulates_map (hS : S.Sound) {server : σ} (hempty : S.mapped server = []) (ready : Bool)
    (seq : UInt16) {reqs : List VgaReq} (hample : ∀ req ∈ reqs, req.Ample) :
    let vga := vgaWorkFunc S.port ready reqs ⟨⟨seq,⟨server,[],[],[]⟩⟩,[],[]⟩
    let m := ParcelMap.run S ready reqs ⟨server,fun _ => none⟩
    let rest := vgaRemove S.port ready vga
    ((S.mapped vga.rm.port.server).Perm vga.accepted ∧ (vga.accepted.map Parcel.gpa).Nodup ∧
      ∀ gpa, m.2.parcel gpa = Keyed.firstAt Parcel.gpa gpa vga.accepted) ∧
    (vga.completions.reverse = m.1 ∧ m.1.map Prod.fst = reqs.map VgaReq.reqId) ∧
    (rest.accepted = [] ∧ (vga.accepted.map Parcel.handle).Nodup ∧
      rest.rm.port.asked = (vga.accepted.map fun p => RmRequest.release p.handle).reverse ++
        vga.rm.port.asked) := by
  intro vga m rest
  obtain ⟨h,hsent⟩ := (Tracks.start hempty ready seq).run hS hample
  have hready : vga.accepted ≠ [] → ready = true := fun hne =>
    Bool.eq_true_of_not_eq_false fun hr => hne (h.available hr)
  obtain ⟨hasked,hgone⟩ := @vgaRemove_asked _ S ready vga hready h.idle
  refine ⟨⟨?_,h.gpas,h.lookup⟩,⟨?_,ParcelMap.run_reqIds ..⟩,hgone,h.handles,hasked⟩
  · rw [h.server_eq]
    exact h.table
  · have hsent' : vga.completions = m.1.reverse := hsent.trans (List.append_nil _)
    rw [hsent', List.reverse_reverse]

end Simulation

/-- The parcels in a list, the newest first. A handle or a range that is in use is refused, and so is
the release of an unknown handle. -/
def tableServer : RmServer (List Parcel) where
  serve s
    | .accept handle gpa size =>
      if ∀ p ∈ s, p.handle ≠ handle ∧ p.Apart ⟨gpa,size,handle⟩ then (0,⟨gpa,size,handle⟩::s)
      else (6,s)
    | .release handle =>
      match Keyed.firstAt Parcel.handle handle s with
      | none => (7,s)
      | some _ => (0,Keyed.eraseAt Parcel.handle handle s)
  mapped s := s

lemma tableServer_sound : tableServer.Sound where
  accepted {s handle gpa size s'} h := by
    simp only [tableServer] at h
    split_ifs at h with hfresh
    · obtain rfl := (Prod.mk.inj h).2
      exact ⟨.refl _,hfresh⟩
    · exact absurd (Prod.mk.inj h).1 (by decide)
  released {s handle s'} h := by
    simp only [tableServer] at h
    cases hent : Keyed.firstAt Parcel.handle handle s with
    | none =>
      rw [hent] at h
      exact absurd (Prod.mk.inj h).1 (by decide)
    | some p =>
      rw [hent] at h
      obtain rfl := (Prod.mk.inj h).2
      exact ⟨p,(Keyed.mem_of_firstAt hent).2,Keyed.perm_eraseAt hent⟩
  refused {s r code s'} h hne := by
    cases r with
    | accept handle gpa size =>
      simp only [tableServer] at h
      split_ifs at h
      · exact absurd (Prod.mk.inj h).1.symm hne
      · exact (Prod.mk.inj h).2 ▸ .refl _
    | release handle =>
      simp only [tableServer] at h
      cases hent : Keyed.firstAt Parcel.handle handle s with
      | none =>
        rw [hent] at h
        exact (Prod.mk.inj h).2 ▸ .refl _
      | some p =>
        rw [hent] at h
        exact absurd (Prod.mk.inj h).1.symm hne

def VgaReq.whole (reqId op handle : UInt32) (gpa size : UInt64) : VgaReq :=
  ⟨reqId,op,handle,gpa,size,32,true,true,true⟩

/-- Repeated handles and addresses are refused, a short buffer and an unknown op fail. -/
def vgaRepeats : List VgaReq :=
  [.whole 1 VGA_OP_ACCEPT 7 0x1000 0x2000, .whole 2 VGA_OP_ACCEPT 8 0x1000 0x1000,
    .whole 3 VGA_OP_ACCEPT 7 0x8000 0x1000, .whole 4 VGA_OP_RELEASE 0 0x2000 0,
    { VgaReq.whole 5 VGA_OP_RELEASE 0 0x1000 0 with len := 31 }, .whole 6 9 7 0x1000 0x2000,
    .whole 7 VGA_OP_RELEASE 0 0x1000 0, .whole 8 VGA_OP_ACCEPT 0 0x1000 0x1000,
    .whole 9 VGA_OP_ACCEPT 8 0x1000 0x1000, .whole 9 VGA_OP_ACCEPT 7 0x8000 0x1000]

theorem vga_simulates_map_repeats :
    let vga := vgaWorkFunc tableServer.port true vgaRepeats ⟨⟨1,⟨[],[],[],[]⟩⟩,[],[]⟩
    let rest := vgaRemove tableServer.port true vga
    vga.completions.reverse = [(1,0),(2,-EACCES),(3,-EACCES),(4,-ENOENT),(5,-EINVAL),(6,-EINVAL),
      (7,0),(8,-EINVAL),(9,0),(9,0)] ∧
    rest.rm.port.asked.take 2 = [.release 7,.release 8] := by
  have h := @vga_simulates_map _ _ tableServer_sound _ rfl true 1 vgaRepeats (by decide)
  intro vga rest
  refine ⟨h.2.1.1.trans (by decide +kernel),?_⟩
  rw [h.2.2.2.2]
  decide +kernel

end GuestAdditions

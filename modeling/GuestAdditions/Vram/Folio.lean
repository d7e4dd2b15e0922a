import GuestAdditions.Library.Transition
import GuestAdditions.Vram.Window

/-! Which folios of the host-visible window an object may use. Allocated nodes never share a 2 MiB folio.
A node goes back whatever the answer to the UNREF is, so its folios are safe from reuse only as long as
every object that was mapped is confirmed to be gone. -/
namespace GuestAdditions

/-- The range from `start` of the given size has an address in the 2 MiB folio `k`. -/
def MeetsFolio (start size k : ℕ) : Prop := start < (k+1)*SZ_2M ∧ k*SZ_2M < start+size

namespace WindowObject

/-- The host has confirmed the UNREF of the object. -/
def Confirmed (o : WindowObject) : Prop := ∃ type, o.answer = some type ∧ ConfirmsUnref type

/-- The states in which an object can be found. -/
inductive Ok : WindowObject → Prop
  | creating {size state} : Ok ⟨size,.creating,none,state,false,none,none⟩
  | inserted {size e state} : Ok ⟨size,.inserted,some e,state,false,none,none⟩
  | live {size node state pending} : Ok ⟨size,.live,node,state,pending,node,none⟩
  | unrefQueued {size node state} : Ok ⟨size,.unrefQueued,node,state,false,node,none⟩
  | gone {size state mapped type} : Ok ⟨size,.gone,none,state,false,mapped,some type⟩

/-- An object that is not cleaned up has no answer to its UNREF. -/
theorem Ok.not_confirmed {o : WindowObject} (h : o.Ok) (ne : o.phase ≠ .gone) : ¬ o.Confirmed := by
  intro ⟨type,ht,_⟩
  cases h with
  | gone => exact ne rfl
  | _ => exact nomatch ht

/-- The node of an object starts and ends at a folio boundary of the window. -/
structure NodeOk (W : Window) (o : WindowObject) (e : Extent) : Prop where
  size_eq : e.size = align o.size SZ_2M
  aligned : SZ_2M ∣ e.offset
  within : e.Within W.addr (W.addr+W.len)

end WindowObject

/-- The object whose life a command decides, if it is a MAP_BLOB or a RESOURCE_UNREF. -/
def WindowCmd.about : WindowCmd → Option ℕ
  | mapBlob i _ _ | resourceUnref i => some i
  | createBlob _ | unmapBlob _ => none

/-- What a command in flight says about its object. -/
def WindowCmd.Ok (W : Window) (s : WindowDev) : WindowCmd → Prop
  | mapBlob i offset size => ∃ o e, s.objects i = some o ∧ o.phase = .live ∧ o.mapPending = true ∧
      o.mapped = some e ∧ W.addr+offset = e.offset ∧ size ≤ e.size
  | resourceUnref i => ∃ o, s.objects i = some o ∧ o.phase = .unrefQueued
  | createBlob _ | unmapBlob _ => True

/-- A mapping comes from a MAP_BLOB. -/
theorem WindowCmd.Allows.mem {W : Window} {type : ℕ} {old new : List HostMapping} {c : WindowCmd}
    (h : c.Allows W type old new) {m : HostMapping} (hm : m ∈ new) :
    m ∈ old ∨ ∃ i offset size, c = .mapBlob i offset size ∧ m = ⟨i,W.addr+offset,size⟩ := by
  cases c with
  | createBlob i => exact .inl (h hm)
  | mapBlob i offset size => exact (h m hm).imp_right fun heq => ⟨i,offset,size,rfl,heq⟩
  | unmapBlob i => exact .inl (h.1 hm)
  | resourceUnref i => exact .inl (h.1 hm)

namespace WindowDev

/-- The commands whose answer the driver has not seen. -/
def inFlight (s : WindowDev) : List WindowCmd := s.ctrlq ++ s.replies.map Prod.fst

/-- The objects with a MAP_BLOB or a RESOURCE_UNREF in flight. -/
def awaited (s : WindowDev) : List ℕ := s.inFlight.filterMap WindowCmd.about

/-- The invariant of the window. -/
structure Kept (W : Window) (s : WindowDev) : Prop where
  finite : ∃ n, ∀ i, n ≤ i → s.objects i = none
  ok : ∀ i o, s.objects i = some o → o.Ok
  paged : ∀ i o, s.objects i = some o → align o.size PAGE_SIZE = o.size
  node : ∀ i o e, s.objects i = some o → o.node = some e → o.NodeOk W e
  apart : ∀ i j o p e f, i ≠ j → s.objects i = some o → s.objects j = some p → o.node = some e →
    p.node = some f → e.Disjoint f
  cmds : ∀ c ∈ s.inFlight, c.Ok W s
  once : s.awaited.Nodup
  dropped : ∀ i type, (.resourceUnref i,type) ∈ s.replies → ConfirmsUnref type →
    ∀ h ∈ s.mappings, h.obj ≠ i
  maps : ∀ h ∈ s.mappings, ∃ o e, s.objects h.obj = some o ∧ o.mapped = some e ∧ ¬ o.Confirmed ∧
    h.start = e.offset ∧ h.size ≤ e.size

variable {W : Window} {s : WindowDev} {i j : ℕ} {o p : WindowObject} {c : WindowCmd}

@[simp] lemma put_self : (s.put i o).objects i = some o := Function.update_self ..

lemma put_ne (ne : j ≠ i) : (s.put i o).objects j = s.objects j := Function.update_of_ne ne ..

lemma put_cases (h : (s.put i o).objects j = some p) :
    j = i ∧ p = o ∨ j ≠ i ∧ s.objects j = some p := by
  by_cases hj : j = i
  · rw [hj,put_self] at h
    exact .inl ⟨hj,(Option.some.inj h).symm⟩
  · rw [put_ne hj] at h
    exact .inr ⟨hj,h⟩

/-- A command about an object that is not updated says the same of it. -/
theorem ok_put (hc : c.Ok W s) (ne : ∀ j, c.about = some j → j ≠ i) : c.Ok W (s.put i o) := by
  cases c with
  | mapBlob j offset size =>
    simp only [WindowCmd.Ok,put_ne (ne j rfl)]
    exact hc
  | resourceUnref j =>
    simp only [WindowCmd.Ok,put_ne (ne j rfl)]
    exact hc
  | createBlob j => trivial
  | unmapBlob j => trivial

lemma mem_awaited (hc : c ∈ s.inFlight) (h : c.about = some i) : i ∈ s.awaited :=
  List.mem_filterMap.mpr ⟨c,hc,h⟩

lemma awaited_queue (hc : c.about = none) : (s.queueCtrlBuffer c).awaited = s.awaited := by
  simp [awaited,inFlight,queueCtrlBuffer,List.filterMap_append,hc]

namespace Kept

/-- The update of an object that nothing in flight is about. -/
theorem put (h : s.Kept W) (idle : i ∉ s.awaited) (ok : o.Ok)
    (paged : align o.size PAGE_SIZE = o.size)
    (node : ∀ e, o.node = some e → o.NodeOk W e)
    (apart : ∀ e, o.node = some e → ∀ j p f, j ≠ i → s.objects j = some p → p.node = some f →
      e.Disjoint f)
    (keeps : ∀ q e, s.objects i = some q → q.mapped = some e → ¬ q.Confirmed →
      (∃ h ∈ s.mappings, h.obj = i) → o.mapped = some e ∧ ¬ o.Confirmed) :
    (s.put i o).Kept W where
  finite := by
    obtain ⟨n,hn⟩ := h.finite
    refine ⟨max n (i+1),fun j hj => ?_⟩
    rw [put_ne (by omega)]
    exact hn j (by omega)
  ok j p hp := by
    cases put_cases hp with
    | inl hi => exact hi.2 ▸ ok
    | inr hj => exact h.ok j p hj.2
  paged j p hp := by
    cases put_cases hp with
    | inl hi => exact hi.2 ▸ paged
    | inr hj => exact h.paged j p hj.2
  node j p e hp he := by
    cases put_cases hp with
    | inl hi => exact hi.2 ▸ node e (hi.2 ▸ he)
    | inr hj => exact h.node j p e hj.2 he
  apart j k p q e f ne hp hq he hf := by
    cases put_cases hp with
    | inl hi =>
      cases put_cases hq with
      | inl hk => exact absurd (hi.1.trans hk.1.symm) ne
      | inr hk => exact apart e (hi.2 ▸ he) k q f hk.1 hk.2 hf
    | inr hj =>
      cases put_cases hq with
      | inl hk => exact (apart f (hk.2 ▸ hf) j p e hj.1 hj.2 he).symm
      | inr hk => exact h.apart j k p q e f ne hj.2 hk.2 he hf
  cmds c hc := by
    refine ok_put (h.cmds c hc) ?_
    intro j hj heq
    exact idle (heq ▸ mem_awaited hc hj)
  once := h.once
  dropped := h.dropped
  maps m hm := by
    obtain ⟨q,e,hq,hmapped,hconf,hstart,hsize⟩ := h.maps m hm
    by_cases hi : m.obj = i
    · have hkept := keeps q e (hi ▸ hq) hmapped hconf ⟨m,hm,hi⟩
      exact ⟨o,e,by rw [hi,put_self],hkept.1,hkept.2,hstart,hsize⟩
    · exact ⟨q,e,by rw [put_ne hi]; exact hq,hmapped,hconf,hstart,hsize⟩

lemma queueCtrlBuffer (h : s.Kept W) (ok : c.Ok W s) (idle : ∀ j, c.about = some j → j ∉ s.awaited) :
    (s.queueCtrlBuffer c).Kept W := by
  have hperm : (s.queueCtrlBuffer c).inFlight.Perm (c::s.inFlight) := by
    unfold inFlight WindowDev.queueCtrlBuffer
    exact (List.perm_append_singleton c s.ctrlq).append_right _
  refine ⟨h.finite,h.ok,h.paged,h.node,h.apart,?_,?_,h.dropped,h.maps⟩
  · intro d hd
    cases List.mem_cons.mp (hperm.mem_iff.mp hd) with
    | inl heq => exact heq ▸ ok
    | inr hmem => exact h.cmds d hmem
  · refine (hperm.filterMap _).nodup_iff.mpr ?_
    cases hc : c.about with
    | none =>
      rw [List.filterMap_cons_none hc]
      exact h.once
    | some j =>
      rw [List.filterMap_cons_some hc]
      exact List.nodup_cons.mpr ⟨idle j hc,h.once⟩

/-- A reply that the driver has taken is no longer in flight. -/
theorem seen {type : ℕ} {before after : List (WindowCmd × ℕ)} (h : s.Kept W)
    (seen : s.replies = before ++ (c,type)::after) :
    ({ s with replies := before ++ after } : WindowDev).Kept W ∧
      ∀ j, c.about = some j → j ∉ ({ s with replies := before ++ after } : WindowDev).awaited := by
  have hperm : s.replies.Perm ((c,type)::(before ++ after)) := seen ▸ List.perm_middle
  have hflight : s.inFlight.Perm
      (c::({ s with replies := before ++ after } : WindowDev).inFlight) := by
    unfold inFlight
    exact ((hperm.map Prod.fst).append_left s.ctrlq).trans List.perm_middle
  have honce := (hflight.filterMap WindowCmd.about).nodup_iff.mp h.once
  refine ⟨⟨h.finite,h.ok,h.paged,h.node,h.apart,?_,?_,?_,h.maps⟩,?_⟩
  · intro d hd
    have hold := h.cmds d (hflight.mem_iff.mpr (List.mem_cons_of_mem _ hd))
    cases d <;> exact hold
  · exact honce.sublist ((List.sublist_cons_self _ _).filterMap _)
  · intro j t ht
    exact h.dropped j t (hperm.mem_iff.mpr (List.mem_cons_of_mem _ ht))
  · intro j hj
    rw [List.filterMap_cons_some hj] at honce
    exact (List.nodup_cons.mp honce).1

/-- The host processes the next command. -/
theorem host {type : ℕ} {rest : List WindowCmd} {mappings : List HostMapping} (h : s.Kept W)
    (head : s.ctrlq = c::rest) (allows : c.Allows W type s.mappings mappings) :
    ({ s with ctrlq := rest, replies := s.replies ++ [(c,type)], mappings := mappings } :
      WindowDev).Kept W := by
  have hperm : (rest ++ (s.replies ++ [(c,type)]).map Prod.fst).Perm s.inFlight := by
    unfold inFlight
    rw [head,List.map_append]
    calc rest ++ (s.replies.map Prod.fst ++ [c])
        = rest ++ s.replies.map Prod.fst ++ [c] := (List.append_assoc ..).symm
      _ |>.Perm (c::(rest ++ s.replies.map Prod.fst)) := List.perm_append_singleton _ _
  have hmem : c ∈ s.inFlight := by
    unfold inFlight
    rw [head]
    exact List.mem_cons_self ..
  have hc := h.cmds c hmem
  refine ⟨h.finite,h.ok,h.paged,h.node,h.apart,?_,(hperm.filterMap _).nodup_iff.mpr h.once,?_,?_⟩
  · intro d hd
    have hold := h.cmds d (hperm.mem_iff.mp hd)
    cases d <;> exact hold
  · intro i t ht hconf m hm
    cases List.mem_append.mp ht with
    | inr hnew =>
      cases List.mem_singleton.mp hnew
      exact allows.2 hconf m hm
    | inl hseen =>
      cases allows.mem hm with
      | inl hold => exact h.dropped i t hseen hconf m hold
      | inr hmap =>
        obtain ⟨j,offset,size,rfl,rfl⟩ := hmap
        obtain ⟨o,e,ho,hlive,-⟩ := hc
        obtain ⟨p,hp,hqueued⟩ :=
          h.cmds _ (List.mem_append_right _ (List.mem_map.mpr ⟨_,hseen,rfl⟩))
        intro heq
        rw [← heq,ho] at hp
        cases hp
        exact nomatch hlive.symm.trans hqueued
  · intro m hm
    cases allows.mem hm with
    | inl hold => exact h.maps m hold
    | inr hmap =>
      obtain ⟨j,offset,size,rfl,rfl⟩ := hmap
      obtain ⟨o,e,ho,hlive,-,hmapped,hstart,hsize⟩ := hc
      have hne : o.phase ≠ .gone := by
        rw [hlive]
        decide
      exact ⟨o,e,ho,hmapped,(h.ok j o ho).not_confirmed hne,hstart,hsize⟩

/-- An object whose command is under way waits for the answer to its map or to its UNREF. -/
theorem awaited_phase (h : s.Kept W) (hmem : i ∈ s.awaited) :
    ∃ o, s.objects i = some o ∧
      (o.phase = .live ∧ o.mapPending = true ∨ o.phase = .unrefQueued) := by
  obtain ⟨c,hc,habout⟩ := List.mem_filterMap.mp hmem
  have hok := h.cmds c hc
  cases c with
  | createBlob j => exact nomatch habout
  | unmapBlob j => exact nomatch habout
  | mapBlob j offset size =>
    cases habout
    obtain ⟨o,e,ho,hphase,hpending,-⟩ := hok
    exact ⟨o,ho,.inl ⟨hphase,hpending⟩⟩
  | resourceUnref j =>
    cases habout
    obtain ⟨o,ho,hphase⟩ := hok
    exact ⟨o,ho,.inr hphase⟩

lemma not_awaited (h : s.Kept W) (at_i : s.objects i = some o) (hlive : o.phase ≠ .live ∨ o.mapPending = false)
    (hqueued : o.phase ≠ .unrefQueued) : i ∉ s.awaited := by
  intro hmem
  obtain ⟨p,hp,hphase⟩ := h.awaited_phase hmem
  cases at_i.symm.trans hp
  cases hphase with
  | inl hmap =>
    cases hlive with
    | inl hne => exact hne hmap.1
    | inr hf => exact nomatch hf.symm.trans hmap.2
  | inr hunref => exact hqueued hunref

lemma not_awaited_of_none (h : s.Kept W) (fresh : s.objects i = none) : i ∉ s.awaited := by
  intro hmem
  obtain ⟨p,hp,-⟩ := h.awaited_phase hmem
  exact nomatch fresh.symm.trans hp

/-- Objects do not move in the window. -/
theorem same_node (h : s.Kept W) (at_i : s.objects i = some p) (size : o.size = p.size) {e : Extent}
    (he : p.node = some e) : o.NodeOk W e := by
  have hp := h.node i p e at_i he
  exact ⟨size ▸ hp.size_eq,hp.aligned,hp.within⟩

/-- An update that keeps or gives up the node of an object and what it was mapped for. -/
theorem update (h : s.Kept W) (at_i : s.objects i = some p) (idle : i ∉ s.awaited) (ok : o.Ok)
    (size : o.size = p.size) (node : ∀ e, o.node = some e → p.node = some e)
    (keeps : ∀ e, p.mapped = some e → ¬ p.Confirmed → (∃ h ∈ s.mappings, h.obj = i) →
      o.mapped = some e ∧ ¬ o.Confirmed) : (s.put i o).Kept W := by
  refine h.put idle ok (size ▸ h.paged i p at_i) (fun e he => h.same_node at_i size (node e he)) ?_ ?_
  · intro e he j q f ne hq hf
    exact h.apart i j p q e f (Ne.symm ne) at_i hq (node e he) hf
  · intro q e hq
    cases at_i.symm.trans hq
    exact keeps e

lemma vramFree (h : s.Kept W) (at_i : s.objects i = some p) (idle : i ∉ s.awaited)
    (ok : ({ o with phase := .unrefQueued } : WindowObject).Ok)
    (size : o.size = p.size) (node : ∀ e, o.node = some e → p.node = some e)
    (mapped : o.mapped = p.mapped) : (s.vramFree i o).Kept W := by
  have hput : (s.put i { o with phase := .unrefQueued }).Kept W := by
    refine h.update at_i idle ok size node ?_
    intro e he _ _
    exact ⟨mapped.trans he,ok.not_confirmed nofun⟩
  have hunref (t : WindowDev) (ht : (t.put i { o with phase := .unrefQueued }).Kept W)
      (hidle : i ∉ t.awaited) :
      ((t.queueCtrlBuffer (.resourceUnref i)).put i { o with phase := .unrefQueued }).Kept W := by
    refine ht.queueCtrlBuffer ⟨_,put_self,rfl⟩ ?_
    intro j hj
    cases hj
    exact hidle
  unfold WindowDev.vramFree
  dsimp only
  split
  · refine hunref _ (hput.queueCtrlBuffer trivial nofun) ?_
    rw [awaited_queue rfl]
    exact idle
  · exact hunref s hput idle

lemma vramCreate (h : s.Kept W) (fresh : s.objects i = none) (size : ℕ) (mappable : Bool) :
    (s.vramCreate i size mappable).Kept W := by
  have hput : (s.put i ⟨align size PAGE_SIZE,if mappable then .creating else .live,none,
      .initializing,false,none,none⟩).Kept W := by
    refine h.put (h.not_awaited_of_none fresh) ?_ ?_ nofun nofun ?_
    · cases mappable
      · exact .live
      · exact .creating
    · exact align_page_of_dvd (align_lt ..) (dvd_align_page ..)
    · intro q e hq
      exact nomatch fresh.symm.trans hq
  exact hput.queueCtrlBuffer trivial nofun

lemma insertNode {e : Extent} (h : s.Kept W) (at_i : s.objects i = some o)
    (phase : o.phase = .creating)
    (free : s.Free W (align o.size SZ_2M) e) : (s.insertNode i o e).Kept W := by
  have hok := h.ok i o at_i
  have hidle : i ∉ s.awaited := by
    refine h.not_awaited at_i (.inl ?_) ?_ <;> rw [phase] <;> decide
  refine h.put hidle ?_ (h.paged i o at_i) ?_ ?_ ?_
  · cases hok with
    | creating => exact .inserted
    | _ => exact nomatch phase
  · intro f hf
    cases hf
    exact ⟨free.size_eq,free.aligned,free.within⟩
  · intro f hf j q g _ hq hg
    cases hf
    exact free.apart j q g hq hg
  · intro q f hq hf hconf _
    cases at_i.symm.trans hq
    exact ⟨hf,hconf⟩

lemma cmdMap {e : Extent} (h : s.Kept W) (at_i : s.objects i = some o)
    (phase : o.phase = .inserted) (node : o.node = some e) : (s.cmdMap W i o e).Kept W := by
  have hok := h.ok i o at_i
  have he := h.node i o e at_i node
  have hidle : i ∉ s.awaited := by
    refine h.not_awaited at_i (.inl ?_) ?_ <;> rw [phase] <;> decide
  have hput : (s.put i { o with phase := .live, mapPending := true, mapped := some e }).Kept W := by
    refine h.update at_i hidle ?_ rfl (fun f hf => hf) ?_
    · cases hok with
      | inserted =>
        cases node
        exact .live
      | _ => exact nomatch phase
    · intro f hf
      cases hok with
      | inserted => exact nomatch hf
      | _ => exact nomatch phase
  refine hput.queueCtrlBuffer ⟨_,e,put_self,rfl,rfl,rfl,?_,?_⟩ ?_
  · -- the offset in the window is a difference of 64-bit words
    have hlo := he.within.1
    have hhi := he.within.2
    have hstop := e.offset_lt_stop
    have hfits := W.fits
    unfold wrap64
    omega
  · have hpos := e.pos
    rw [he.size_eq,sz2M_eq] at hpos ⊢
    have hlt : o.size < 2^64 := h.paged i o at_i ▸ align_lt ..
    exact (align_bounds (by decide) hlt hpos).1
  · intro j hj
    cases hj
    exact hidle

/-- An object is in use while it waits for the answer to its MAP_BLOB. -/
theorem live_of_mapBlob {offset size type : ℕ} {before after : List (WindowCmd × ℕ)}
    (h : s.Kept W) (at_i : s.objects i = some o)
    (seen : s.replies = before ++ (.mapBlob i offset size,type)::after) : o.phase = .live := by
  have hmem : .mapBlob i offset size ∈ s.inFlight := by
    refine List.mem_append_right _ (List.mem_map.mpr ⟨(.mapBlob i offset size,type),?_,rfl⟩)
    rw [seen]
    exact List.mem_append_right _ (List.mem_cons_self ..)
  obtain ⟨p,e,hp,hlive,-⟩ := h.cmds _ hmem
  cases at_i.symm.trans hp
  exact hlive

/-- The UNREF of an object is queued while it waits for the answer. -/
theorem queued_of_unref {type : ℕ} {before after : List (WindowCmd × ℕ)} (h : s.Kept W)
    (at_i : s.objects i = some o) (seen : s.replies = before ++ (.resourceUnref i,type)::after) :
    o.phase = .unrefQueued := by
  have hmem : .resourceUnref i ∈ s.inFlight := by
    refine List.mem_append_right _ (List.mem_map.mpr ⟨(.resourceUnref i,type),?_,rfl⟩)
    rw [seen]
    exact List.mem_append_right _ (List.mem_cons_self ..)
  obtain ⟨p,hp,hqueued⟩ := h.cmds _ hmem
  cases at_i.symm.trans hp
  exact hqueued

lemma cmdResourceMapCb {offset size type : ℕ} {before after : List (WindowCmd × ℕ)}
    (h : s.Kept W) (at_i : s.objects i = some o)
    (seen : s.replies = before ++ (.mapBlob i offset size,type)::after) :
    (({ s with replies := before ++ after } : WindowDev).cmdResourceMapCb i o type).Kept W := by
  obtain ⟨hkept,hidle⟩ := h.seen seen
  have hlive := h.live_of_mapBlob at_i seen
  have hok := h.ok i o at_i
  refine hkept.update at_i (hidle i rfl) ?_ rfl (fun f hf => hf) ?_
  · cases hok with
    | live => exact .live
    | _ => exact nomatch hlive
  · intro f hf hconf _
    exact ⟨hf,hconf⟩

lemma cmdUnrefCb {type : ℕ} {before after : List (WindowCmd × ℕ)} (h : s.Kept W)
    (at_i : s.objects i = some o)
    (seen : s.replies = before ++ (.resourceUnref i,type)::after) :
    (({ s with replies := before ++ after } : WindowDev).cmdUnrefCb i o type).Kept W := by
  obtain ⟨hkept,hidle⟩ := h.seen seen
  have hmem : (.resourceUnref i,type) ∈ s.replies := by
    rw [seen]
    exact List.mem_append_right _ (List.mem_cons_self ..)
  have hqueued := h.queued_of_unref at_i seen
  have hok := h.ok i o at_i
  refine hkept.update at_i (hidle i rfl) ?_ rfl nofun ?_
  · cases hok with
    | unrefQueued => exact .gone
    | _ => exact nomatch hqueued
  · -- the host has dropped the mapping when it confirms
    intro f hf _ hmap
    refine ⟨hf,?_⟩
    intro ⟨t,ht,hconf⟩
    cases ht
    obtain ⟨m,hm,hobj⟩ := hmap
    exact h.dropped i _ hmem hconf m hm hobj

end Kept

lemma start_kept (W : Window) : start.Kept W where
  finite := ⟨0,fun _ _ => rfl⟩
  ok _ _ h := nomatch h
  paged _ _ h := nomatch h
  node _ _ _ h := nomatch h
  apart _ _ _ _ _ _ _ h := nomatch h
  cmds _ h := absurd h List.not_mem_nil
  once := List.nodup_nil
  dropped _ _ h := absurd h List.not_mem_nil
  maps _ h := absurd h List.not_mem_nil

end WindowDev

open WindowDev
variable {W : Window} {s t : WindowDev} {e : WindowEvent}

/-- Every transition keeps the invariant. -/
theorem WindowStep.kept (e : WindowEvent) (h : s.Kept W) (step : WindowStep W s e t) : t.Kept W := by
  cases step with
  | create fresh => exact h.vramCreate fresh _ _
  | insertNode at_i phase free => exact h.insertNode at_i phase free
  | @insertFail i o at_i phase =>
    have hok := h.ok i o at_i
    refine h.vramFree at_i (h.not_awaited at_i (.inl ?_) ?_) ?_ rfl (fun f hf => hf) rfl
    · rw [phase]
      decide
    · rw [phase]
      decide
    · cases hok with
      | creating => exact .unrefQueued
      | _ => exact nomatch phase
  | @mapFail i o at_i phase =>
    have hok := h.ok i o at_i
    refine h.vramFree at_i (h.not_awaited at_i (.inl ?_) ?_) ?_ rfl nofun rfl
    · rw [phase]
      decide
    · rw [phase]
      decide
    · cases hok with
      | inserted => exact .unrefQueued
      | _ => exact nomatch phase
  | cmdMap at_i phase node => exact h.cmdMap at_i phase node
  | @lastPut i o at_i phase released =>
    have hok := h.ok i o at_i
    refine h.vramFree at_i (h.not_awaited at_i (.inr released) ?_) ?_ rfl (fun f hf => hf) rfl
    · rw [phase]
      decide
    · cases hok with
      | live =>
        cases released
        exact .unrefQueued
      | _ => exact nomatch phase
  | host head allows => exact h.host head allows
  | responseMap at_i seen => exact h.cmdResourceMapCb at_i seen
  | responseUnref at_i seen => exact h.cmdUnrefCb at_i seen
  | responseOther seen other => exact (h.seen seen).1

/-- Two ranges have an address in one folio. -/
def Extent.SharesFolio (e f : Extent) : Prop :=
  ∃ k, MeetsFolio e.offset e.size k ∧ MeetsFolio f.offset f.size k

lemma Extent.sharesFolio_self (e : Extent) : e.SharesFolio e := by
  have hpos := e.pos
  have hmeets : MeetsFolio e.offset e.size (e.offset/SZ_2M) := by
    unfold MeetsFolio SZ_2M
    omega
  exact ⟨_,hmeets,hmeets⟩

namespace WindowDev

/-- No two allocated nodes share a folio. -/
def Exclusive (s : WindowDev) : Prop :=
  ∀ i j o p e f, i ≠ j → s.objects i = some o → s.objects j = some p → o.node = some e →
    p.node = some f → ¬ e.SharesFolio f

/-- No folio belongs to an object while another one was mapped there and is not confirmed to be gone,
or is still mapped there by the host. -/
structure ReuseSafe (s : WindowDev) : Prop where
  confirmed : ∀ i j o p e f, i ≠ j → s.objects i = some o → o.mapped = some e → ¬ o.Confirmed →
    s.objects j = some p → p.node = some f → ¬ e.SharesFolio f
  unmapped : ∀ m ∈ s.mappings, ∀ j p f, m.obj ≠ j → s.objects j = some p → p.node = some f →
    ∀ k, MeetsFolio m.start m.size k → ¬ MeetsFolio f.offset f.size k

/-- If the event is the answer to the UNREF of an object that was mapped, it confirms the UNREF. -/
def ConfirmedReply (s : WindowDev) : WindowEvent → Prop
  | .response (.resourceUnref i) type =>
    ∀ o, s.objects i = some o → o.mapped ≠ none → ConfirmsUnref type
  | _ => True

/-- Every object that was mapped and is cleaned up was confirmed to be gone. -/
def Answered (s : WindowDev) : Prop :=
  ∀ i o, s.objects i = some o → o.phase = .gone → o.mapped ≠ none → o.Confirmed

end WindowDev

/-- A node has the first address of every folio that it meets. -/
theorem WindowObject.NodeOk.contains {o : WindowObject} {e : Extent} {k : ℕ} (h : o.NodeOk W e)
    (hk : MeetsFolio e.offset e.size k) : e.Contains (k*SZ_2M) := by
  obtain ⟨a,ha⟩ := h.aligned
  have hle : a ≤ k := by
    have hlt := hk.1
    rw [ha,Nat.mul_comm] at hlt
    exact Nat.le_of_lt_succ (Nat.lt_of_mul_lt_mul_right hlt)
  refine ⟨?_,hk.2⟩
  rw [ha,Nat.mul_comm]
  exact Nat.mul_le_mul_right _ hle

namespace WindowDev.Kept

lemma exclusive (h : s.Kept W) : s.Exclusive := by
  intro i j o p e f ne hi hj he hf ⟨k,hek,hfk⟩
  exact Extent.not_disjoint_of_contains ((h.node i o e hi he).contains hek)
    ((h.node j p f hj hf).contains hfk) (h.apart i j o p e f ne hi hj he hf)

/-- What is not confirmed to be gone still has its node. -/
theorem node_of_mapped {i : ℕ} {o : WindowObject} {e : Extent} (h : s.Kept W) (ha : s.Answered)
    (at_i : s.objects i = some o) (hmapped : o.mapped = some e) (hconf : ¬ o.Confirmed) :
    o.node = some e := by
  have hok := h.ok i o at_i
  have hgone := ha i o at_i
  cases hok with
  | creating => exact nomatch hmapped
  | inserted => exact nomatch hmapped
  | live => exact hmapped
  | unrefQueued => exact hmapped
  | gone => exact absurd (hgone rfl fun hn => nomatch hmapped.symm.trans hn) hconf

lemma reuseSafe (h : s.Kept W) (ha : s.Answered) : s.ReuseSafe where
  confirmed i j o p e f ne hi hmapped hconf hj hf :=
    h.exclusive i j o p e f ne hi hj (h.node_of_mapped ha hi hmapped hconf) hf
  unmapped m hm j p f ne hj hf k hmk hfk := by
    obtain ⟨o,e,ho,hmapped,hconf,hstart,hsize⟩ := h.maps m hm
    refine h.exclusive m.obj j o p e f ne ho hj (h.node_of_mapped ha ho hmapped hconf) hf ⟨k,?_,hfk⟩
    rw [← hstart]
    exact ⟨hmk.1,hmk.2.trans_le (Nat.add_le_add_left hsize _)⟩

end WindowDev.Kept

lemma WindowDev.gone_of_put {i j : ℕ} {o p : WindowObject} (hp : (s.put i o).objects j = some p)
    (hgone : p.phase = .gone) (ne : o.phase ≠ .gone) : s.objects j = some p := by
  cases put_cases hp with
  | inl hi => exact absurd (hi.2 ▸ hgone) ne
  | inr hj => exact hj.2

/-- An object is cleaned up on the answer to its UNREF. -/
theorem WindowStep.gone {j : ℕ} {p : WindowObject} (step : WindowStep W s e t) (h : s.Kept W)
    (hp : t.objects j = some p) (hgone : p.phase = .gone) :
    s.objects j = some p ∨ ∃ o type, s.objects j = some o ∧ e = .response (.resourceUnref j) type ∧
      o.mapped = p.mapped ∧ p.answer = some type := by
  cases step with
  | @create i size mappable fresh =>
    refine .inl (gone_of_put (s := s) hp hgone ?_)
    cases mappable <;> exact nofun
  | insertNode at_i phase free => exact .inl (gone_of_put hp hgone nofun)
  | insertFail at_i phase =>
    unfold vramFree at hp
    dsimp only at hp
    split at hp <;> exact .inl (gone_of_put (s := s) hp hgone nofun)
  | mapFail at_i phase => exact .inl (gone_of_put (s := s) hp hgone nofun)
  | cmdMap at_i phase node => exact .inl (gone_of_put (s := s) hp hgone nofun)
  | lastPut at_i phase released =>
    unfold vramFree at hp
    dsimp only at hp
    split at hp <;> exact .inl (gone_of_put (s := s) hp hgone nofun)
  | host head allows => exact .inl hp
  | @responseMap i offset size o type before after at_i seen =>
    refine .inl (gone_of_put (s := s) hp hgone ?_)
    have hlive := h.live_of_mapBlob at_i seen
    dsimp only
    rw [hlive]
    exact nofun
  | @responseUnref i o type before after at_i seen =>
    cases put_cases hp with
    | inl hi =>
      obtain ⟨rfl,rfl⟩ := hi
      exact .inr ⟨o,type,at_i,rfl,rfl,rfl⟩
    | inr hj => exact .inl hj.2
  | responseOther seen other => exact .inl hp

lemma WindowStep.answered (step : WindowStep W s e t) (h : s.Kept W) (ha : s.Answered)
    (hreply : s.ConfirmedReply e) : t.Answered := by
  intro j p hp hgone hmapped
  cases step.gone h hp hgone with
  | inl hold => exact ha j p hold hgone hmapped
  | inr hnew =>
    obtain ⟨o,type,ho,rfl,heq,hanswer⟩ := hnew
    exact ⟨type,hanswer,hreply o ho (heq ▸ hmapped)⟩

/-- After an UNREF of a mapped object that is not confirmed, the next object may be given its folios. -/
theorem WindowStep.reuses (step : WindowStep W s e t) (h : s.Kept W) (hreply : ¬ s.ConfirmedReply e) :
    ∃ fs u, Transition.Run (WindowStep W) t fs u ∧ ¬ u.ReuseSafe := by
  have ht := step.kept e h
  cases step with
  | @responseUnref i o type before after at_i seen =>
    have hqueued := h.queued_of_unref at_i seen
    simp only [ConfirmedReply,not_forall] at hreply
    obtain ⟨p,hp,hmapped,hconf⟩ := hreply
    cases at_i.symm.trans hp
    obtain ⟨f,hf⟩ := Option.ne_none_iff_exists'.mp hmapped
    have hok := h.ok i o at_i
    have hnode : o.node = some f := by
      cases hok with
      | unrefQueued => exact hf
      | _ => exact nomatch hqueued
    have hfit := h.node i o f at_i hnode
    obtain ⟨n,hn⟩ := ht.finite
    have hni : n ≠ i := by
      intro heq
      have hnone := hn i heq.le
      rw [show (({ s with replies := before ++ after } : WindowDev).cmdUnrefCb i o type).objects i =
        some _ from put_self] at hnone
      exact nomatch hnone
    have hfree : ((({ s with replies := before ++ after } : WindowDev).cmdUnrefCb i o type).vramCreate n
        o.size true).Free W (align (align o.size PAGE_SIZE) SZ_2M) f := by
      rw [h.paged i o at_i]
      refine ⟨hfit.size_eq,hfit.aligned,hfit.within,?_⟩
      intro j q g hq hg
      cases put_cases hq with
      | inl hj => exact nomatch hj.2 ▸ hg
      | inr hj =>
        cases put_cases hj.2 with
        | inl hi => exact nomatch hi.2 ▸ hg
        | inr hk => exact h.apart i j o q f g (Ne.symm hk.1) at_i hk.2 hnode hg
    refine ⟨[.create n o.size true,.insertNode n f],_,.cons (.create (hn n le_rfl))
      (.single (.insertNode put_self rfl hfree)),?_⟩
    intro hsafe
    refine hsafe.confirmed i n { o with answer := some type, node := none, phase := .gone } _ f f
      (Ne.symm hni) ?_ hf ?_ put_self rfl f.sharesFolio_self
    · exact (put_ne (Ne.symm hni)).trans ((put_ne (Ne.symm hni)).trans put_self)
    · intro ⟨t,ht,hc⟩
      cases ht
      exact hconf hc
  | @responseOther cmd type before after seen other =>
    cases cmd with
    | resourceUnref i => exact absurd rfl (other i).2
    | _ => exact absurd trivial hreply
  | _ => exact absurd trivial hreply

/-- No two objects with a node share a folio, whatever the host answers. As long as the UNREF of every
object that was mapped is confirmed, no folio is used again before that; one answer that does not
confirm it, and the next object of the same size may be given the folios. -/
theorem hostVisible_reuse (W : Window) :
    (∀ es s, Transition.Run (WindowStep W) .start es s → s.Exclusive) ∧
      (∀ es s, Transition.Run (fun s e t => WindowStep W s e t ∧ s.ConfirmedReply e) .start es s →
        s.ReuseSafe) ∧
      ∀ es s e t, Transition.Run (WindowStep W) .start es s → WindowStep W s e t →
        ¬ s.ConfirmedReply e → ∃ fs u, Transition.Run (WindowStep W) t fs u ∧ ¬ u.ReuseSafe := by
  have hkept {es s} (run : Transition.Run (WindowStep W) .start es s) : s.Kept W :=
    run.invariant (fun _ e _ h step => step.kept e h) (start_kept W)
  refine ⟨fun es s run => (hkept run).exclusive,?_,fun es s e t run step => step.reuses (hkept run)⟩
  intro es s run
  have hboth : s.Kept W ∧ s.Answered := by
    refine run.invariant (I := fun s => s.Kept W ∧ s.Answered) ?_ ⟨start_kept W,fun _ _ h => nomatch h⟩
    intro s e t h step
    exact ⟨step.1.kept e h.1,step.1.answered h.1 h.2 step.2⟩
  exact hboth.1.reuseSafe hboth.2

/-- A window of one folio. -/
def oneFolio : Window := ⟨2^33,SZ_2M,by decide⟩

/-- The only node of that window. -/
def onlyNode : Extent := ⟨2^33,SZ_2M,by decide⟩

/-- A blob of one page is mapped; its UNMAP_BLOB fails and its UNREF is answered with a type; then the
next blob takes the folio. -/
def reuseEvents (unmapType unrefType : ℕ) : List WindowEvent :=
  [.create 0 PAGE_SIZE true,.insertNode 0 onlyNode,.cmdMap 0,.host (.createBlob 0) 0x1100,
    .host (.mapBlob 0 0 PAGE_SIZE) VIRTIO_GPU_RESP_OK_MAP_INFO,
    .response (.mapBlob 0 0 PAGE_SIZE) VIRTIO_GPU_RESP_OK_MAP_INFO,.lastPut 0,
    .host (.unmapBlob 0) unmapType,.host (.resourceUnref 0) unrefType,
    .response (.resourceUnref 0) unrefType,.create 1 PAGE_SIZE true,.insertNode 1 onlyNode]

theorem hostVisible_reused_mapped :
    ¬∀ W es s, Transition.Run (WindowStep W) .start es s → s.Exclusive ∧ s.ReuseSafe := by
  intro h
  have hcreate : (WindowCmd.createBlob 0).Allows oneFolio 0x1100 [] [] := List.Subset.refl _
  have hmap : (WindowCmd.mapBlob 0 0 PAGE_SIZE).Allows oneFolio VIRTIO_GPU_RESP_OK_MAP_INFO []
      [⟨0,2^33,PAGE_SIZE⟩] := fun m hm => .inr (List.mem_singleton.mp hm)
  have hunmap : (WindowCmd.unmapBlob 0).Allows oneFolio 0x1200 [⟨0,2^33,PAGE_SIZE⟩]
      [⟨0,2^33,PAGE_SIZE⟩] := ⟨List.Subset.refl _,by decide⟩
  have hunref : (WindowCmd.resourceUnref 0).Allows oneFolio 0x1200 [⟨0,2^33,PAGE_SIZE⟩]
      [⟨0,2^33,PAGE_SIZE⟩] := ⟨List.Subset.refl _,by decide⟩
  have hrun : ∃ s, Transition.Run (WindowStep oneFolio) .start (reuseEvents 0x1200 0x1200) s ∧
      s.mappings = [⟨0,2^33,PAGE_SIZE⟩] ∧ ∃ p, s.objects 1 = some p ∧ p.node = some onlyNode := by
    refine ⟨_,.cons (.create rfl) <| .cons (.insertNode rfl rfl ⟨by decide,by decide,by decide,?_⟩) <|
      .cons (.cmdMap rfl rfl rfl) <| .cons (.host rfl hcreate) <| .cons (.host rfl hmap) <|
      .cons (.responseMap rfl rfl) <| .cons (.lastPut rfl rfl rfl) <| .cons (.host rfl hunmap) <|
      .cons (.host rfl hunref) <| .cons (.responseUnref rfl rfl) <| .cons (.create rfl) <|
      .cons (.insertNode rfl rfl ⟨by decide,by decide,by decide,?_⟩) (.nil _),rfl,_,rfl,rfl⟩
    · intro j o f ho hf
      match j with
      | 0 =>
        cases ho
        exact nomatch hf
      | j+1 => exact nomatch ho
    · intro j o f ho hf
      match j with
      | 0 =>
        cases ho
        exact nomatch hf
      | 1 =>
        cases ho
        exact nomatch hf
      | j+2 => exact nomatch ho
  obtain ⟨s,run,hmap,p,hp,hnode⟩ := hrun
  have hsafe := (h _ _ _ run).2
  refine hsafe.unmapped ⟨0,2^33,PAGE_SIZE⟩ ?_ 1 p onlyNode (by decide) hp hnode 4096 ?_ ?_
  · rw [hmap]
    exact List.mem_singleton_self _
  · exact ⟨by decide,by decide⟩
  · exact ⟨by decide,by decide⟩

/-- With confirmed answers the folio is used again and safe. -/
theorem hostVisible_reuse_confirmed :
    ∃ s, Transition.Run (fun s e t => WindowStep oneFolio s e t ∧ s.ConfirmedReply e) .start
      (reuseEvents 0x1100 0x1100) s ∧ s.mappings = [] ∧ s.ReuseSafe := by
  have hcreate : (WindowCmd.createBlob 0).Allows oneFolio 0x1100 [] [] := List.Subset.refl _
  have hmap : (WindowCmd.mapBlob 0 0 PAGE_SIZE).Allows oneFolio VIRTIO_GPU_RESP_OK_MAP_INFO []
      [⟨0,2^33,PAGE_SIZE⟩] := fun m hm => .inr (List.mem_singleton.mp hm)
  have hunmap : (WindowCmd.unmapBlob 0).Allows oneFolio 0x1100 [⟨0,2^33,PAGE_SIZE⟩] [] :=
    ⟨List.nil_subset _,nofun⟩
  have hunref : (WindowCmd.resourceUnref 0).Allows oneFolio 0x1100 [] [] :=
    ⟨List.Subset.refl _,nofun⟩
  have hrun : ∃ s, Transition.Run (fun s e t => WindowStep oneFolio s e t ∧ s.ConfirmedReply e) .start
      (reuseEvents 0x1100 0x1100) s ∧ s.mappings = [] := by
    refine ⟨_,.cons ⟨.create rfl,trivial⟩ <|
      .cons ⟨.insertNode rfl rfl ⟨by decide,by decide,by decide,?_⟩,trivial⟩ <|
      .cons ⟨.cmdMap rfl rfl rfl,trivial⟩ <| .cons ⟨.host rfl hcreate,trivial⟩ <|
      .cons ⟨.host rfl hmap,trivial⟩ <| .cons ⟨.responseMap rfl rfl,trivial⟩ <|
      .cons ⟨.lastPut rfl rfl rfl,trivial⟩ <| .cons ⟨.host rfl hunmap,trivial⟩ <|
      .cons ⟨.host rfl hunref,trivial⟩ <|
      .cons ⟨.responseUnref rfl rfl,fun _ _ _ => .inl rfl⟩ <| .cons ⟨.create rfl,trivial⟩ <|
      .cons ⟨.insertNode rfl rfl ⟨by decide,by decide,by decide,?_⟩,trivial⟩ (.nil _),rfl⟩
    · intro j o f ho hf
      match j with
      | 0 =>
        cases ho
        exact nomatch hf
      | j+1 => exact nomatch ho
    · intro j o f ho hf
      match j with
      | 0 =>
        cases ho
        exact nomatch hf
      | 1 =>
        cases ho
        exact nomatch hf
      | j+2 => exact nomatch ho
  obtain ⟨s,run,hmappings⟩ := hrun
  exact ⟨s,run,hmappings,(hostVisible_reuse oneFolio).2.1 _ s run⟩

end GuestAdditions

import GuestAdditions.Capset.Cache
import Mathlib.Data.List.Perm.Basic
import Mathlib.Data.List.Nodup

/-! What the callers of `VIRTGPU_GET_CAPS` get: each capability set is asked for once, and what a call copies
to the user is what the host's answer has left in the response buffer, an error or a short one included. -/
namespace GuestAdditions

lemma capsetData_length {room : ℕ} {resp : List UInt8} (h : resp.length ≤ respCapsetSize+room) :
    (capsetData room resp).length = room := by
  rw [capsetData,List.length_drop,padTo_length h,Nat.add_sub_cancel_left]

/-- The host's answer fills the buffer. -/
theorem capsetData_full {room : ℕ} {resp : List UInt8} (h : resp.length = respCapsetSize+room) :
    capsetData room resp = resp.drop respCapsetSize := by
  rw [capsetData,padTo,h,Nat.sub_self,List.replicate_zero,List.append_nil]

/-- The capability set that the call is about to ask for. -/
def CapsCall.owes (c : CapsCall) : Option (ℕ × ℕ) :=
  match c.pc with
  | .send .. => some c.args.key
  | _ => none

namespace CapsetDev

/-- The capability sets that callers are about to ask for. -/
def owed (s : CapsetDev) : List (ℕ × ℕ) := s.calls.filterMap CapsCall.owes

/-- The size of the capability set with the id and the version. -/
def maxSize (s : CapsetDev) (key : ℕ × ℕ) : Option ℕ :=
  (s.findValid key).bind fun i => s.capsets[i]?.map DrvCapset.maxSize

/-- The call has the entry of its capability set, and copies no more than is in it. -/
def Points (s : CapsetDev) (args : GetCaps) (ent size : ℕ) : Prop :=
  ∃ e, s.capCache[ent]? = some e ∧ e.key = args.key ∧ size = min args.size e.size

/-- What a call knows where it is. -/
def CallOk (s : CapsetDev) (c : CapsCall) : Prop :=
  match c.pc with
  | .lookup => True
  | .getCapset idx size =>
    s.findValid c.args.key = some idx ∧ some size = (s.maxSize c.args.key).map (min c.args.size)
  | .send idx ent size => s.findValid c.args.key = some idx ∧ s.Points c.args ent size
  | .wait ent size => s.Points c.args ent size
  | .done ret copied => ret = 0 → ∃ resp room, (c.args.key,resp) ∈ s.answered ∧
      s.maxSize c.args.key = some room ∧ copied = (capsetData room resp).take c.args.size

/-- The invariant: there is one entry for each capability set that was looked for, with its size; each of them is
asked for once, by the call that made the entry; and the entries that are valid have the data of the host's
answer. -/
structure Cached (s : CapsetDev) : Prop where
  distinct : (s.capCache.map DrvCapCache.key).Nodup
  sized : ∀ e ∈ s.capCache, s.maxSize e.key = some e.size
  once : (s.sent ++ s.owed).Nodup
  entered : ∀ k ∈ s.sent ++ s.owed, k ∈ s.capCache.map DrvCapCache.key
  split : s.sent.Perm (s.inFlight.map GetCapset.key ++ s.answered.map Prod.fst)
  room : ∀ r ∈ s.inFlight, s.maxSize r.key = some r.room
  valid : ∀ e ∈ s.capCache, e.isValid = true → ∃ resp, (e.key,resp) ∈ s.answered ∧
    resp.length ≤ respCapsetSize+e.size ∧ e.capsCache = capsetData e.size resp
  awaited : s.unplugged = false → ∀ e ∈ s.capCache, e.isValid = false → e.key ∉ s.refused →
    e.key ∈ s.inFlight.map GetCapset.key ++ s.owed
  calls : ∀ c ∈ s.calls, s.CallOk c

variable {s t : CapsetDev} {c c' : CapsCall} {pc : CapsPc} {args : GetCaps} {n ent size idx : ℕ} {e : CapsEvent}
  {es : List CapsEvent} {key : ℕ × ℕ} {data resp : List UInt8}

lemma findEnt_some (h : s.findEnt key = some ent) :
    ∃ e, s.capCache[ent]? = some e ∧ e.key = key := by
  obtain ⟨hlt,hkey,-⟩ := List.findIdx?_eq_some_iff_getElem.mp h
  exact ⟨s.capCache[ent],List.getElem?_eq_getElem hlt,by simpa using hkey⟩

lemma findEnt_none (h : s.findEnt key = none) : key ∉ s.capCache.map DrvCapCache.key := by
  rw [List.mem_map]
  rintro ⟨e,he,rfl⟩
  have hne := List.findIdx?_eq_none_iff.mp h e he
  simp at hne

lemma findValid_some (h : s.findValid key = some idx) :
    ∃ c, s.capsets[idx]? = some c ∧ c.id = key.1 ∧ key.2 ≤ c.maxVersion ∧ s.maxSize key = some c.maxSize := by
  obtain ⟨hlt,hc,-⟩ := List.findIdx?_eq_some_iff_getElem.mp h
  simp only [ge_iff_le,decide_eq_true_eq] at hc
  refine ⟨s.capsets[idx],List.getElem?_eq_getElem hlt,hc.1,hc.2,?_⟩
  rw [maxSize,h,Option.bind_some,List.getElem?_eq_getElem hlt,Option.map_some]

/-- Entries stay, with their keys and sizes, and so do answers. -/
structure Grows (s t : CapsetDev) : Prop where
  capsets : t.capsets = s.capsets
  entries : ∀ (ent : ℕ) (e : DrvCapCache), s.capCache[ent]? = some e →
    ∃ e' : DrvCapCache, t.capCache[ent]? = some e' ∧ e'.key = e.key ∧ e'.size = e.size
  answered : ∀ a ∈ s.answered, a ∈ t.answered

lemma Grows.maxSize (h : Grows s t) (key : ℕ × ℕ) : t.maxSize key = s.maxSize key := by
  rw [CapsetDev.maxSize,CapsetDev.maxSize,findValid,findValid,h.capsets]

lemma Grows.points (h : Grows s t) (hp : s.Points args ent size) : t.Points args ent size := by
  obtain ⟨e,he,hkey,hsize⟩ := hp
  obtain ⟨e',he',hkey',hsize'⟩ := h.entries ent e he
  exact ⟨e',he',hkey'.trans hkey,by rw [hsize',hsize]⟩

lemma Grows.callOk (h : Grows s t) (hc : s.CallOk c) : t.CallOk c := by
  have hfind : t.findValid c.args.key = s.findValid c.args.key := by rw [findValid,findValid,h.capsets]
  unfold CallOk at hc ⊢
  split at hc
  · trivial
  · rwa [hfind,h.maxSize]
  · exact ⟨hfind.trans hc.1,h.points hc.2⟩
  · exact h.points hc
  · intro hret
    obtain ⟨resp,room,hmem,hmax,hcopied⟩ := hc hret
    exact ⟨resp,room,h.answered _ hmem,by rwa [h.maxSize],hcopied⟩

/-- What is owed changes by the call that takes the step. -/
theorem owed_setPc (hn : s.calls[n]? = some c) (pc : CapsPc) : ∃ rest, s.owed.Perm (c.owes.toList ++ rest) ∧
    (s.setPc n c pc).owed.Perm ((CapsCall.owes ⟨c.args,pc⟩).toList ++ rest) := by
  obtain ⟨hlt,rfl⟩ := List.getElem?_eq_some_iff.mp hn
  have hcons : ∀ (c : CapsCall) (l : List CapsCall),
      (c::l).filterMap CapsCall.owes = c.owes.toList ++ l.filterMap CapsCall.owes := fun c l => by
    rw [List.filterMap_cons]
    cases c.owes <;> rfl
  refine ⟨(s.calls.eraseIdx n).filterMap CapsCall.owes,?_,?_⟩
  · rw [← hcons]
    exact (List.getElem_cons_eraseIdx_perm hlt).symm.filterMap _
  · rw [← hcons]
    exact (List.set_perm_cons_eraseIdx hlt _).filterMap _

lemma calls_setPc (h : ∀ c ∈ s.calls, t.CallOk c) (hok : t.CallOk ⟨c.args,pc⟩) :
    ∀ c' ∈ (s.setPc n c pc).calls, t.CallOk c' := fun c' hc' => by
  rcases List.mem_or_eq_of_mem_set hc' with hmem | rfl
  · exact h c' hmem
  · exact hok

/-- A step of a call that is not about to ask before or after it. -/
theorem Cached.quiet (h : s.Cached) (hn : s.calls[n]? = some c) (hbefore : c.owes = none)
    (hafter : CapsCall.owes ⟨c.args,pc⟩ = none) (hok : s.CallOk ⟨c.args,pc⟩) : (s.setPc n c pc).Cached := by
  obtain ⟨rest,hs,ht⟩ := owed_setPc hn pc
  rw [hbefore] at hs
  rw [hafter] at ht
  have howed : (s.setPc n c pc).owed.Perm s.owed := ht.trans hs.symm
  refine ⟨h.distinct,h.sized,?_,fun k hk => ?_,h.split,h.room,h.valid,fun hp e he hv hr => ?_,
    calls_setPc h.calls hok⟩
  · exact (howed.append_left _).nodup_iff.mpr h.once
  · exact h.entered k ((howed.append_left _).mem_iff.mp hk)
  · exact (howed.append_left _).mem_iff.mpr (h.awaited hp e he hv hr)

lemma done_ok {ret : ℤ} (hret : ret ≠ 0) : s.CallOk ⟨args,.done ret data⟩ := fun h0 => absurd h0 hret

lemma Cached.points (h : s.Cached) (he : s.findEnt key = some ent) (hkey : args.key = key)
    (hsize : some size = (s.maxSize key).map (min args.size)) : s.Points args ent size := by
  obtain ⟨e,hent,hek⟩ := findEnt_some he
  refine ⟨e,hent,hek.trans hkey.symm,?_⟩
  rw [← hek,h.sized e (List.mem_of_getElem? hent),Option.map_some] at hsize
  exact Option.some.inj hsize

lemma Cached.lookup (h : s.Cached) (hn : s.calls[n]? = some ⟨args,.lookup⟩) :
    (s.setPc n ⟨args,.lookup⟩ (s.getCapsIoctl args)).Cached := by
  unfold getCapsIoctl
  split
  · exact h.quiet hn rfl rfl (done_ok (by decide))
  split
  · exact h.quiet hn rfl rfl (done_ok (by decide))
  split
  · exact h.quiet hn rfl rfl (done_ok (by decide))
  rename_i idx hidx
  obtain ⟨c,hc,-,-,hmax⟩ := findValid_some hidx
  dsimp only
  rw [hc,Option.map_some,Option.getD_some]
  have hsize : some (min args.size c.maxSize) = (s.maxSize args.key).map (min args.size) := by
    rw [hmax,Option.map_some]
  split
  · rename_i ent hent
    exact h.quiet hn rfl rfl (h.points hent rfl hsize)
  · exact h.quiet hn rfl rfl ⟨hidx,hsize⟩

/-- A new entry, which the call that made it asks for. -/
theorem Cached.entered_one (h : s.Cached) {e : DrvCapCache} (hmax : s.maxSize e.key = some e.size)
    (hnew : e.key ∉ s.capCache.map DrvCapCache.key) (hinvalid : e.isValid = false)
    (hcache : t.capCache = s.capCache ++ [e]) (hcapsets : t.capsets = s.capsets)
    (hflight : t.inFlight = s.inFlight) (hsent : t.sent = s.sent) (hanswered : t.answered = s.answered)
    (hrefused : t.refused = s.refused) (hplug : t.unplugged = s.unplugged) (howed : t.owed.Perm (e.key::s.owed))
    (hcalls : ∀ c ∈ t.calls, t.CallOk c) : t.Cached := by
  have hsize : ∀ k, t.maxSize k = s.maxSize k := fun k => by
    rw [maxSize,maxSize,findValid,findValid,hcapsets]
  have hkeys : t.capCache.map DrvCapCache.key = s.capCache.map DrvCapCache.key ++ [e.key] := by
    rw [hcache,List.map_append,List.map_singleton]
  have hmem : ∀ e' ∈ t.capCache, e' ∈ s.capCache ∨ e' = e := fun e' he' => by
    rwa [hcache,List.mem_append,List.mem_singleton] at he'
  have hwhole : (t.sent ++ t.owed).Perm (e.key::(s.sent ++ s.owed)) := by
    rw [hsent]
    exact (howed.append_left _).trans List.perm_middle
  refine ⟨?_,fun e' he' => ?_,?_,fun k hk => ?_,?_,fun r hr => ?_,fun e' he' hv => ?_,
    fun hp e' he' hv hr => ?_,hcalls⟩
  · rw [hkeys]
    exact h.distinct.append (List.nodup_singleton _) (by simpa using hnew)
  · rw [hsize]
    rcases hmem e' he' with hold | rfl
    · exact h.sized e' hold
    · exact hmax
  · exact hwhole.nodup_iff.mpr (List.nodup_cons.mpr ⟨fun hk => hnew (h.entered _ hk),h.once⟩)
  · rw [hkeys,List.mem_append,List.mem_singleton]
    rcases List.mem_cons.mp (hwhole.mem_iff.mp hk) with rfl | hold
    · exact .inr rfl
    · exact .inl (h.entered k hold)
  · rw [hsent,hflight,hanswered]
    exact h.split
  · rw [hflight] at hr
    rw [hsize]
    exact h.room r hr
  · rw [hanswered]
    rcases hmem e' he' with hold | rfl
    · exact h.valid e' hold hv
    · rw [hinvalid] at hv
      cases hv
  · rw [hplug] at hp
    rw [hflight,List.mem_append,howed.mem_iff,List.mem_cons]
    rcases hmem e' he' with hold | rfl
    · rw [hrefused] at hr
      rcases List.mem_append.mp (h.awaited hp e' hold hv hr) with hfl | how
      · exact .inl hfl
      · exact .inr (.inr how)
    · exact .inr (.inl rfl)

lemma Cached.getCapset (h : s.Cached) (hn : s.calls[n]? = some ⟨args,.getCapset idx size⟩)
    (allocs : CapsetAllocs) :
    ((s.cmdGetCapset idx args.capSetVer size allocs).2.setPc n ⟨args,.getCapset idx size⟩
      (s.cmdGetCapset idx args.capSetVer size allocs).1).Cached := by
  obtain ⟨hidx,hsize⟩ : s.findValid args.key = some idx ∧ some size = (s.maxSize args.key).map (min args.size) :=
    h.calls _ (List.mem_of_getElem? hn)
  obtain ⟨d,hd,hid,-,hmax⟩ := findValid_some hidx
  have hkey : (d.id,args.capSetVer) = args.key := by rw [hid]; rfl
  unfold cmdGetCapset
  rw [hd]
  dsimp only
  split
  · exact h.quiet hn rfl rfl (done_ok (by decide))
  split
  · exact h.quiet hn rfl rfl (done_ok (by decide))
  split
  · exact h.quiet hn rfl rfl (done_ok (by decide))
  split
  · exact h.quiet hn rfl rfl (done_ok (by decide))
  rw [hkey]
  split
  · rename_i ent hent
    exact h.quiet hn rfl rfl (h.points hent rfl hsize)
  rename_i hnone
  generalize he : (⟨[],d.id,args.capSetVer,d.maxSize,false⟩ : DrvCapCache) = e
  have hek : e.key = args.key := by rw [← he]; exact hkey
  have hes : e.size = d.maxSize := by rw [← he]
  obtain ⟨rest,hs,ht⟩ := owed_setPc (s := { s with capCache := s.capCache ++ [e] })
    hn (.send idx s.capCache.length size)
  have hgrows : Grows s { s with capCache := s.capCache ++ [e] } := by
    refine ⟨rfl,fun ent e' he' => ⟨e',?_,rfl,rfl⟩,fun a ha => ha⟩
    rw [List.getElem?_append_left (List.getElem?_eq_some_iff.mp he').1]
    exact he'
  refine h.entered_one (e := e) (by rw [hek,hmax,hes]) (by rw [hek]; exact findEnt_none hnone) (by rw [← he]) rfl
    rfl rfl rfl rfl rfl rfl ?_ (calls_setPc (fun c hc => hgrows.callOk (h.calls c hc)) ⟨hidx,e,?_,hek,?_⟩)
  · rw [hek]
    exact ht.trans (List.Perm.cons _ hs.symm)
  · exact List.getElem?_concat_length ..
  · rw [hmax,Option.map_some,← hes] at hsize
    exact Option.some.inj hsize

/-- A command is sent for what was owed. -/
theorem Cached.asked (h : s.Cached) {r : GetCapset} (hmax : s.maxSize r.key = some r.room)
    (hcapsets : t.capsets = s.capsets) (hcache : t.capCache = s.capCache) (hanswered : t.answered = s.answered)
    (hflight : t.inFlight = s.inFlight ++ [r]) (hsent : t.sent = s.sent ++ [r.key])
    (hrefused : t.refused = s.refused) (hplug : t.unplugged = s.unplugged) (howed : s.owed.Perm (r.key::t.owed))
    (hcalls : ∀ c ∈ t.calls, t.CallOk c) : t.Cached := by
  have hsize : ∀ k, t.maxSize k = s.maxSize k := fun k => by
    rw [maxSize,maxSize,findValid,findValid,hcapsets]
  have hwhole : (t.sent ++ t.owed).Perm (s.sent ++ s.owed) := by
    rw [hsent,List.append_assoc,List.singleton_append]
    exact howed.symm.append_left _
  refine ⟨?_,fun e he => ?_,hwhole.nodup_iff.mpr h.once,fun k hk => ?_,?_,fun q hq => ?_,fun e he => ?_,
    fun hp e he hv hr => ?_,hcalls⟩
  · rw [hcache]
    exact h.distinct
  · rw [hcache] at he
    rw [hsize]
    exact h.sized e he
  · rw [hcache]
    exact h.entered k (hwhole.mem_iff.mp hk)
  · rw [hsent,hflight,hanswered,List.map_append,List.map_singleton,List.append_assoc]
    exact (h.split.append_right _).trans (by
      rw [List.append_assoc]
      exact List.perm_append_comm.append_left _)
  · rw [hsize]
    rw [hflight,List.mem_append,List.mem_singleton] at hq
    rcases hq with hold | rfl
    · exact h.room q hold
    · exact hmax
  · rw [hcache] at he
    rw [hanswered]
    exact h.valid e he
  · rw [hplug] at hp
    rw [hcache] at he
    rw [hrefused] at hr
    rw [hflight,List.map_append,List.map_singleton,List.append_assoc,List.singleton_append]
    exact (howed.append_left _).mem_iff.mp (h.awaited hp e he hv hr)

/-- Nothing is sent for what was owed: the device is gone, or the ring does not take it. -/
theorem Cached.unasked (h : s.Cached) (hcapsets : t.capsets = s.capsets) (hcache : t.capCache = s.capCache)
    (hflight : t.inFlight = s.inFlight) (hsent : t.sent = s.sent) (hanswered : t.answered = s.answered)
    (howed : s.owed.Perm (key::t.owed))
    (hlost : t.unplugged = true ∨ t.unplugged = s.unplugged ∧ t.refused = s.refused ++ [key])
    (hcalls : ∀ c ∈ t.calls, t.CallOk c) : t.Cached := by
  have hsize : ∀ k, t.maxSize k = s.maxSize k := fun k => by
    rw [maxSize,maxSize,findValid,findValid,hcapsets]
  have honce := (howed.append_left s.sent).nodup_iff.mp h.once
  have hsub : ∀ k ∈ t.owed, k ∈ s.owed := fun k hk => howed.mem_iff.mpr (List.mem_cons_of_mem _ hk)
  refine ⟨by rw [hcache]; exact h.distinct,fun e he => ?_,?_,fun k hk => ?_,?_,fun r hr => ?_,fun e he => ?_,
    fun hp e he hv hr => ?_,hcalls⟩
  · rw [hcache] at he
    rw [hsize]
    exact h.sized e he
  · rw [hsent]
    exact (List.nodup_middle.mp honce).of_cons
  · rw [hcache]
    rw [hsent] at hk
    exact h.entered k ((List.mem_append.mp hk).elim (List.mem_append_left _) fun hk =>
      List.mem_append_right _ (hsub k hk))
  · rw [hsent,hflight,hanswered]
    exact h.split
  · rw [hflight] at hr
    rw [hsize]
    exact h.room r hr
  · rw [hcache] at he
    rw [hanswered]
    exact h.valid e he
  · rcases hlost with hgone | ⟨hplug,hrefused⟩
    · rw [hgone] at hp
      cases hp
    · rw [hplug] at hp
      rw [hcache] at he
      rw [hrefused,List.mem_append,List.mem_singleton,not_or] at hr
      rw [hflight,List.mem_append]
      rcases List.mem_append.mp (h.awaited hp e he hv hr.1) with hfl | how
      · exact .inl hfl
      · exact .inr ((List.mem_cons.mp (howed.mem_iff.mp how)).resolve_left hr.2)

/-- The command of a new entry. -/
theorem Cached.send (h : s.Cached) (hn : s.calls[n]? = some ⟨args,.send idx ent size⟩) {d : DrvCapset}
    (hd : s.capsets[idx]? = some d) (addOk : Bool) :
    ((s.queueGetCapset d args.capSetVer addOk).setPc n ⟨args,.send idx ent size⟩ (.wait ent size)).Cached := by
  obtain ⟨hidx,hpoints⟩ : s.findValid args.key = some idx ∧ s.Points args ent size :=
    h.calls _ (List.mem_of_getElem? hn)
  obtain ⟨d',hd',hid,-,hmax⟩ := findValid_some hidx
  obtain rfl : d = d' := Option.some.inj (hd.symm.trans hd')
  have hkey : (d.id,args.capSetVer) = args.key := by rw [hid]; rfl
  obtain ⟨rest,hs,ht⟩ := owed_setPc hn (.wait ent size)
  have hperm : (s.owed).Perm (args.key::(s.setPc n ⟨args,.send idx ent size⟩ (.wait ent size)).owed) :=
    hs.trans (List.Perm.cons _ ht.symm)
  have hcalls : ∀ c ∈ (s.setPc n ⟨args,.send idx ent size⟩ (.wait ent size)).calls, s.CallOk c :=
    calls_setPc h.calls hpoints
  unfold queueGetCapset
  split
  · rename_i hgone
    exact h.unasked rfl rfl rfl rfl rfl hperm (.inl hgone) hcalls
  split
  · exact h.unasked rfl rfl rfl rfl rfl hperm (.inr ⟨rfl,by rw [← hkey]; rfl⟩) hcalls
  · refine h.asked (r := ⟨d.id,args.capSetVer,d.maxSize⟩) ?_ rfl rfl rfl rfl rfl rfl rfl ?_ hcalls
    · exact (congrArg s.maxSize hkey).trans hmax
    · rw [← hkey] at hperm
      exact hperm

/-- One entry changes, and keeps its key. -/
theorem keys_modify {f : DrvCapCache → DrvCapCache} (hf : ∀ e, (f e).key = e.key) (ent : ℕ) :
    (s.capCache.modify ent f).map DrvCapCache.key = s.capCache.map DrvCapCache.key := by
  refine List.ext_getElem? fun j => ?_
  rw [List.getElem?_map,List.getElem?_map,List.getElem?_modify,Option.map_eq_map,Option.map_map]
  congr 1
  funext e
  simp only [Function.comp_apply]
  split
  · exact hf e
  · rfl

/-- The other entries are of other capability sets. -/
theorem Cached.mem_modify (h : s.Cached) {f : DrvCapCache → DrvCapCache} {e : DrvCapCache}
    (hent : s.capCache[ent]? = some e) (e' : DrvCapCache) (he' : e' ∈ s.capCache.modify ent f) :
    e' = f e ∨ e' ∈ s.capCache ∧ e'.key ≠ e.key := by
  obtain ⟨j,hj⟩ := List.mem_iff_getElem?.mp he'
  rw [List.getElem?_modify,Option.map_eq_map] at hj
  by_cases hje : ent = j
  · subst hje
    rw [hent,Option.map_some,if_pos rfl] at hj
    exact .inl (Option.some.inj hj).symm
  · replace hj : s.capCache[j]? = some e' := by simpa [hje] using hj
    refine .inr ⟨List.mem_of_getElem? hj,fun hkey => hje ?_⟩
    obtain ⟨hlt,rfl⟩ := List.getElem?_eq_some_iff.mp hent
    obtain ⟨hlt',rfl⟩ := List.getElem?_eq_some_iff.mp hj
    have hent : ent < (s.capCache.map DrvCapCache.key).length := by rwa [List.length_map]
    have hj : j < (s.capCache.map DrvCapCache.key).length := by rwa [List.length_map]
    have hsame : (s.capCache.map DrvCapCache.key)[ent] = (s.capCache.map DrvCapCache.key)[j] := by
      rw [List.getElem_map,List.getElem_map,hkey]
    exact h.distinct.getElem_inj_iff.mp hsame

/-- The answer goes to the entry that waits for it, and fits. -/
theorem Cached.answer (h : s.Cached) {r : GetCapset} (hr : s.inFlight[n]? = some r)
    (hlen : resp.length ≤ respCapsetSize+r.room) :
    (({ s with inFlight := s.inFlight.eraseIdx n, answered := s.answered ++ [(r.key,resp)] } :
      CapsetDev).cmdCapsetCb r.key (capsetData r.room resp)).Cached := by
  obtain ⟨hlt,hrn⟩ := List.getElem?_eq_some_iff.mp hr
  have hflight : (s.inFlight.map GetCapset.key).Perm
      (r.key::(s.inFlight.eraseIdx n).map GetCapset.key) := by
    rw [← hrn]
    exact (List.getElem_cons_eraseIdx_perm hlt).symm.map _
  have hsent : r.key ∈ s.sent := h.split.mem_iff.mpr
    (List.mem_append_left _ (hflight.mem_iff.mpr List.mem_cons_self))
  cases hfind : s.findEnt r.key with
  | none => exact absurd (h.entered _ (List.mem_append_left _ hsent)) (findEnt_none hfind)
  | some ent =>
    obtain ⟨e,hent,hek⟩ := findEnt_some hfind
    have hroom : r.room = e.size := by
      have hs := h.sized e (List.mem_of_getElem? hent)
      rw [hek,h.room r (List.mem_of_getElem? hr)] at hs
      exact Option.some.inj hs
    have hlength := capsetData_length hlen
    rw [hroom] at hlen hlength ⊢
    generalize hdata : capsetData e.size resp = data at hlength ⊢
    unfold cmdCapsetCb
    rw [show ({ s with inFlight := s.inFlight.eraseIdx n, answered := s.answered ++ [(r.key,resp)] } :
      CapsetDev).findEnt r.key = some ent from hfind]
    dsimp only
    have hmem := h.mem_modify (f := fun e => { e with capsCache := data.take e.size, isValid := true }) hent
    have hkeys := keys_modify (s := s) (f := fun e => { e with capsCache := data.take e.size, isValid := true })
      (fun _ => rfl) ent
    refine ⟨?_,fun e' he' => ?_,h.once,fun k hk => ?_,?_,fun q hq => ?_,fun e' he' hv => ?_,
      fun hp e' he' hv hrf => ?_,fun c hc => Grows.callOk (s := s) ⟨rfl,fun j e' hj => ?_,fun a ha => ?_⟩ (h.calls c hc)⟩
    · rw [hkeys]
      exact h.distinct
    · rcases hmem e' he' with rfl | ⟨hold,-⟩
      · exact h.sized e (List.mem_of_getElem? hent)
      · exact h.sized e' hold
    · rw [hkeys]
      exact h.entered k hk
    · rw [List.map_append,List.map_singleton]
      refine h.split.trans ((hflight.append_right _).trans ?_)
      rw [← List.append_assoc]
      exact (List.perm_append_singleton _ _).symm
    · exact h.room q (List.mem_of_mem_eraseIdx hq)
    · rcases hmem e' he' with rfl | ⟨hold,-⟩
      · refine ⟨resp,List.mem_append_right _ ?_,hlen,?_⟩
        · rw [List.mem_singleton,← hek]
          rfl
        · change data.take e.size = capsetData e.size resp
          rw [List.take_of_length_le (Nat.le_of_eq hlength),hdata]
      · obtain ⟨old,hans,hsame⟩ := h.valid e' hold hv
        exact ⟨old,List.mem_append_left _ hans,hsame⟩
    · rcases hmem e' he' with rfl | ⟨hold,hne⟩
      · cases hv
      · have haw := h.awaited hp e' hold hv hrf
        rw [List.mem_append,hflight.mem_iff,List.mem_cons,← hek] at haw
        rcases haw with (heq | hfl) | how
        · exact absurd heq hne
        · exact List.mem_append_left _ hfl
        · exact List.mem_append_right _ how
    · refine ⟨if ent = j then { e' with capsCache := data.take e'.size, isValid := true } else e',?_,?_,?_⟩
      · change (s.capCache.modify ent _)[j]? = _
        rw [List.getElem?_modify,hj]
        split <;> rfl
      · split <;> rfl
      · split <;> rfl
    · exact List.mem_append_left _ ha

/-- What a woken call copies. -/
theorem Cached.wake (h : s.Cached) (hn : s.calls[n]? = some ⟨args,.wait ent size⟩) {e : DrvCapCache}
    (hent : s.capCache[ent]? = some e) (hvalid : e.isValid = true) :
    s.CallOk ⟨args,.done 0 (e.capsCache.take size)⟩ := by
  obtain ⟨e',he',hkey,hsize⟩ : s.Points args ent size := h.calls _ (List.mem_of_getElem? hn)
  obtain rfl : e = e' := Option.some.inj (hent.symm.trans he')
  have hmem := List.mem_of_getElem? hent
  obtain ⟨resp,hans,hlen,hcache⟩ := h.valid e hmem hvalid
  have hlength := capsetData_length hlen
  intro _
  refine ⟨resp,e.size,hkey ▸ hans,?_,?_⟩
  · rw [← hkey,h.sized e hmem]
  · rw [hcache,hsize,List.take_eq_take_iff,hlength]
    change min (min args.size e.size) e.size = min args.size e.size
    omega

lemma Cached.step (h : s.Cached) (ht : s.step e = some t) : t.Cached := by
  cases e with
  | call args =>
    obtain rfl := Option.some.inj ht
    have howed : ({ s with calls := s.calls ++ [⟨args,.lookup⟩] } : CapsetDev).owed = s.owed := by
      simp [owed,CapsCall.owes]
    refine ⟨h.distinct,h.sized,?_,?_,h.split,h.room,h.valid,?_,fun c hc => ?_⟩
    · rw [howed]
      exact h.once
    · rw [howed]
      exact h.entered
    · rw [howed]
      exact h.awaited
    · rcases List.mem_append.mp hc with hold | hnew
      · exact h.calls c hold
      · obtain rfl := List.mem_singleton.mp hnew
        trivial
  | lookup n =>
    simp only [CapsetDev.step] at ht
    split at ht
    · rename_i args hn
      obtain rfl := Option.some.inj ht
      exact h.lookup hn
    · cases ht
  | getCapset n allocs =>
    simp only [CapsetDev.step] at ht
    split at ht
    · rename_i args idx size hn
      obtain rfl := Option.some.inj ht
      exact h.getCapset hn allocs
    · cases ht
  | send n addOk =>
    simp only [CapsetDev.step] at ht
    split at ht
    · rename_i args idx ent size hn
      split at ht
      · rename_i d hd
        obtain rfl := Option.some.inj ht
        exact h.send hn hd addOk
      · cases ht
    · cases ht
  | answer n resp =>
    simp only [CapsetDev.step] at ht
    split at ht
    · rename_i r hr
      split at ht
      · cases ht
      · rename_i hlen
        obtain rfl := Option.some.inj ht
        exact h.answer hr (not_lt.mp hlen)
    · cases ht
  | wake n faults =>
    simp only [CapsetDev.step] at ht
    split at ht
    · rename_i args ent size hn
      split at ht
      · rename_i e he
        split at ht
        · cases ht
        rename_i hvalid
        split at ht
        · obtain rfl := Option.some.inj ht
          exact h.quiet hn rfl rfl (done_ok (by decide))
        · obtain rfl := Option.some.inj ht
          exact h.quiet hn rfl rfl (h.wake hn he (by simpa using hvalid))
      · cases ht
    · cases ht
  | timeout n =>
    simp only [CapsetDev.step] at ht
    split at ht
    · rename_i args ent size hn
      split at ht
      · cases ht
      · obtain rfl := Option.some.inj ht
        exact h.quiet hn rfl rfl (done_ok (by decide))
    · cases ht
  | unplug =>
    obtain rfl := Option.some.inj ht
    exact ⟨h.distinct,h.sized,h.once,h.entered,h.split,h.room,h.valid,(fun hp => by cases hp),h.calls⟩

lemma start_cached (capsets : List DrvCapset) : (start capsets).Cached := by
  refine ⟨List.nodup_nil,?_,List.nodup_nil,?_,List.Perm.refl _,?_,?_,fun _ => ?_,?_⟩ <;>
    exact fun _ h => absurd h List.not_mem_nil

/-- Over any run of any number of callers, whatever the host answers: each capability set is asked for once
and answered once; every answer on its way has an entry that it fills exactly; a call that returns 0 has copied
what the host's answer for its id and version has left behind the header, up to the size that the user gave, and
that is the host's data if the answer fills the buffer; and unless the device is gone, an entry that is not valid
has its answer on its way or a caller about to ask, or the ring has refused its command. -/
theorem caps_from_host {capsets : List DrvCapset} (hrun : (start capsets).Runs es s) :
    s.sent.Nodup ∧ (s.answered.map Prod.fst).Nodup ∧
      (∀ r ∈ s.inFlight, ∃ e ∈ s.capCache, e.key = r.key ∧ e.size = r.room ∧ e.isValid = false) ∧
      (∀ c ∈ s.calls, ∀ copied, c.pc = .done 0 copied → ∃ resp room, (c.args.key,resp) ∈ s.answered ∧
        s.maxSize c.args.key = some room ∧ copied = (capsetData room resp).take c.args.size ∧
        (resp.length = respCapsetSize+room → copied = (resp.drop respCapsetSize).take c.args.size)) ∧
      (∀ c ∈ s.calls, ∀ ent size, c.pc = .wait ent size →
        ∃ e, s.capCache[ent]? = some e ∧ e.key = c.args.key ∧ size ≤ e.size) ∧
      (s.unplugged = false → ∀ e ∈ s.capCache, e.isValid = false → e.key ∉ s.refused →
        e.key ∈ s.inFlight.map GetCapset.key ∨ ∃ c ∈ s.calls, c.owes = some e.key) := by
  have h : s.Cached := hrun.invariant (fun _ _ _ hs ht => hs.step ht) (start_cached capsets)
  have hsent := h.once.of_append_left
  have hsplit := h.split.nodup_iff.mp hsent
  refine ⟨hsent,hsplit.of_append_right,fun r hr => ?_,fun c hc copied hpc => ?_,fun c hc ent size hpc => ?_,
    fun hp e he hv hrf => ?_⟩
  · have hflight : r.key ∈ s.inFlight.map GetCapset.key := List.mem_map_of_mem hr
    have hasked : r.key ∈ s.sent := h.split.mem_iff.mpr (List.mem_append_left _ hflight)
    obtain ⟨e,he,hkey⟩ := List.mem_map.mp (h.entered _ (List.mem_append_left _ hasked))
    have hsize := h.sized e he
    rw [hkey,h.room r hr] at hsize
    refine ⟨e,he,hkey,(Option.some.inj hsize).symm,?_⟩
    cases hv : e.isValid with
    | false => rfl
    | true =>
      obtain ⟨data,hans,-,-⟩ := h.valid e he hv
      have hkeys : e.key ∈ s.answered.map Prod.fst := List.mem_map_of_mem hans
      rw [hkey] at hkeys
      exact (List.disjoint_of_nodup_append hsplit hflight hkeys).elim
  · have hok := h.calls c hc
    unfold CallOk at hok
    rw [hpc] at hok
    obtain ⟨resp,room,hmem,hmax,hcopied⟩ := hok rfl
    exact ⟨resp,room,hmem,hmax,hcopied,fun hfull => by rw [hcopied,capsetData_full hfull]⟩
  · have hok := h.calls c hc
    unfold CallOk at hok
    rw [hpc] at hok
    obtain ⟨e,he,hkey,hsize⟩ := hok
    exact ⟨e,he,hkey,hsize ▸ Nat.min_le_right _ _⟩
  · rcases List.mem_append.mp (h.awaited hp e he hv hrf) with hfl | how
    · exact .inl hfl
    · exact .inr (List.mem_filterMap.mp how)

/-- An error of the host, with the header only. -/
def errorResp : List UInt8 := leBytes respCapsetSize 0x1200

/-- Two calls for one capability set, both past the cache before either has made the entry, and a call for another
one, which the host answers with an error. -/
theorem caps_of_three_callers :
    ∃ s, (start [⟨4,1,3⟩,⟨6,0,2⟩]).Runs [.call ⟨4,1,2⟩,.call ⟨4,1,8⟩,.lookup 0,.lookup 1,
        .getCapset 1 ⟨true,true,true⟩,.getCapset 0 ⟨true,true,true⟩,.send 1 true,.call ⟨6,0,2⟩,.lookup 2,
        .getCapset 2 ⟨true,true,true⟩,.send 2 true,.answer 1 errorResp,
        .answer 0 (leBytes respCapsetSize 0x1102 ++ [7,8,9]),.wake 0 false,.wake 2 false,.wake 1 false] s ∧
      s.sent = [(4,1),(6,0)] ∧ s.calls = [⟨⟨4,1,2⟩,.done 0 [7,8]⟩,⟨⟨4,1,8⟩,.done 0 [7,8,9]⟩,
        ⟨⟨6,0,2⟩,.done 0 [0,0]⟩] ∧
      s.sent.Nodup ∧ (s.answered.map Prod.fst).Nodup ∧
      (∀ r ∈ s.inFlight, ∃ e ∈ s.capCache, e.key = r.key ∧ e.size = r.room ∧ e.isValid = false) ∧
      (∀ c ∈ s.calls, ∀ copied, c.pc = .done 0 copied → ∃ resp room, (c.args.key,resp) ∈ s.answered ∧
        s.maxSize c.args.key = some room ∧ copied = (capsetData room resp).take c.args.size ∧
        (resp.length = respCapsetSize+room → copied = (resp.drop respCapsetSize).take c.args.size)) ∧
      (∀ c ∈ s.calls, ∀ ent size, c.pc = .wait ent size →
        ∃ e, s.capCache[ent]? = some e ∧ e.key = c.args.key ∧ size ≤ e.size) ∧
      (s.unplugged = false → ∀ e ∈ s.capCache, e.isValid = false → e.key ∉ s.refused →
        e.key ∈ s.inFlight.map GetCapset.key ∨ ∃ c ∈ s.calls, c.owes = some e.key) := by
  have hrun : (start [⟨4,1,3⟩,⟨6,0,2⟩]).Runs [.call ⟨4,1,2⟩,.call ⟨4,1,8⟩,.lookup 0,.lookup 1,
      .getCapset 1 ⟨true,true,true⟩,.getCapset 0 ⟨true,true,true⟩,.send 1 true,.call ⟨6,0,2⟩,.lookup 2,
      .getCapset 2 ⟨true,true,true⟩,.send 2 true,.answer 1 errorResp,
      .answer 0 (leBytes respCapsetSize 0x1102 ++ [7,8,9]),.wake 0 false,.wake 2 false,.wake 1 false] _ :=
    .cons rfl (.cons rfl (.cons rfl (.cons rfl (.cons rfl (.cons rfl (.cons rfl (.cons rfl (.cons rfl
      (.cons rfl (.cons rfl (.cons rfl (.cons rfl (.cons rfl (.cons rfl (.cons rfl
        (.nil _))))))))))))))))
  exact ⟨_,hrun,rfl,rfl,caps_from_host hrun⟩

end CapsetDev
end GuestAdditions

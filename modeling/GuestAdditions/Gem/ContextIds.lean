import GuestAdditions.Gem.Context
import GuestAdditions.Library.Lifetime
import GuestAdditions.Library.Transition
import GuestAdditions.Resource.Ids

/-! All the files of the render node: their context ids, and the commands about the contexts on the one
control queue. -/
namespace GuestAdditions
open Lifetime

/-- The commands that name a context: those of the file itself, and the submissions, transfers and blobs. -/
inductive DevCtxCmd
  | file (cmd : CtxCmd)
  | use (ctx : ℕ)
  deriving DecidableEq

/-- What the command does to the context at the host. -/
def DevCtxCmd.about : DevCtxCmd → Option (ℕ × Act)
  | .file (.create ctx _) => some (ctx,.creates)
  | .file (.attachResource ctx _) | .file (.detachResource ctx _) | .use ctx => some (ctx,.uses)
  | .file (.destroy ctx) => some (ctx,.destroys)

/-- An opened file. It has its id until `ida_free`, which comes after the context is destroyed. -/
structure ContextFile where
  file : RenderFile
  hasId : Bool

/-- The driver: `ctx_id_ida`, the files, and the commands put on the ring. -/
structure ContextDev where
  ctxIdIda : List ℕ
  files : List ContextFile
  sent : List DevCtxCmd
  unplugged : Bool

/-- A file is opened, something happens on file `i`, an ioctl on it calls `virtio_gpu_create_context` and then
sends a command that names its context, `virtio_gpu_driver_postclose` comes to its end, or the device is
removed. -/
inductive CtxDevEvent
  | driverOpen (memory idMemory : Bool)
  | onFile (i : ℕ) (e : FileEvent)
  | use (i : ℕ)
  | idaFree (i : ℕ)
  | unplug

namespace ContextDev

def start : ContextDev := ⟨[],[],[],false⟩

def send (s : ContextDev) (cmds : List DevCtxCmd) : ContextDev :=
  if s.unplugged then s else { s with sent := s.sent ++ cmds }

/-- `virtio_gpu_driver_open`. -/
def driverOpen (dev : RenderDev) (s : ContextDev) (memory idMemory : Bool) : ContextDev :=
  if dev.hasVirgl3d = false then s
  else if memory = false then s
  else if idMemory = false then s
  else if firstFree s.ctxIdIda ≥ 2^31 then s
  else { s with
    ctxIdIda := firstFree s.ctxIdIda::s.ctxIdIda
    files := s.files ++ [⟨.driverOpen (firstFree s.ctxIdIda+1),true⟩] }

/-- An event, if it is possible. -/
def step (dev : RenderDev) (s : ContextDev) : CtxDevEvent → Option ContextDev
  | .driverOpen memory idMemory => some (s.driverOpen dev memory idMemory)
  | .onFile i e =>
    match s.files[i]? with
    | none => none
    | some c =>
      if c.file.isOpen = false then none
      else
        let f := { c.file with cmds := [] }.step dev e
        some ({ s with files := s.files.set i { c with file := f } }.send (f.cmds.reverse.map .file))
  | .use i =>
    match s.files[i]? with
    | none => none
    | some c =>
      if c.file.isOpen = false then none
      else
        let f := { c.file with cmds := [] }.step dev .use
        some ({ s with files := s.files.set i { c with file := f } }.send
          (f.cmds.reverse.map DevCtxCmd.file ++ [DevCtxCmd.use f.priv.ctxId]))
  | .idaFree i =>
    match s.files[i]? with
    | none => none
    | some c =>
      if c.file.isOpen || !c.hasId then none
      else some { s with
        ctxIdIda := s.ctxIdIda.erase (c.file.priv.ctxId-1)
        files := s.files.set i { c with hasId := false } }
  | .unplug => some { s with unplugged := true }

abbrev Runs (dev : RenderDev) (s : ContextDev) (es : List CtxDevEvent) (s' : ContextDev) : Prop :=
  Transition.Run (fun s e s' => step dev s e = some s') s es s'

end ContextDev

namespace RenderFile
variable {dev : RenderDev} {f g : RenderFile} {ctx : ℕ} {b : Bool}

/-- The commands of the file are about its context, and leave it at the host as the file has it. -/
structure Sends (ctx : ℕ) (b : Bool) (f : RenderFile) : Prop where
  ctxId : f.priv.ctxId = ctx
  isOpen : f.isOpen = true
  moves : Carries DevCtxCmd.about ctx b f.priv.contextCreated (f.cmds.reverse.map .file)

lemma Sends.queue (h : Sends ctx b f) (cmd : CtxCmd) {a : Act} (hcmd : DevCtxCmd.about (.file cmd) = some (ctx,a))
    {b' : Bool} (hnext : next a f.priv.contextCreated = some b') :
    Carries DevCtxCmd.about ctx b b' ((f.queue cmd).cmds.reverse.map .file) := by
  rw [RenderFile.queue,List.reverse_cons,List.map_append,List.map_singleton]
  exact h.moves.append_one hcmd hnext

lemma Sends.createContextLocked (h : Sends ctx b f) (hc : f.priv.contextCreated = false) :
    Sends ctx b f.createContextLocked :=
  ⟨h.ctxId,h.isOpen,h.queue (.create f.priv.ctxId f.priv.contextInit) (by rw [← h.ctxId]; rfl) (by rw [hc]; rfl)⟩

lemma Sends.createContext (h : Sends ctx b f) : Sends ctx b f.createContext := by
  unfold RenderFile.createContext
  split
  · exact h
  · rename_i hc
    exact h.createContextLocked (Bool.eq_false_of_not_eq_true hc)

lemma Sends.contextInit (h : Sends ctx b f) (params : List ContextParam) (copyErr : ℤ) :
    Sends ctx b (f.contextInitIoctl dev params copyErr).2 := by
  obtain ⟨hid,hcreated⟩ := setParams_keeps dev f.priv params
  have hset : Sends ctx b { f with priv := (f.priv.setParams dev params).2 } :=
    ⟨hid.trans h.ctxId,h.isOpen,by rw [hcreated]; exact h.moves⟩
  unfold contextInitIoctl
  split
  · exact h
  split
  · exact h
  split
  · exact h
  split
  · exact h
  rename_i hc
  dsimp only
  split
  · exact hset
  split
  · exact hset
  · exact hset.createContextLocked (hcreated.trans (Bool.eq_false_of_not_eq_true hc))

lemma Sends.gemObjectOpen (h : Sends ctx b f) (res : ℕ) : Sends ctx b (f.gemObjectOpen dev res) := by
  unfold RenderFile.gemObjectOpen
  split
  · exact h
  have hcreate : Sends ctx b (if !dev.hasContextInit then f.createContext else f) := by
    split
    · exact h.createContext
    · exact h
  dsimp only
  generalize (if !dev.hasContextInit then f.createContext else f) = g at hcreate ⊢
  split
  · rename_i hc
    exact ⟨hcreate.ctxId,hcreate.isOpen,hcreate.queue _ (a := .uses) (by rw [← hcreate.ctxId]; rfl)
      (by rw [hc]; exact congrArg some hc.symm)⟩
  · exact hcreate

lemma Sends.gemObjectClose (h : Sends ctx b f) (res : ℕ) : Sends ctx b (f.gemObjectClose dev res) := by
  unfold RenderFile.gemObjectClose
  split
  · exact h
  split
  · exact h
  rename_i hc
  replace hc : f.priv.contextCreated = true := by simpa using hc
  exact ⟨h.ctxId,h.isOpen,h.queue _ (a := .uses) (by rw [← h.ctxId]; rfl) (by rw [hc]; exact congrArg some hc.symm)⟩

lemma Sends.closeAll (h : Sends ctx b f) (handles : List ℕ) :
    Sends ctx b (handles.foldl (RenderFile.gemObjectClose dev) f) := by
  induction handles generalizing f with
  | nil => exact h
  | cons res handles ih => exact ih (h.gemObjectClose res)

/-- What an event on an open file sends: the context is at the host as long as the file is open and has it. -/
theorem step_moves (hv : dev.hasVirgl3d = true) (hcmds : f.cmds = []) (hopen : f.isOpen = true) (e : FileEvent) :
    (f.step dev e).priv.ctxId = f.priv.ctxId ∧ Carries DevCtxCmd.about f.priv.ctxId f.priv.contextCreated
      ((f.step dev e).isOpen && (f.step dev e).priv.contextCreated) ((f.step dev e).cmds.reverse.map .file) := by
  have hstart : Sends f.priv.ctxId f.priv.contextCreated f := ⟨rfl,hopen,by rw [hcmds]; exact .nil⟩
  have hkept : ∀ {g : RenderFile}, Sends f.priv.ctxId f.priv.contextCreated g →
      g.priv.ctxId = f.priv.ctxId ∧ Carries DevCtxCmd.about f.priv.ctxId f.priv.contextCreated
        (g.isOpen && g.priv.contextCreated) (g.cmds.reverse.map .file) := fun {g} hg => by
    rw [hg.isOpen,Bool.true_and]
    exact ⟨hg.ctxId,hg.moves⟩
  unfold RenderFile.step
  rw [hopen]
  simp only [Bool.not_true,Bool.false_eq_true,if_false]
  cases e with
  | gemOpen res =>
    have hg : Sends f.priv.ctxId f.priv.contextCreated (f.gemObjectOpen dev res) := hstart.gemObjectOpen res
    exact hkept (g := { f.gemObjectOpen dev res with handles := f.handles ++ [res] }) ⟨hg.ctxId,hg.isOpen,hg.moves⟩
  | gemClose res =>
    dsimp only
    split
    · have hg : Sends f.priv.ctxId f.priv.contextCreated (f.gemObjectClose dev res) := hstart.gemObjectClose res
      exact hkept (g := { f.gemObjectClose dev res with handles := f.handles.erase res }) ⟨hg.ctxId,hg.isOpen,hg.moves⟩
    · exact hkept hstart
  | use =>
    dsimp only
    rw [if_pos hv]
    exact hkept hstart.createContext
  | contextInit params copyErr => exact hkept (hstart.contextInit params copyErr)
  | close =>
    have hall : Sends f.priv.ctxId f.priv.contextCreated (f.handles.foldl (gemObjectClose dev) f) :=
      hstart.closeAll f.handles
    dsimp only
    rw [Bool.false_and]
    generalize f.handles.foldl (gemObjectClose dev) f = g at hall ⊢
    unfold driverPostclose
    rw [if_neg (by simp [hv])]
    split
    · rename_i hc
      exact ⟨hall.ctxId,hall.queue (.destroy g.priv.ctxId) (by rw [hall.ctxId]; rfl) (by rw [hc]; rfl)⟩
    · rename_i hc
      have hm := hall.moves
      rw [Bool.eq_false_of_not_eq_true hc] at hm
      exact ⟨hall.ctxId,hm⟩

/-- An ioctl that uses the context finds it created. -/
theorem step_use (hv : dev.hasVirgl3d = true) (hopen : f.isOpen = true) :
    ((f.step dev .use).isOpen && (f.step dev .use).priv.contextCreated) = true := by
  have hstep : f.step dev .use = f.createContext := by
    unfold RenderFile.step
    rw [hopen]
    exact if_pos hv
  rw [hstep]
  unfold createContext
  split
  · rename_i hcreated
    rw [hopen,hcreated]
    rfl
  · exact Bool.and_eq_true_iff.mpr ⟨hopen,rfl⟩

end RenderFile

namespace ContextDev
variable {dev : RenderDev} {s t : ContextDev} {i k : ℕ} {c c' : ContextFile} {e : CtxDevEvent}
  {es : List CtxDevEvent}

def fate (s : ContextDev) (k : ℕ) : Option Bool := Lifetime.fate DevCtxCmd.about k s.sent

/-- A file that is open has created the context. -/
def Live (s : ContextDev) (k : ℕ) : Prop :=
  ∃ (i : ℕ) (c : ContextFile), s.files[i]? = some c ∧ c.file.isOpen = true ∧ c.file.priv.contextCreated = true ∧
    c.file.priv.ctxId = k

/-- A file has the id. -/
def HasId (s : ContextDev) (k : ℕ) : Prop :=
  ∃ (i : ℕ) (c : ContextFile), s.files[i]? = some c ∧ c.hasId = true ∧ c.file.priv.ctxId = k

/-- The invariant: ids of different files are different and not free, and the host has the contexts of the
files that are open and have created theirs. -/
structure Tracked (dev : RenderDev) (s : ContextDev) : Prop where
  virgl : ∀ c ∈ s.files, dev.hasVirgl3d = true
  held : ∀ c ∈ s.files, c.file.isOpen = true → c.hasId = true
  apart : ∀ (i j : ℕ) (c d : ContextFile), s.files[i]? = some c → s.files[j]? = some d → c.hasId = true →
    d.hasId = true → c.file.priv.ctxId = d.file.priv.ctxId → i = j
  ids : (ResourceIds.ida s.ctxIdIda).Gives s.HasId
  answered : ∀ k, s.fate k ≠ none
  live : s.unplugged = false → ∀ k, s.fate k = some true ↔ s.Live k

lemma start_tracked : start.Tracked dev := by
  have hfiles : ∀ (i : ℕ) (c : ContextFile), start.files[i]? ≠ some c := fun i c h => by cases h
  refine ⟨nofun,nofun,fun i j c d hc => absurd hc (hfiles i c),⟨List.nodup_nil,fun k => ⟨?_,?_⟩⟩,
    fun k => Option.some_ne_none _,fun _ k => ⟨fun hf => ?_,?_⟩⟩
  · rintro ⟨i,c,hc,-⟩
    exact absurd hc (hfiles i c)
  · rintro ⟨-,hk⟩
    exact absurd hk List.not_mem_nil
  · exact absurd (Option.some.inj hf) Bool.false_ne_true
  · rintro ⟨i,c,hc,-⟩
    exact absurd hc (hfiles i c)

lemma exists_split {P : ContextFile → Prop} (hc : s.files[i]? = some c) :
    (∃ (j : ℕ) (d : ContextFile), s.files[j]? = some d ∧ P d) ↔
      P c ∨ ∃ (j : ℕ) (d : ContextFile), j ≠ i ∧ s.files[j]? = some d ∧ P d := by
  constructor
  · rintro ⟨j,d,hd,hP⟩
    by_cases hji : j = i
    · subst hji
      obtain rfl := Option.some.inj (hd.symm.trans hc)
      exact .inl hP
    · exact .inr ⟨j,d,hji,hd,hP⟩
  · rintro (hP | ⟨j,d,-,hd,hP⟩)
    · exact ⟨i,c,hc,hP⟩
    · exact ⟨j,d,hd,hP⟩

/-- One file changes. -/
theorem exists_set {P : ContextFile → Prop} (hc : s.files[i]? = some c) :
    (∃ (j : ℕ) (d : ContextFile), (s.files.set i c')[j]? = some d ∧ P d) ↔
      P c' ∨ ∃ (j : ℕ) (d : ContextFile), j ≠ i ∧ s.files[j]? = some d ∧ P d := by
  have hlt := (List.getElem?_eq_some_iff.mp hc).1
  constructor
  · rintro ⟨j,d,hd,hP⟩
    by_cases hji : i = j
    · subst hji
      rw [List.getElem?_set_self hlt] at hd
      obtain rfl := Option.some.inj hd
      exact .inl hP
    · rw [List.getElem?_set_ne hji] at hd
      exact .inr ⟨j,d,Ne.symm hji,hd,hP⟩
  · rintro (hP | ⟨j,d,hji,hd,hP⟩)
    · exact ⟨i,c',List.getElem?_set_self hlt,hP⟩
    · exact ⟨j,d,by rw [List.getElem?_set_ne (Ne.symm hji)]; exact hd,hP⟩

/-- What the host has of the context of an open file. -/
theorem Tracked.fate_open (h : s.Tracked dev) (hp : s.unplugged = false) (hc : s.files[i]? = some c)
    (hopen : c.file.isOpen = true) : s.fate c.file.priv.ctxId = some c.file.priv.contextCreated := by
  cases hf : s.fate c.file.priv.ctxId with
  | none => exact absurd hf (h.answered _)
  | some b =>
    have hlive := h.live hp c.file.priv.ctxId
    rw [hf] at hlive
    have hid : ∀ {j : ℕ} {d : ContextFile}, s.files[j]? = some d → d.file.isOpen = true →
        d.file.priv.ctxId = c.file.priv.ctxId → d = c := fun {j d} hd ho hdc => by
      have hij := h.apart j i d c hd hc (h.held d (List.mem_of_getElem? hd) ho)
        (h.held c (List.mem_of_getElem? hc) hopen) hdc
      subst hij
      exact Option.some.inj (hd.symm.trans hc)
    cases b with
    | true =>
      obtain ⟨j,d,hd,ho,hcr,hdc⟩ := hlive.mp rfl
      rw [← hid hd ho hdc,hcr]
    | false =>
      cases hcr : c.file.priv.contextCreated with
      | false => rfl
      | true => exact hlive.mpr ⟨i,c,hc,hopen,hcr,rfl⟩

lemma Tracked.driverOpen (h : s.Tracked dev) (memory idMemory : Bool) :
    (s.driverOpen dev memory idMemory).Tracked dev := by
  unfold ContextDev.driverOpen
  split
  · exact h
  rename_i hv
  replace hv : dev.hasVirgl3d = true := by simpa using hv
  split
  · exact h
  split
  · exact h
  split
  · exact h
  rename_i hlt
  have hget : ResourceIds.get true (.ida s.ctxIdIda) =
      .ok (firstFree s.ctxIdIda+1,.ida (firstFree s.ctxIdIda::s.ctxIdIda)) := by
    rw [ResourceIds.get,if_neg (by decide),if_neg hlt]
  obtain ⟨-,hnew,hgives,-⟩ := h.ids.get (m := 0) trivial hget
  have hfile : ∀ {j : ℕ} {d : ContextFile},
      (s.files ++ [⟨.driverOpen (firstFree s.ctxIdIda+1),true⟩])[j]? = some d ↔
        s.files[j]? = some d ∨ j = s.files.length ∧ d = ⟨.driverOpen (firstFree s.ctxIdIda+1),true⟩ := by
    intro j d
    rcases lt_or_ge j s.files.length with hj | hj
    · rw [List.getElem?_append_left hj]
      exact ⟨.inl,fun hd => hd.resolve_right fun hd => by omega⟩
    · rw [List.getElem?_append_right hj,List.getElem?_eq_none hj,List.getElem?_singleton]
      split
      · rename_i hzero
        refine ⟨fun hd => .inr ⟨by omega,(Option.some.inj hd).symm⟩,fun hd => ?_⟩
        obtain hd | ⟨-,rfl⟩ := hd
        · cases hd
        · rfl
      · rename_i hpos
        refine ⟨fun hd => absurd hd (Option.some_ne_none d).symm,fun hd => ?_⟩
        obtain hd | ⟨hj,-⟩ := hd
        · cases hd
        · omega
  refine ⟨fun _ _ => hv,fun c hc ho => ?_,fun i j c d hi hj hci hdj hcd => ?_,hgives.congr fun k => ⟨?_,?_⟩,
    h.answered,fun hp k => (h.live hp k).trans ⟨?_,?_⟩⟩
  · rcases List.mem_append.mp hc with hold | hnew
    · exact h.held c hold ho
    · rw [List.mem_singleton.mp hnew]
  · rcases hfile.mp hi with hi | ⟨rfl,rfl⟩
    · rcases hfile.mp hj with hj | ⟨rfl,rfl⟩
      · exact h.apart i j c d hi hj hci hdj hcd
      · exact absurd ⟨i,c,hi,hci,hcd⟩ hnew
    · rcases hfile.mp hj with hj | ⟨rfl,rfl⟩
      · exact absurd ⟨j,d,hj,hdj,hcd.symm⟩ hnew
      · rfl
  · rintro (⟨i,c,hc,hk⟩ | rfl)
    · exact ⟨i,c,hfile.mpr (.inl hc),hk⟩
    · exact ⟨_,_,hfile.mpr (.inr ⟨rfl,rfl⟩),rfl,rfl⟩
  · rintro ⟨i,c,hc,hci,rfl⟩
    rcases hfile.mp hc with hc | ⟨rfl,rfl⟩
    · exact .inl ⟨i,c,hc,hci,rfl⟩
    · exact .inr rfl
  · rintro ⟨i,c,hc,hk⟩
    exact ⟨i,c,hfile.mpr (.inl hc),hk⟩
  · rintro ⟨i,c,hc,ho,hcr,hk⟩
    rcases hfile.mp hc with hc | ⟨rfl,rfl⟩
    · exact ⟨i,c,hc,ho,hcr,hk⟩
    · cases hcr

/-- A file that is open sends commands and changes, but for its id. -/
theorem Tracked.change (h : s.Tracked dev) (hc : s.files[i]? = some c) (hopen : c.file.isOpen = true)
    (c' : ContextFile) (hid : c'.hasId = c.hasId) (hctx : c'.file.priv.ctxId = c.file.priv.ctxId)
    {cmds : List DevCtxCmd} (hmoves : Carries DevCtxCmd.about c.file.priv.ctxId c.file.priv.contextCreated
      (c'.file.isOpen && c'.file.priv.contextCreated) cmds) :
    (({ s with files := s.files.set i c' } : ContextDev).send cmds).Tracked dev := by
  have hmem := List.mem_of_getElem? hc
  have hheld := h.held c hmem hopen
  generalize ht : ({ s with files := s.files.set i c' } : ContextDev).send cmds = t
  have hfiles : t.files = s.files.set i c' := by
    rw [← ht,send]
    split <;> rfl
  have hida : t.ctxIdIda = s.ctxIdIda := by
    rw [← ht,send]
    split <;> rfl
  have hplug : t.unplugged = s.unplugged := by
    rw [← ht,send]
    split <;> rfl
  have hfate : (s.unplugged = true ∧ ∀ k, t.fate k = s.fate k) ∨ (s.unplugged = false ∧ ∀ k, t.fate k =
      if k = c.file.priv.ctxId then some (c'.file.isOpen && c'.file.priv.contextCreated) else s.fate k) := by
    rw [← ht,send]
    split
    · rename_i hp
      exact .inl ⟨hp,fun _ => rfl⟩
    · rename_i hp
      replace hp : s.unplugged = false := Bool.eq_false_of_not_eq_true hp
      refine .inr ⟨hp,fun k => ?_⟩
      split
      · rename_i hk
        subst hk
        exact fate_carries hmoves (h.fate_open hp hc hopen)
      · rename_i hk
        exact fate_others hmoves.own (Ne.symm hk)
  have hfile : ∀ {j : ℕ} {d : ContextFile}, t.files[j]? = some d → ∃ d' : ContextFile, s.files[j]? = some d' ∧
      d'.hasId = d.hasId ∧ d'.file.priv.ctxId = d.file.priv.ctxId := fun {j d} hd => by
    rw [hfiles] at hd
    by_cases hji : i = j
    · subst hji
      rw [List.getElem?_set_self (List.getElem?_eq_some_iff.mp hc).1] at hd
      obtain rfl := Option.some.inj hd
      exact ⟨c,hc,hid.symm,hctx.symm⟩
    · rw [List.getElem?_set_ne hji] at hd
      exact ⟨d,hd,rfl,rfl⟩
  refine ⟨fun d _ => h.virgl c hmem,fun d hd ho => ?_,fun j l d d' hd hd' hdi hdi' hdd => ?_,?_,fun k => ?_,
    fun hp k => ?_⟩
  · rw [hfiles] at hd
    rcases List.mem_or_eq_of_mem_set hd with hold | rfl
    · exact h.held d hold ho
    · rw [hid,hheld]
  · obtain ⟨b,hb,hbi,hbc⟩ := hfile hd
    obtain ⟨b',hb',hbi',hbc'⟩ := hfile hd'
    exact h.apart j l b b' hb hb' (hbi.trans hdi) (hbi'.trans hdi') (hbc.trans (hdd.trans hbc'.symm))
  · rw [hida]
    refine h.ids.congr fun k => ?_
    unfold HasId
    rw [hfiles,exists_split hc,exists_set hc,hid,hctx]
  · rcases hfate with ⟨-,hf⟩ | ⟨-,hf⟩
    · rw [hf]
      exact h.answered k
    · rw [hf]
      split
      · exact Option.some_ne_none _
      · exact h.answered k
  · rcases hfate with ⟨hgone,-⟩ | ⟨hplugged,hf⟩
    · rw [hplug,hgone] at hp
      cases hp
    · have hlive := h.live hplugged k
      unfold Live at hlive ⊢
      rw [exists_split hc] at hlive
      rw [hf,hfiles,exists_set hc,hctx]
      split
      · rename_i hk
        subst hk
        rw [Option.some.injEq,Bool.and_eq_true]
        refine ⟨fun hb => .inl ⟨hb.1,hb.2,rfl⟩,fun hl => ?_⟩
        rcases hl with ⟨ho,hcr,-⟩ | ⟨j,d,hji,hd,ho,-,hdc⟩
        · exact ⟨ho,hcr⟩
        · exact absurd (h.apart j i d c hd hc (h.held d (List.mem_of_getElem? hd) ho) hheld hdc) hji
      · rename_i hk
        rw [hlive]
        simp [Ne.symm hk]

lemma Tracked.onFile (h : s.Tracked dev) (hc : s.files[i]? = some c) (hopen : c.file.isOpen = true)
    (e : FileEvent) :
    (({ s with files := s.files.set i { c with file := { c.file with cmds := [] }.step dev e } } : ContextDev).send
      (({ c.file with cmds := [] }.step dev e).cmds.reverse.map .file)).Tracked dev := by
  have hmoves := RenderFile.step_moves (f := { c.file with cmds := [] })
    (h.virgl c (List.mem_of_getElem? hc)) rfl hopen e
  exact h.change hc hopen { c with file := { c.file with cmds := [] }.step dev e } rfl hmoves.1 hmoves.2

lemma Tracked.use (h : s.Tracked dev) (hc : s.files[i]? = some c) (hopen : c.file.isOpen = true) :
    (({ s with files := s.files.set i { c with file := { c.file with cmds := [] }.step dev .use } } : ContextDev).send
      (({ c.file with cmds := [] }.step dev .use).cmds.reverse.map .file ++
        [.use ({ c.file with cmds := [] }.step dev .use).priv.ctxId])).Tracked dev := by
  have hv := h.virgl c (List.mem_of_getElem? hc)
  have hmoves := RenderFile.step_moves (f := { c.file with cmds := [] }) hv rfl hopen .use
  have hused := RenderFile.step_use (f := { c.file with cmds := [] }) hv hopen
  generalize { c.file with cmds := [] }.step dev .use = f at hmoves hused ⊢
  have habout : DevCtxCmd.about (.use f.priv.ctxId) = some (c.file.priv.ctxId,.uses) := by
    rw [DevCtxCmd.about,hmoves.1]
  refine h.change hc hopen { c with file := f } rfl hmoves.1 ?_
  exact hmoves.2.append_one habout (by rw [hused]; rfl)

lemma Tracked.idaFree (h : s.Tracked dev) (hc : s.files[i]? = some c) (hclosed : c.file.isOpen = false)
    (hid : c.hasId = true) :
    ({ s with
      ctxIdIda := s.ctxIdIda.erase (c.file.priv.ctxId-1)
      files := s.files.set i { c with hasId := false } } : ContextDev).Tracked dev := by
  have hmem := List.mem_of_getElem? hc
  have hhas : s.HasId c.file.priv.ctxId := ⟨i,c,hc,hid,rfl⟩
  have hput := h.ids.put hhas
  rw [ResourceIds.put,if_neg (h.ids.pos hhas).ne'] at hput
  have hold : ∀ {j : ℕ} {d : ContextFile}, (s.files.set i { c with hasId := false })[j]? = some d →
      d.hasId = true → s.files[j]? = some d := fun {j d} hd hdi => by
    by_cases hji : i = j
    · subst hji
      rw [List.getElem?_set_self (List.getElem?_eq_some_iff.mp hc).1] at hd
      rw [← Option.some.inj hd] at hdi
      cases hdi
    · rwa [List.getElem?_set_ne hji] at hd
  refine ⟨fun d _ => h.virgl c hmem,fun d hd ho => ?_,fun j l d d' hd hd' hdi hdi' hdd => ?_,
    hput.congr fun k => ?_,h.answered,fun hp k => (h.live hp k).trans ?_⟩
  · rcases List.mem_or_eq_of_mem_set hd with hold | rfl
    · exact h.held d hold ho
    · rw [hclosed] at ho
      cases ho
  · exact h.apart j l d d' (hold hd hdi) (hold hd' hdi') hdi hdi' hdd
  · unfold HasId
    rw [exists_split hc,exists_set hc]
    constructor
    · rintro ⟨⟨-,hk⟩ | hrest,hne⟩
      · exact absurd hk.symm hne
      · exact .inr hrest
    · rintro (⟨hno,-⟩ | ⟨j,d,hji,hd,hdi,hk⟩)
      · cases hno
      · exact ⟨.inr ⟨j,d,hji,hd,hdi,hk⟩,fun heq => hji (h.apart j i d c hd hc hdi hid (hk.trans heq))⟩
  · unfold Live
    rw [exists_split hc,exists_set hc]

lemma Tracked.step (h : s.Tracked dev) (ht : s.step dev e = some t) : t.Tracked dev := by
  cases e with
  | driverOpen memory idMemory =>
    obtain rfl := Option.some.inj ht
    exact h.driverOpen memory idMemory
  | onFile i e =>
    simp only [ContextDev.step] at ht
    split at ht
    · cases ht
    rename_i c hc
    split at ht
    · cases ht
    rename_i hopen
    obtain rfl := Option.some.inj ht
    exact h.onFile hc (by simpa using hopen) e
  | use i =>
    simp only [ContextDev.step] at ht
    split at ht
    · cases ht
    rename_i c hc
    split at ht
    · cases ht
    rename_i hopen
    obtain rfl := Option.some.inj ht
    exact h.use hc (by simpa using hopen)
  | idaFree i =>
    simp only [ContextDev.step] at ht
    split at ht
    · cases ht
    rename_i c hc
    split at ht
    · cases ht
    rename_i hoff
    obtain rfl := Option.some.inj ht
    simp only [Bool.or_eq_true,Bool.not_eq_true',not_or,Bool.not_eq_true,Bool.not_eq_false] at hoff
    exact h.idaFree hc hoff.1 hoff.2
  | unplug =>
    obtain rfl := Option.some.inj ht
    exact ⟨h.virgl,h.held,h.apart,h.ids,h.answered,fun hp => nomatch hp⟩

/-- Over any run of any number of files: the host gets a creation for a context id only while it has no context
with it, and every other command that names it only while it has one; the ids of the files are different; and as
long as the device is there, the host has exactly the contexts of the files that are open and have created theirs. -/
theorem contexts_in_lifetimes (hrun : start.Runs dev es s) :
    (∀ k, Lifetime.fate DevCtxCmd.about k s.sent ≠ none) ∧
      (∀ (i j : ℕ) (c d : ContextFile), s.files[i]? = some c → s.files[j]? = some d → c.hasId = true →
        d.hasId = true → c.file.priv.ctxId = d.file.priv.ctxId → i = j) ∧
      (s.unplugged = false → ∀ k, Lifetime.fate DevCtxCmd.about k s.sent = some true ↔
        ∃ (i : ℕ) (c : ContextFile), s.files[i]? = some c ∧ c.file.isOpen = true ∧
          c.file.priv.contextCreated = true ∧ c.file.priv.ctxId = k) := by
  have h : s.Tracked dev := hrun.invariant (fun _ _ _ hs ht => hs.step ht) start_tracked
  exact ⟨h.answered,h.apart,h.live⟩

/-- The id of a closed file comes back only after its context is destroyed. -/
theorem id_of_two_contexts :
    ∃ s, start.Runs ⟨true,true,2^4⟩ [.driverOpen true true,.use 0,.use 0,.onFile 0 (.gemOpen 7),
        .onFile 0 .close,.driverOpen true true,.idaFree 0,.driverOpen true true,
        .onFile 2 (.contextInit [.capsetId 4] 0)] s ∧
      s.sent = [.file (.create 1 0),.use 1,.use 1,.file (.attachResource 1 7),.file (.detachResource 1 7),
        .file (.destroy 1),.file (.create 1 4)] ∧
      (∀ k, Lifetime.fate DevCtxCmd.about k s.sent ≠ none) ∧
      (∀ (i j : ℕ) (c d : ContextFile), s.files[i]? = some c → s.files[j]? = some d → c.hasId = true →
        d.hasId = true → c.file.priv.ctxId = d.file.priv.ctxId → i = j) ∧
      (s.unplugged = false → ∀ k, Lifetime.fate DevCtxCmd.about k s.sent = some true ↔
        ∃ (i : ℕ) (c : ContextFile), s.files[i]? = some c ∧ c.file.isOpen = true ∧
          c.file.priv.contextCreated = true ∧ c.file.priv.ctxId = k) := by
  have hrun : start.Runs ⟨true,true,2^4⟩ [.driverOpen true true,.use 0,.use 0,.onFile 0 (.gemOpen 7),
      .onFile 0 .close,.driverOpen true true,.idaFree 0,.driverOpen true true,
      .onFile 2 (.contextInit [.capsetId 4] 0)] _ :=
    .cons rfl (.cons rfl (.cons rfl (.cons rfl (.cons rfl (.cons rfl (.cons rfl (.cons rfl
      (.cons rfl (.nil _)))))))))
  exact ⟨_,hrun,rfl,contexts_in_lifetimes hrun⟩

end ContextDev
end GuestAdditions

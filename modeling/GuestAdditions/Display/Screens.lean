import GuestAdditions.Display.Scanout

/-! Runs of the display: commits on any number of outputs, whose callbacks come in between each other, while the
guest draws and the host takes one command after the other. -/
namespace GuestAdditions
namespace DisplayHost
variable {α : Type*} {info : ℕ → ResourceInfo} {mem mem' : ℕ → ℕ → α} {h h' : DisplayHost α} {cmd : DisplayCmd}
  {cmds : List DisplayCmd} {o : ℕ} {plane : PlaneState} {fresh fresh' : ℕ × ℕ → Bool} {fb : Framebuffer} {p : ℕ × ℕ}

lemma exec_scanouts (hs : h.scanout = h'.scanout) :
    (h.exec info mem cmd).scanout = (h'.exec info mem' cmd).scanout := by
  cases cmd with
  | setScanout o r width height x y =>
    unfold exec
    dsimp only
    split
    · exact congrArg (Function.update · o none) hs
    · exact congrArg (Function.update · o _) hs
  | setScanoutBlob o r width height x y lines offset => exact congrArg (Function.update · o _) hs
  | transferToHost2d r offset width height x y =>
    unfold exec
    dsimp only
    split <;> exact hs
  | resourceFlush r x y width height => exact hs

/-- Two hosts have the same of one pixel of a framebuffer. -/
structure Agree (o : ℕ) (sc : HostScanout) (p : ℕ × ℕ) (h h' : DisplayHost α) : Prop where
  scanout : h.scanout = h'.scanout
  contents : sc.blob = none → h.contents sc.resourceId p = h'.contents sc.resourceId p
  screen : h.scanout o = some sc → ∀ q, sc.at q = p → h.screen o q = h'.screen o q

/-- The pixel lies at the same place in both memories. -/
theorem Agree.pixel (ha : Agree o (plane.shows fb) p h h') (hfb : fb.Plain info)
    (hmem : mem fb.bo.hwResHandle (fb.addr p) = mem' fb.bo.hwResHandle (fb.addr p)) :
    h.pixel mem (plane.shows fb) p = h'.pixel mem' (plane.shows fb) p := by
  have hcontents := ha.contents
  unfold PlaneState.shows at hcontents ⊢
  unfold DisplayHost.pixel
  cases hblob : fb.bo.isBlob with
  | false => exact hcontents (by simp [hblob])
  | true =>
    rw [Framebuffer.addr,hfb.cpp] at hmem
    exact hmem

lemma Agree.off (ha : Agree o (plane.shows fb) p h h') (o' : ℕ) :
    Agree o (plane.shows fb) p (h.off o') (h'.off o') := by
  have hscanout : (h.off o').scanout = (h'.off o').scanout := by
    rw [DisplayHost.off,DisplayHost.off,ha.scanout]
  refine ⟨hscanout,ha.contents,fun hs q hq => ?_⟩
  by_cases ho : o = o'
  · subst ho
    cases (h.off_scanout_self o).symm.trans hs
  · rw [off_screen_of_ne ho,off_screen_of_ne ho]
    exact ha.screen ((off_scanout_of_ne ho).symm.trans hs) q hq

lemma Agree.put (ha : Agree o (plane.shows fb) p h h') (hfb : fb.Plain info)
    (hmem : mem fb.bo.hwResHandle (fb.addr p) = mem' fb.bo.hwResHandle (fb.addr p)) (o' : ℕ) (sc : HostScanout) :
    Agree o (plane.shows fb) p (h.put mem o' sc) (h'.put mem' o' sc) := by
  have hscanout : (h.put mem o' sc).scanout = (h'.put mem' o' sc).scanout := by
    rw [DisplayHost.put,DisplayHost.put,ha.scanout]
  refine ⟨hscanout,ha.contents,fun hs q hq => ?_⟩
  by_cases ho : o = o'
  · subst ho
    obtain rfl : sc = plane.shows fb := Option.some.inj ((put_scanout_self _ _ _ _).symm.trans hs)
    rw [put_screen_self,put_screen_self,hq,ha.pixel hfb hmem]
  · rw [put_screen_of_ne ho,put_screen_of_ne ho]
    exact ha.screen ((put_scanout_of_ne ho sc).symm.trans hs) q hq

lemma Agree.exec (ha : Agree o (plane.shows fb) p h h') (hfb : fb.Plain info)
    (hmem : mem fb.bo.hwResHandle (fb.addr p) = mem' fb.bo.hwResHandle (fb.addr p)) (hcmd : cmd.Plain info) :
    Agree o (plane.shows fb) p (h.exec info mem cmd) (h'.exec info mem' cmd) := by
  cases cmd with
  | setScanout o' r width height x y =>
    unfold DisplayHost.exec
    dsimp only
    split
    · exact ha.off o'
    · exact ha.put hfb hmem o' _
  | setScanoutBlob o' r width height x y lines offset => exact ha.put hfb hmem o' _
  | transferToHost2d r offset width height x y =>
    unfold DisplayHost.exec
    dsimp only
    split
    · exact ha
    rename_i hno
    refine ⟨ha.scanout,fun hblob => ?_,ha.screen⟩
    by_cases hr : fb.bo.hwResHandle = r
    · subst hr
      have hlines : fb.bo.isBlob = false := hfb.isBlob.symm.trans (Bool.eq_false_of_not_eq_true hno)
      have hoff : offset = x*4+y*(info fb.bo.hwResHandle).stride := hcmd (Bool.eq_false_of_not_eq_true hno)
      change Function.update h.contents fb.bo.hwResHandle _ fb.bo.hwResHandle p =
        Function.update h'.contents fb.bo.hwResHandle _ fb.bo.hwResHandle p
      rw [Function.update_self,Function.update_self]
      split
      · rename_i hin
        rw [transfer_addr hoff hin.1.1 hin.2.1,← hfb.addr_eq hlines,hmem]
      · exact ha.contents hblob
    · change Function.update h.contents r _ fb.bo.hwResHandle p = Function.update h'.contents r _ fb.bo.hwResHandle p
      rw [Function.update_of_ne hr,Function.update_of_ne hr]
      exact ha.contents hblob
  | resourceFlush r x y width height =>
    refine ⟨ha.scanout,ha.contents,fun hs q hq => ?_⟩
    have hs' : h'.scanout o = some (plane.shows fb) := (congrFun ha.scanout o).symm.trans hs
    have hpixel := ha.pixel hfb hmem
    rw [← hq] at hpixel
    change h.flushed mem r x y width height o q = h'.flushed mem' r x y width height o q
    unfold flushed
    rw [show h.scanout o = some (plane.shows fb) from hs,hs']
    dsimp only
    rw [ha.screen hs q hq]
    split
    · exact congrArg some hpixel
    · rfl

lemma Agree.execs (ha : Agree o (plane.shows fb) p h h') (hfb : fb.Plain info)
    (hmem : mem fb.bo.hwResHandle (fb.addr p) = mem' fb.bo.hwResHandle (fb.addr p))
    (hcmds : ∀ cmd ∈ cmds, cmd.Plain info) :
    Agree o (plane.shows fb) p (cmds.foldl (DisplayHost.exec info mem) h)
      (cmds.foldl (DisplayHost.exec info mem') h') := by
  induction cmds generalizing h h' with
  | nil => exact ha
  | cons cmd cmds ih =>
    obtain ⟨hcmd,hcmds⟩ := List.forall_mem_cons.mp hcmds
    exact ih (ha.exec hfb hmem hcmd) hcmds

lemma execs_scanouts (cmds : List DisplayCmd) (hs : h.scanout = h'.scanout) :
    (cmds.foldl (DisplayHost.exec info mem) h).scanout = (cmds.foldl (DisplayHost.exec info mem') h').scanout := by
  induction cmds generalizing h h' with
  | nil => exact hs
  | cons cmd cmds ih => exact ih (exec_scanouts hs)

/-- The guest draws, and the pixels that it leaves alone stay fresh. -/
theorem Pictured.draw (hp : (cmds.foldl (DisplayHost.exec info mem) h).Pictured mem o plane fresh)
    (hfb : ∀ fb, plane.fb = some fb → fb.Plain info) (hcmds : ∀ cmd ∈ cmds, cmd.Plain info)
    (hfresh : ∀ fb, plane.fb = some fb → ∀ p, fresh' p = true →
      fresh p = true ∧ mem fb.bo.hwResHandle (fb.addr p) = mem' fb.bo.hwResHandle (fb.addr p)) :
    (cmds.foldl (DisplayHost.exec info mem') h).Pictured mem' o plane fresh' := by
  have hs : (cmds.foldl (DisplayHost.exec info mem') h).scanout o =
      (cmds.foldl (DisplayHost.exec info mem) h).scanout o := congrFun (execs_scanouts cmds rfl) o
  have hagree : ∀ (fb : Framebuffer) (p : ℕ × ℕ), plane.fb = some fb →
      mem fb.bo.hwResHandle (fb.addr p) = mem' fb.bo.hwResHandle (fb.addr p) →
      Agree o (plane.shows fb) p (cmds.foldl (DisplayHost.exec info mem) h)
        (cmds.foldl (DisplayHost.exec info mem') h) := fun fb p hplane hmem =>
    Agree.execs ⟨rfl,fun _ => rfl,fun _ _ _ => rfl⟩ (hfb fb hplane) hmem hcmds
  refine ⟨fun sc hsc => hp.scanout sc (hs.symm.trans hsc),fun fb hplane hblob p hp' => ?_,
    fun fb hplane hsc q hq hp' => ?_⟩
  · obtain ⟨hold,hmem⟩ := hfresh fb hplane p hp'
    have hcontents := (hagree fb p hplane hmem).contents (by rw [PlaneState.shows,hblob]; rfl)
    exact (hcontents.symm.trans (hp.uploaded fb hplane hblob p hold)).trans hmem
  · obtain ⟨hold,hmem⟩ := hfresh fb hplane _ hp'
    have hsc' := hs.symm.trans hsc
    rw [← (hagree fb _ hplane hmem).screen hsc' q rfl,hp.screen fb hplane hsc' q hq hold,hmem]

end DisplayHost

/-- What holds of an output, where `d` is the host after all that is queued. -/
structure Output.Kept {α : Type*} (info : ℕ → ResourceInfo) (mem : ℕ → ℕ → α) (d : DisplayHost α) (o : ℕ)
    (out : Output) : Prop where
  pictured : d.Pictured mem o out.plane out.fresh
  plain : ∀ fb, out.plane.fb = some fb → fb.Plain info
  bound : out.plane.fb.isSome → out.plane.crtc = true
  off : out.active = false → d.scanout o = none
  wait : out.active = true → out.plane.fb.isSome → d.scanout o = none → out.needsModeset = true ∨
    ∃ c pc, out.commit = some (c,pc) ∧ c.modeset = true
  dark : ∀ c pc, out.commit = some (c,pc) → c.modeset = true → pc = .setMode ∨ pc = .plane → d.scanout o = none
  proper : ∀ c pc, out.commit = some (c,pc) → pc ≠ .flush → c.Proper info out.plane out.active

namespace Output
variable {α : Type*} {info : ℕ → ResourceInfo} {mem : ℕ → ℕ → α} {d : DisplayHost α} {o : ℕ} {out : Output}
  {c : Commit} {cmds : List DisplayCmd}

/-- The commands for another output. -/
theorem Kept.execs (hk : out.Kept info mem d o) (hcmds : ∀ cmd ∈ cmds, cmd.Plain info ∧ cmd.output ≠ some o) :
    out.Kept info mem (cmds.foldl (DisplayHost.exec info mem) d) o := by
  have hs : (cmds.foldl (DisplayHost.exec info mem) d).scanout o = d.scanout o :=
    DisplayHost.execs_scanout fun cmd hcmd => (hcmds cmd hcmd).2
  refine ⟨hk.pictured.execs hk.plain hcmds,hk.plain,hk.bound,fun hoff => hs.trans (hk.off hoff),
    fun hactive hfb hnone => hk.wait hactive hfb (hs.symm.trans hnone),
    fun c pc hc hm hpc => hs.trans (hk.dark c pc hc hm hpc),hk.proper⟩

lemma modeset_of_commit {pc : CommitPc} (hc : out.commit = some (c,pc))
    (hm : ∃ c' pc', out.commit = some (c',pc') ∧ c'.modeset = true) : c.modeset = true := by
  obtain ⟨c',pc',hc',hm⟩ := hm
  rw [hc] at hc'
  cases hc'
  exact hm

/-- The commit goes on to the next callback, with the output as it is. -/
theorem Kept.goOn {pc pc' : CommitPc} (hk : out.Kept info mem d o) (hc : out.commit = some (c,pc))
    (hbefore : pc ≠ .flush) (hdark : c.modeset = true → pc' = .setMode ∨ pc' = .plane → d.scanout o = none) :
    ({ out with commit := some (c,pc') } : Output).Kept info mem d o := by
  refine ⟨hk.pictured,hk.plain,hk.bound,hk.off,fun hactive hfb hnone => ?_,fun c' p hc' => ?_,fun c' p hc' hp => ?_⟩
  · exact (hk.wait hactive hfb hnone).imp_right fun hm => ⟨c,pc',rfl,modeset_of_commit hc hm⟩
  · cases hc'
    exact hdark
  · cases hc'
    exact hk.proper c pc hc hbefore

/-- The output goes off in a modeset. -/
theorem Kept.goOff (hk : out.Kept info mem d o) {pc : CommitPc} (hc : out.commit = some (c,pc))
    (hm : c.modeset = true) : out.Kept info mem (d.off o) o :=
  ⟨DisplayHost.off_pictured hk.pictured.uploaded,hk.plain,hk.bound,fun _ => d.off_scanout_self o,
    fun _ _ _ => .inr ⟨c,pc,hc,hm⟩,fun _ _ _ _ _ => d.off_scanout_self o,hk.proper⟩

lemma Kept.before {pc : CommitPc} (hk : out.Kept info mem d o) (hc : out.commit = some (c,pc))
    (hpc : pc = .plane) : d.Before o out.plane out.active out.needsModeset c.modeset := by
  exact ⟨hk.bound,hk.off,fun hactive hfb hnone => (hk.wait hactive hfb hnone).imp_right (modeset_of_commit hc),
    fun hm => hk.dark c pc hc hm (.inr hpc)⟩

end Output

namespace DisplayDev
variable {α : Type*} {info : ℕ → ResourceInfo} {s t : DisplayDev α} {o : ℕ} {c : Commit} {cmds : List DisplayCmd}

/-- The host after all that is queued, if the guest does not draw any more. -/
def drain (info : ℕ → ResourceInfo) (s : DisplayDev α) : DisplayHost α :=
  s.queue.foldl (DisplayHost.exec info s.mem) s.host

structure Showing (info : ℕ → ResourceInfo) (s : DisplayDev α) : Prop where
  kept : ∀ o, (s.outputs o).Kept info s.mem (s.drain info) o
  plain : ∀ cmd ∈ s.queue, cmd.Plain info

lemma set_drain (s : DisplayDev α) (o : ℕ) (out : Output) (cmds : List DisplayCmd) :
    (s.set o out cmds).drain info = cmds.foldl (DisplayHost.exec info s.mem) (s.drain info) := List.foldl_append

/-- What an output sends is for itself. -/
theorem Showing.set (h : s.Showing info) {out : Output}
    (hcmds : ∀ cmd ∈ cmds, cmd.Plain info ∧ ∀ o', o' ≠ o → cmd.output ≠ some o')
    (hown : out.Kept info s.mem (cmds.foldl (DisplayHost.exec info s.mem) (s.drain info)) o) :
    (s.set o out cmds).Showing info := by
  refine ⟨fun o' => ?_,fun cmd hcmd => ?_⟩
  · rw [set_drain]
    by_cases ho : o' = o
    · subst ho
      rw [show (s.set o' out cmds).outputs o' = out from Function.update_self _ _ _]
      exact hown
    · rw [show (s.set o out cmds).outputs o' = s.outputs o' from Function.update_of_ne ho _ _]
      exact (h.kept o').execs fun cmd hcmd => ⟨(hcmds cmd hcmd).1,(hcmds cmd hcmd).2 o' ho⟩
  · exact (List.mem_append.mp hcmd).elim (h.plain cmd) fun hcmd => (hcmds cmd hcmd).1

lemma off_owned (info : ℕ → ResourceInfo) (width height : ℕ) : ∀ cmd ∈ [DisplayCmd.setScanout o 0 width height 0 0],
    cmd.Plain info ∧ ∀ o', o' ≠ o → cmd.output ≠ some o' := by
  intro cmd hcmd
  rw [List.mem_singleton.mp hcmd]
  exact ⟨trivial,fun o' ho heq => ho (Option.some.inj heq).symm⟩

lemma planeUpdate_owned {plane new : PlaneState} {active needsModeset : Bool} (hc : c.Proper info plane active)
    (hnew : c.plane = some new) :
    ∀ cmd ∈ (primaryPlaneUpdate o plane new c.active needsModeset c.damage c.allocs).1,
      cmd.Plain info ∧ ∀ o', o' ≠ o → cmd.output ≠ some o' := by
  generalize hr : primaryPlaneUpdate o plane new c.active needsModeset c.damage c.allocs = r
  have hflush : ∀ fb rect, ∀ cmd ∈ resourceFlush fb new.fence rect c.allocs.flush,
      cmd.Plain info ∧ ∀ o', o' ≠ o → cmd.output ≠ some o' := fun fb rect cmd hcmd => by
    rcases DisplayHost.resourceFlush_cases fb new.fence rect c.allocs.flush with ⟨hnone,-⟩ | hone
    · rw [hnone] at hcmd
      cases hcmd
    · rw [hone,List.mem_singleton] at hcmd
      rw [hcmd]
      exact ⟨trivial,fun _ _ => nofun⟩
  rcases DisplayHost.primaryPlaneUpdate_cases o plane new c.active needsModeset c.damage c.allocs hr with
    ⟨rfl,-⟩ | ⟨width,height,rfl,-⟩ | ⟨fb,rect,hfb,-,hdamage,hchange⟩
  · exact fun cmd hcmd => absurd hcmd List.not_mem_nil
  · exact off_owned info width height
  · have hup : ∀ cmd ∈ DisplayHost.uploadOf fb rect c.allocs.upload,
        cmd.Plain info ∧ ∀ o', o' ≠ o → cmd.output ≠ some o' := fun cmd hcmd => by
      obtain ⟨hplain,hnone⟩ := DisplayHost.uploadOf_plain (hc.plain new fb hnew hfb)
        (hc.inRange new fb rect hnew hfb hdamage) c.allocs.upload cmd hcmd
      exact ⟨hplain,fun _ _ => by rw [hnone]; exact nofun⟩
    rcases hchange with ⟨-,rfl⟩ | ⟨-,rfl⟩
    · intro cmd hcmd
      rcases List.mem_append.mp hcmd with hcmd | hcmd
      · exact hup cmd hcmd
      rcases List.mem_cons.mp hcmd with rfl | hcmd
      · unfold setPlaneScanout
        split
        · exact ⟨trivial,fun o' ho heq => ho (Option.some.inj heq).symm⟩
        · exact ⟨trivial,fun o' ho heq => ho (Option.some.inj heq).symm⟩
      · exact hflush fb rect cmd hcmd
    · exact fun cmd hcmd => (List.mem_append.mp hcmd).elim (hup cmd) (hflush fb rect cmd)

lemma Showing.callback {pc : CommitPc} (h : s.Showing info) (hc : (s.outputs o).commit = some (c,pc)) :
    (s.callback o c pc).Showing info := by
  have hk := h.kept o
  have hnil : ∀ cmd ∈ ([] : List DisplayCmd), cmd.Plain info ∧ ∀ o', o' ≠ o → cmd.output ≠ some o' :=
    fun cmd hcmd => absurd hcmd List.not_mem_nil
  have hoff : ∀ width height, [DisplayCmd.setScanout o 0 width height 0 0].foldl (DisplayHost.exec info s.mem)
      (s.drain info) = (s.drain info).off o := fun width height => by
    rw [List.foldl_cons,List.foldl_nil,DisplayHost.exec_off]
  unfold DisplayDev.callback
  cases pc with
  | disable =>
    dsimp only
    split
    · rename_i hgoes
      obtain ⟨hm,-⟩ := (Bool.and_eq_true _ _).mp hgoes
      refine h.set (off_owned info 0 0) ?_
      rw [hoff]
      exact (hk.goOff hc hm).goOn hc nofun fun _ _ => DisplayHost.off_scanout_self _ _
    · rename_i hstays
      refine h.set hnil (hk.goOn hc nofun fun hm _ => hk.off ?_)
      rw [hm,Bool.true_and] at hstays
      exact Bool.eq_false_of_not_eq_true hstays
  | setMode =>
    dsimp only
    split
    · exact h.set hnil (hk.goOn hc nofun fun hm _ => hk.dark c _ hc hm (.inl rfl))
    · rename_i hdisplay vdisplay hmode
      have hm : c.modeset = true := (hk.proper c _ hc nofun).sets (by rw [hmode]; rfl)
      refine h.set (off_owned info hdisplay vdisplay) ?_
      rw [hoff]
      exact (hk.goOff hc hm).goOn hc nofun fun _ _ => DisplayHost.off_scanout_self _ _
  | plane =>
    have hproper := hk.proper c _ hc nofun
    have hbefore := hk.before hc rfl
    dsimp only
    split
    · rename_i hnone
      refine h.set hnil ⟨hk.pictured,hk.plain,hk.bound,fun hno => ?_,fun hactive hfb hdark => ?_,
        fun c' pc' hc' _ hpc => ?_,fun c' pc' hc' hpc => ?_⟩
      · cases hm : c.modeset with
        | true => exact hbefore.dark hm
        | false => exact hk.off ((hproper.switches hm).symm.trans hno)
      · cases hm : c.modeset with
        | true => exact .inr ⟨c,.flush,rfl,hm⟩
        | false =>
          refine (hbefore.wait ((hproper.switches hm).symm.trans hactive) hfb hdark).imp_right fun hm' => ?_
          exact ⟨c,.flush,rfl,hm'⟩
      · cases hc'
        rcases hpc with hpc | hpc <;> cases hpc
      · cases hc'
        exact absurd rfl hpc
    · rename_i new hnew
      obtain ⟨hpictured,hdark,hwait⟩ := hk.pictured.update hk.plain hbefore hproper hnew rfl
      refine h.set (planeUpdate_owned hproper hnew) ⟨hpictured,fun fb hfb => hproper.plain new fb hnew hfb,
        hproper.bound new hnew,hdark,fun hactive hfb hnone => ?_,fun c' pc' hc' _ hpc => ?_,fun c' pc' hc' hpc => ?_⟩
      · exact (hwait hactive hfb hnone).imp_right fun hm => ⟨c,.flush,rfl,hm⟩
      · cases hc'
        rcases hpc with hpc | hpc <;> cases hpc
      · cases hc'
        exact absurd rfl hpc
  | flush =>
    refine h.set hnil ⟨hk.pictured,hk.plain,hk.bound,hk.off,fun hactive hfb hnone => .inl ?_,
      fun c' pc' hc' => ?_,fun c' pc' hc' => ?_⟩
    · rw [Bool.or_eq_true]
      exact (hk.wait hactive hfb hnone).imp_right (Output.modeset_of_commit hc)
    · cases hc'
    · cases hc'

/-- What `drawn` leaves fresh is as it was in both memories. -/
theorem drawn_fresh [DecidableEq α] {out : Output} {mem : ℕ → ℕ → α} {r : ℕ} {m : ℕ → α} {fb : Framebuffer}
    (hfb : out.plane.fb = some fb) {p : ℕ × ℕ} (hp : (drawn out r (mem r) m).fresh p = true) :
    out.fresh p = true ∧
      mem fb.bo.hwResHandle (fb.addr p) = Function.update mem r m fb.bo.hwResHandle (fb.addr p) := by
  unfold drawn at hp
  dsimp only at hp
  rw [hfb] at hp
  obtain ⟨hfresh,hsame⟩ := (Bool.and_eq_true _ _).mp hp
  refine ⟨hfresh,?_⟩
  by_cases hr : fb.bo.hwResHandle = r
  · subst hr
    rw [Function.update_self]
    simpa using hsame
  · rw [Function.update_of_ne hr]

lemma Showing.draw [DecidableEq α] (h : s.Showing info) (r : ℕ) (m : ℕ → α) :
    ({ s with
      outputs := fun o => drawn (s.outputs o) r (s.mem r) m
      mem := Function.update s.mem r m } : DisplayDev α).Showing info := by
  refine ⟨fun o => ?_,h.plain⟩
  have hk := h.kept o
  have hs : (s.queue.foldl (DisplayHost.exec info (Function.update s.mem r m)) s.host).scanout o =
      (s.drain info).scanout o := congrFun (DisplayHost.execs_scanouts s.queue rfl) o
  exact ⟨hk.pictured.draw hk.plain h.plain fun fb hfb p hp => drawn_fresh hfb hp,hk.plain,hk.bound,
    fun hoff => hs.trans (hk.off hoff),fun hactive hfb hnone => hk.wait hactive hfb (hs.symm.trans hnone),
    fun c pc hc hm hpc => hs.trans (hk.dark c pc hc hm hpc),hk.proper⟩

/-- What the core promises of an event. -/
def Proper (s : DisplayDev α) (info : ℕ → ResourceInfo) : DisplayEvent α → Prop
  | .commit o c => c.Proper info (s.outputs o).plane (s.outputs o).active
  | _ => True

lemma Showing.step [DecidableEq α] {e : DisplayEvent α} (h : s.Showing info) (he : s.Proper info e)
    (hs : s.step info e = some t) : t.Showing info := by
  cases e with
  | commit o c =>
    unfold DisplayDev.step at hs
    dsimp only at hs
    split at hs
    · rename_i hidle
      cases hs
      have hk := h.kept o
      refine h.set (fun cmd hcmd => absurd hcmd List.not_mem_nil) ⟨hk.pictured,hk.plain,hk.bound,hk.off,
        fun hactive hfb hnone => ?_,fun c' pc hc' _ hpc => ?_,fun c' pc hc' _ => ?_⟩
      · refine (hk.wait hactive hfb hnone).imp_right fun ⟨c',pc,hc',_⟩ => ?_
        rw [hidle] at hc'
        cases hc'
      · cases hc'
        rcases hpc with hpc | hpc <;> cases hpc
      · cases hc'
        exact he
    · cases hs
  | callback o =>
    unfold DisplayDev.step at hs
    dsimp only at hs
    split at hs
    · cases hs
    · rename_i c pc hc
      cases hs
      exact h.callback hc
  | draw r m =>
    cases hs
    exact h.draw r m
  | host =>
    unfold DisplayDev.step at hs
    dsimp only at hs
    split at hs
    · cases hs
    · rename_i cmd queue hqueue
      cases hs
      have hdrain : queue.foldl (DisplayHost.exec info s.mem) (s.host.exec info s.mem cmd) = s.drain info := by
        rw [drain,hqueue,List.foldl_cons]
      refine ⟨fun o => ?_,fun cmd' hcmd' => h.plain cmd' (by rw [hqueue]; exact List.mem_cons_of_mem _ hcmd')⟩
      have hk := h.kept o
      rw [← hdrain] at hk
      exact hk

/-- Runs in which the core keeps to its rules. -/
abbrev Runs [DecidableEq α] (info : ℕ → ResourceInfo) (s : DisplayDev α) (es : List (DisplayEvent α))
    (t : DisplayDev α) : Prop :=
  Transition.Run (fun s e t => s.Proper info e ∧ step info s e = some t) s es t

lemma start_showing (mem : ℕ → ℕ → α) (contents : ℕ → ℕ × ℕ → α) : (start mem contents).Showing info := by
  have hfb : ∀ o fb, ((start mem contents).outputs o).plane.fb ≠ some fb := fun _ _ => (Option.some_ne_none _).symm
  have hnone : ∀ o, ((start mem contents).drain info).scanout o = none := fun _ => rfl
  have hcommit : ∀ o, ((start mem contents).outputs o).commit = none := fun _ => rfl
  refine ⟨fun o => ⟨⟨fun sc hs => ?_,fun fb h => absurd h (hfb o fb),fun fb h => absurd h (hfb o fb)⟩,
    fun fb h => absurd h (hfb o fb),fun h => ?_,fun _ => hnone o,fun h => ?_,fun c pc h => ?_,fun c pc h => ?_⟩,
    fun cmd hcmd => absurd hcmd List.not_mem_nil⟩
  · cases (hnone o).symm.trans hs
  · cases h
  · cases h
  · cases (hcommit o).symm.trans h
  · cases (hcommit o).symm.trans h

/-- A console of two pixels in a row. -/
def consolePlane : PlaneState := ⟨some ⟨1,⟨1,true,false,false⟩,4,8,0⟩,true,0,0,2*2^16,2^16,false⟩

def consoleInfo : ℕ → ResourceInfo := fun _ => ⟨8,false⟩

/-- All of the console. -/
def consoleRect : DrmRect := ⟨0,0,2,1,by decide,by decide⟩

lemma consoleCommit_proper {plane : PlaneState} {active modeset : Bool} {setMode : Option (ℕ × ℕ)} {rect : DrmRect}
    (hsets : setMode.isSome → modeset = true) (hx : rect.x1 < 2) (hy : rect.y1 < 1)
    (hplane : modeset = true ∨ active = true ∧ consolePlane.differs plane = false) :
    Commit.Proper consoleInfo plane active ⟨true,modeset,setMode,some consolePlane,some rect,⟨true,true⟩⟩ := by
  refine ⟨fun hm => ?_,hsets,fun _ h => ?_,fun new h _ => ?_,fun new fb h hfb => ?_,fun new fb rect' h hfb hd => ?_,
    fun _ _ _ _ _ _ => rfl⟩
  · rcases hplane with hplane | ⟨hplane,-⟩
    · cases hplane.symm.trans hm
    · exact hplane.symm
  · cases h
  · cases h
    rfl
  · cases h
    cases hfb
    exact ⟨nofun,rfl,rfl,fun _ => ⟨rfl,rfl⟩⟩
  · cases h
    cases hfb
    cases hd
    change rect.x1*4+rect.y1*8 < 2^32
    omega

/-- The second pixel is drawn again behind a commit, and it is all the damage of the next one. -/
def consoleEvents : List (DisplayEvent ℕ) :=
  [.commit 0 ⟨true,true,some (2,1),some consolePlane,some consoleRect,⟨true,true⟩⟩,
    .callback 0,.callback 0,.callback 0,.callback 0,.host,.draw 1 fun a => if a = 4 then 7 else a,
    .commit 0 ⟨true,false,none,some consolePlane,some ⟨1,0,2,1,by decide,by decide⟩,⟨true,true⟩⟩,
    .callback 0,.callback 0,.callback 0,.callback 0]

def consoleState : DisplayDev ℕ :=
  (consoleEvents.foldlM (step consoleInfo) (start (fun _ a => a) fun _ _ => 0)).getD
    (start (fun _ a => a) fun _ _ => 0)

lemma console_runs : Runs consoleInfo (start (fun _ a => a) fun _ _ => 0) consoleEvents consoleState :=
  .cons ⟨consoleCommit_proper (fun _ => rfl) (by decide) (by decide) (.inl rfl),rfl⟩
    (.cons ⟨trivial,rfl⟩ (.cons ⟨trivial,rfl⟩ (.cons ⟨trivial,rfl⟩ (.cons ⟨trivial,rfl⟩ (.cons ⟨trivial,rfl⟩
    (.cons ⟨trivial,rfl⟩ (.cons ⟨consoleCommit_proper nofun (by decide) (by decide) (.inr ⟨rfl,rfl⟩),rfl⟩
    (.cons ⟨trivial,rfl⟩ (.cons ⟨trivial,rfl⟩ (.cons ⟨trivial,rfl⟩ (.cons ⟨trivial,rfl⟩ (.nil _))))))))))))

end DisplayDev
end GuestAdditions

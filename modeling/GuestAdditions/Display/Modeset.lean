import GuestAdditions.Display.Screens

/-! What a commit leaves behind. The core calls `atomic_flush` behind the update of the plane, so that the
`needs_modeset` of a modeset is there for the next update only. -/
namespace GuestAdditions.DisplayDev
variable {α : Type*} {info : ℕ → ResourceInfo} {s t : DisplayDev α} {o o' : ℕ} {c : Commit} {new old : PlaneState}
  {needsModeset : Bool} {es : List (DisplayEvent α)}

lemma set_self (s : DisplayDev α) (o : ℕ) (out : Output) (cmds : List DisplayCmd) :
    (s.set o out cmds).outputs o = out := Function.update_self _ _ _

lemma set_of_ne (s : DisplayDev α) (ho : o ≠ o') (out : Output) (cmds : List DisplayCmd) :
    (s.set o' out cmds).outputs o = s.outputs o := Function.update_of_ne ho _ _

lemma callback_owned {pc : CommitPc} (h : s.Showing info) (hc : (s.outputs o).commit = some (c,pc)) :
    ∃ out cmds, s.callback o c pc = s.set o out cmds ∧ ∀ cmd ∈ cmds, ∀ o', o' ≠ o → cmd.output ≠ some o' := by
  have hoff : ∀ width height, ∀ cmd ∈ [DisplayCmd.setScanout o 0 width height 0 0], ∀ o', o' ≠ o →
      cmd.output ≠ some o' := fun width height cmd hcmd => (off_owned info width height cmd hcmd).2
  cases pc with
  | disable =>
    refine ⟨_,_,rfl,fun cmd hcmd => ?_⟩
    split at hcmd
    · exact hoff 0 0 cmd hcmd
    · cases hcmd
  | setMode =>
    refine ⟨_,_,rfl,fun cmd hcmd => ?_⟩
    split at hcmd
    · cases hcmd
    · exact hoff _ _ cmd hcmd
  | plane =>
    unfold callback
    dsimp only
    cases hnew : c.plane with
    | none => exact ⟨_,[],rfl,fun cmd hcmd => absurd hcmd List.not_mem_nil⟩
    | some new =>
      have hproper := (h.kept o).proper c _ hc nofun
      exact ⟨_,_,rfl,fun cmd hcmd => (planeUpdate_owned hproper hnew cmd hcmd).2⟩
  | flush => exact ⟨_,[],rfl,fun cmd hcmd => absurd hcmd List.not_mem_nil⟩

/-- How far a commit of output `o` has come, and what holds behind its update of the plane. -/
inductive Reached (info : ℕ → ResourceInfo) (o : ℕ) (c : Commit) (new old : PlaneState) (needsModeset : Bool)
    (s : DisplayDev α) : Prop
  | before (pc : CommitPc) (hpc : pc ≠ .flush) (commit : (s.outputs o).commit = some (c,pc))
      (plane : (s.outputs o).plane = old) (flag : (s.outputs o).needsModeset = needsModeset)
  | updated (commit : (s.outputs o).commit = some (c,.flush)) (flag : (s.outputs o).needsModeset = false)
      (dark : (s.drain info).scanout o = none ↔
        c.modeset = true ∧ new.differs old = false ∧ needsModeset = false)
  | done (commit : (s.outputs o).commit = none) (flag : (s.outputs o).needsModeset = c.modeset)
      (dark : (s.drain info).scanout o = none ↔
        c.modeset = true ∧ new.differs old = false ∧ needsModeset = false)

lemma Reached.congr (hr : s.Reached info o c new old needsModeset)
    (hcommit : (t.outputs o).commit = (s.outputs o).commit) (hplane : (t.outputs o).plane = (s.outputs o).plane)
    (hflag : (t.outputs o).needsModeset = (s.outputs o).needsModeset)
    (hscanout : (t.drain info).scanout o = (s.drain info).scanout o) :
    t.Reached info o c new old needsModeset := by
  cases hr with
  | before pc hpc commit plane flag =>
    exact .before pc hpc (hcommit.trans commit) (hplane.trans plane) (hflag.trans flag)
  | updated commit flag dark => exact .updated (hcommit.trans commit) (hflag.trans flag) (by rw [hscanout]; exact dark)
  | done commit flag dark => exact .done (hcommit.trans commit) (hflag.trans flag) (by rw [hscanout]; exact dark)

/-- The update of a visible plane takes the flag away, and leaves an output dark where a modeset has switched it
off and nothing else has changed. -/
theorem update_dark_iff (h : s.Showing info) (hc : (s.outputs o).commit = some (c,.plane)) (hactive : c.active = true)
    (hnew : c.plane = some new) (hfb : new.fb.isSome) (hd : c.damage.isSome) {r : List DisplayCmd × Bool}
    (hr : primaryPlaneUpdate o (s.outputs o).plane new c.active (s.outputs o).needsModeset c.damage c.allocs = r) :
    r.2 = false ∧ ((r.1.foldl (DisplayHost.exec info s.mem) (s.drain info)).scanout o = none ↔ c.modeset = true ∧
      new.differs (s.outputs o).plane = false ∧ (s.outputs o).needsModeset = false) := by
  have hk := h.kept o
  have hproper := hk.proper c _ hc nofun
  have hbefore := hk.before hc rfl
  rcases DisplayHost.primaryPlaneUpdate_cases o _ new c.active _ c.damage c.allocs hr with
    ⟨-,⟨hcrtc,-⟩ | ⟨-,-,hnone⟩⟩ | ⟨width,height,-,hoff⟩ | ⟨fb,rect,hfb',-,hdamage,hchange⟩
  · rw [hproper.bound new hnew hfb] at hcrtc
    cases hcrtc
  · rw [hnone] at hd
    cases hd
  · rcases hoff with hoff | hoff
    · rw [hoff] at hfb
      cases hfb
    · rw [hactive] at hoff
      cases hoff
  · have hplain := hproper.plain new fb hnew hfb'
    have hrange := hproper.inRange new fb rect hnew hfb' hdamage
    rcases hchange with ⟨hdiffers,rfl⟩ | ⟨hsame,rfl⟩
    · refine ⟨rfl,fun hnone => ?_,fun hdark => ?_⟩
      · cases (DisplayHost.sendNew_scanout hplain _ _ _ _).symm.trans hnone
      · rw [hdark.2.1,hdark.2.2] at hdiffers
        cases hdiffers
    · obtain ⟨hdiffers,hflag⟩ := Bool.or_eq_false_iff.mp hsame
      refine ⟨hflag,?_⟩
      dsimp only
      rw [DisplayHost.sendDamage_scanout hplain hrange]
      refine ⟨fun hnone => ⟨?_,hdiffers,hflag⟩,fun hdark => hbefore.dark hdark.1⟩
      refine (hbefore.due hproper hactive hdiffers hfb hnone).resolve_left ?_
      rw [hflag]
      exact Bool.false_ne_true

lemma Reached.callback {pc : CommitPc} (hr : s.Reached info o c new old needsModeset) (h : s.Showing info)
    (hactive : c.active = true) (hnew : c.plane = some new) (hfb : new.fb.isSome) (hd : c.damage.isSome)
    {c' : Commit} (hc : (s.outputs o).commit = some (c',pc)) :
    (s.callback o c' pc).Reached info o c new old needsModeset := by
  cases hr with
  | before pc hpc commit plane flag =>
    rw [commit] at hc
    cases hc
    cases pc with
    | disable =>
      unfold DisplayDev.callback
      exact .before .setMode nofun (by rw [set_self]) (by rw [set_self,← plane]) (by rw [set_self,← flag])
    | setMode =>
      unfold DisplayDev.callback
      exact .before .plane nofun (by rw [set_self]) (by rw [set_self,← plane]) (by rw [set_self,← flag])
    | plane =>
      obtain ⟨hflag,hdark⟩ := update_dark_iff h commit hactive hnew hfb hd rfl
      rw [plane,flag] at hdark hflag
      rw [DisplayDev.callback,hnew]
      dsimp only
      rw [plane,flag]
      refine .updated (by rw [set_self]) (by rw [set_self]; exact hflag) ?_
      rw [set_drain]
      exact hdark
    | flush => exact absurd rfl hpc
  | updated commit flag dark =>
    rw [commit] at hc
    cases hc
    unfold DisplayDev.callback
    refine .done (by rw [set_self]) (by rw [set_self,flag,Bool.false_or]) ?_
    rw [set_drain]
    exact dark
  | done commit flag dark =>
    rw [commit] at hc
    cases hc

/-- Every event but another commit on the output. -/
theorem Reached.step [DecidableEq α] {e : DisplayEvent α} (hr : s.Reached info o c new old needsModeset)
    (h : s.Showing info) (hactive : c.active = true) (hnew : c.plane = some new) (hfb : new.fb.isSome)
    (hd : c.damage.isSome) (he : ∀ c', e ≠ .commit o c') (hs : s.step info e = some t) :
    t.Reached info o c new old needsModeset := by
  cases e with
  | commit o' c' =>
    have ho : o ≠ o' := fun heq => he c' (by rw [heq])
    unfold DisplayDev.step at hs
    dsimp only at hs
    split at hs
    · cases hs
      have hout := s.set_of_ne ho { s.outputs o' with commit := some (c',.disable) } []
      exact hr.congr (by rw [hout]) (by rw [hout]) (by rw [hout]) (by rw [set_drain,List.foldl_nil])
    · cases hs
  | callback o' =>
    unfold DisplayDev.step at hs
    dsimp only at hs
    split at hs
    · cases hs
    rename_i c' pc hc
    cases hs
    by_cases ho : o = o'
    · subst ho
      exact hr.callback h hactive hnew hfb hd hc
    · obtain ⟨out,cmds,hset,hcmds⟩ := callback_owned h hc
      have hout := s.set_of_ne ho out cmds
      rw [hset]
      refine hr.congr (by rw [hout]) (by rw [hout]) (by rw [hout]) ?_
      rw [set_drain]
      exact DisplayHost.execs_scanout fun cmd hcmd => hcmds cmd hcmd o ho
  | draw r m =>
    cases hs
    exact hr.congr rfl rfl rfl (congrFun (DisplayHost.execs_scanouts s.queue rfl) o)
  | host =>
    unfold DisplayDev.step at hs
    dsimp only at hs
    split at hs
    · cases hs
    · rename_i cmd queue hqueue
      cases hs
      refine hr.congr rfl rfl rfl ?_
      rw [drain,drain,hqueue,List.foldl_cons]

lemma Reached.run [DecidableEq α] (hrun : Runs info s es t) (hr : s.Reached info o c new old needsModeset)
    (h : s.Showing info) (hactive : c.active = true) (hnew : c.plane = some new) (hfb : new.fb.isSome)
    (hd : c.damage.isSome) (hes : ∀ c', .commit o c' ∉ es) : t.Reached info o c new old needsModeset := by
  induction hrun with
  | nil => exact hr
  | cons head _ ih =>
    refine ih (hr.step h hactive hnew hfb hd (fun c' heq => hes c' ?_) head.2) (h.step head.1 head.2)
      fun c' hmem => hes c' (List.mem_cons_of_mem _ hmem)
    rw [heq]
    exact List.mem_cons_self

/-- One commit, with whatever else happens until the next one. -/
theorem Showing.commit [DecidableEq α] (h : s.Showing info) (hcommit : Runs info s (.commit o c::es) t)
    (hes : ∀ c', .commit o c' ∉ es) (hdone : (t.outputs o).commit = none) (hactive : c.active = true)
    (hnew : c.plane = some new) (hfb : new.fb.isSome) (hd : c.damage.isSome) :
    ((t.drain info).scanout o = none ↔
        c.modeset = true ∧ new.differs (s.outputs o).plane = false ∧ (s.outputs o).needsModeset = false) ∧
      (t.outputs o).needsModeset = c.modeset ∧ t.Showing info := by
  have hend : t.Showing info := hcommit.invariant (fun s e t h hs => h.step hs.1 hs.2) h
  cases hcommit with
  | cons head tail =>
    rename_i u
    have hs := head.2
    have hu : u.Reached info o c new (s.outputs o).plane (s.outputs o).needsModeset := by
      unfold DisplayDev.step at hs
      dsimp only at hs
      split at hs
      · cases hs
        exact .before .disable nofun (by rw [set_self]) (by rw [set_self]) (by rw [set_self])
      · cases hs
    cases hu.run tail (h.step head.1 hs) hactive hnew hfb hd hes with
    | before pc _ commit _ _ => cases hdone.symm.trans commit
    | updated commit _ _ => cases hdone.symm.trans commit
    | done _ flag dark => exact ⟨dark,flag,hend⟩

/-- A modeset of the console with the plane as it is. -/
def consoleModeset : Commit := ⟨true,true,some (2,1),some consolePlane,some consoleRect,⟨true,true⟩⟩

/-- The plane of the console once more. -/
def consoleUpdate : Commit := ⟨true,false,none,some consolePlane,some consoleRect,⟨true,true⟩⟩

end GuestAdditions.DisplayDev

import GuestAdditions.Packaging.InstallStatus

/-! What `ga_install` and then `ga_remove` leave in the initramfs of each kernel when every tool
succeeds. The one rebuilds it for every kernel that it builds for, the other for the running kernel. -/
namespace GuestAdditions
open Shell Words

/-- Every tool that the hooks call succeeds. -/
structure Tools.Succeed (T : Tools) : Prop where
  usermod : ∀ a ∈ T.passwd, ∀ g, a.usermod g = 0
  dkmsRemove : ∀ v, T.dkmsRemove v = 0
  dkmsAdd : T.dkmsAdd = 0
  dkmsInstall : ∀ k, T.dkmsInstall k = 0
  updateInitramfs : ∀ k, T.updateInitramfs k = 0
  dracut : ∀ k, T.dracut k = 0
  modinfo : T.modinfo.1 = 0

/-- `ga_install` builds the module for this kernel. -/
def Tools.Builds (T : Tools) (k : Str) : Prop := k ∈ T.kernels ∧ T.build k ∧ is7 k

/-- `ga_remake_initrd` rebuilds the initramfs of this kernel. -/
def Tools.Rebuilds (T : Tools) (k : Str) : Prop :=
  T.modulesDep k ∧ T.vmlinuz k ∧ (T.hasUpdateInitramfs ∨ T.hasDracut)

instance (T : Tools) (k : Str) : Decidable (T.Rebuilds k) := by
  unfold Tools.Rebuilds
  infer_instance

/-- The guest after the script that installs the package and, later, the one that removes it. -/
def installRemove (T : Tools) (os : GuestOs) : GuestOs :=
  let installed := (call (gaInstall T) false (os,⟨false,false⟩)).2.1
  (call (gaRemove T) false (installed,⟨false,false⟩)).2.1

/-- Neither the registrations nor an initramfs have changed. -/
def SameBoot (os os' : GuestOs) : Prop := os'.dkms = os.dkms ∧ os'.initramfs = os.initramfs

instance : IsPreorder GuestOs SameBoot where
  refl _ := ⟨rfl,rfl⟩
  trans _ _ _ h h' := ⟨h'.1.trans h.1,h'.2.trans h.2⟩

lemma sameBoot_lets_log : LetsLog SameBoot where
  output _ _ := ⟨rfl,rfl⟩
  call os c n := by
    rw [GuestOs.after]
    by_cases hn : n = 0 <;> simp [hn,SameBoot]

section remake
variable (T : Tools) (ignored : Bool) (s : GuestOs × InstallVars) (k : Str)

lemma rebuild_congr {os os' : GuestOs} (h : SameBoot os os') (c : Call) :
    SameBoot (os.rebuild k) (os'.after c 0 (.rebuild k)) := by
  refine ⟨h.1,?_⟩
  funext j
  simp [GuestOs.after,GuestOs.rebuild,GuestOs.installedFor,h.1,h.2]

/-- A rebuild that succeeds, with the message before it. -/
theorem rebuild_world (text warn : Str) (c : Call) :
    SameBoot (s.1.rebuild k)
      (seq (gaMsg text) (orIf (tool c 0 (.rebuild k)) (gaWarn warn)) ignored s).2.1 := by
  have hmsg : gaMsg text ignored s = (.status 0,(gaMsg text ignored s).2) := rfl
  have hsame := gaMsg_keeps sameBoot_lets_log text ignored s
  rw [seq_run hmsg,orIf_stop (tool_run c 0 _ _)]
  exact rebuild_congr k hsame c

lemma guard_run : orIf (test fun _ => !T.modulesDep k) (test fun _ => !T.vmlinuz k) true s =
    (.status (if T.modulesDep k ∧ T.vmlinuz k then 1 else 0),s) := by
  cases hm : T.modulesDep k with
  | false =>
    rw [orIf_stop (test_true rfl)]
    simp
  | true =>
    rw [orIf_run Nat.one_ne_zero (test_false rfl)]
    cases hv : T.vmlinuz k with
    | false => exact (test_true rfl).trans (by simp)
    | true => exact (test_false rfl).trans (by simp)

/-- The tool that the guest has for it rebuilds the initramfs; nothing else that is booted changes. -/
theorem gaRemakeInitrd_world (hT : T.Succeed) (hk : k ≠ [] ∨ k = T.running) :
    SameBoot (if T.Rebuilds k then s.1.rebuild k else s.1) (gaRemakeInitrd T k ignored s).2.1 := by
  have hkver : (if k = [] then T.running else k) = k := by
    by_cases h : k = []
    · rw [if_pos h]
      exact (hk.resolve_left fun hne => hne h).symm
    · rw [if_neg h]
  have hguard := guard_run T s k
  rw [gaRemakeInitrd,hkver]
  by_cases hfiles : T.modulesDep k ∧ T.vmlinuz k
  · rw [if_pos hfiles] at hguard
    rw [seq_run (ifElse_else Nat.one_ne_zero hguard)]
    change SameBoot _ (ifElse _ _ _ ignored s).2.1
    cases hu : T.hasUpdateInitramfs with
    | true =>
      rw [ifElse_then (test_true rfl),if_pos ⟨hfiles.1,hfiles.2,Or.inl hu⟩,hT.updateInitramfs]
      exact rebuild_world ignored s k _ _ _
    | false =>
      rw [ifElse_else Nat.one_ne_zero (test_false rfl)]
      cases hd : T.hasDracut with
      | true =>
        rw [ifElse_then (test_true rfl),if_pos ⟨hfiles.1,hfiles.2,Or.inr hd⟩,hT.dracut]
        exact rebuild_world ignored s k _ _ _
      | false =>
        rw [ifElse_else Nat.one_ne_zero (test_false rfl),if_neg (by simp [Tools.Rebuilds,hu,hd])]
        exact gaWarn_keeps sameBoot_lets_log _ ignored s
  · rw [if_neg hfiles] at hguard
    have hstop : ∀ text, ifElse (orIf (test fun _ => !T.modulesDep k) (test fun _ => !T.vmlinuz k))
        (seq (gaMsg text) (ret 0)) skip ignored s = (.returned 0,(gaMsg text ignored s).2) :=
      fun text => ifElse_then hguard
    rw [seq_stop (hstop _) (by simp),if_neg fun h => hfiles ⟨h.1,h.2.1⟩]
    exact gaMsg_keeps sameBoot_lets_log _ ignored s

end remake

section builds
variable (T : Tools) (ignored : Bool) (s : GuestOs × InstallVars) (k : Str)

/-- A kernel without headers, or of another series, is passed over. -/
theorem buildFor_skips (h : ¬(T.build k ∧ is7 k)) : (buildFor T k ignored s).2 = s := by
  by_cases hb : T.build k
  · have hfirst : orIf (test fun _ => T.build k) nextRound ignored s = (.status 0,s) :=
      orIf_stop (test_true hb)
    have hsecond : ifElse (test fun _ => is7 k) skip nextRound ignored s = (.continued,s) :=
      ifElse_else Nat.one_ne_zero (test_false (by simpa [hb] using h))
    rw [buildFor,seq_run hfirst,seq_stop hsecond (by simp)]
  · have hfirst : orIf (test fun _ => T.build k) nextRound ignored s = (.continued,s) :=
      orIf_run Nat.one_ne_zero (test_false (by simpa using hb))
    rw [buildFor,seq_stop hfirst (by simp)]

/-- Any other is built for, and its initramfs is rebuilt. -/
theorem buildFor_builds (hT : T.Succeed) (hb : T.build k) (h7 : is7 k) : ∃ vars,
    (buildFor T k ignored s).2.1 = (gaRemakeInitrd T k ignored
      (s.1.after (.dkmsInstall T.VER.text k) 0 (.installVersion T.VER k),vars)).2.1 := by
  have hfirst : orIf (test fun _ => T.build k) nextRound ignored s = (.status 0,s) :=
    orIf_stop (test_true hb)
  have hsecond : ifElse (test fun _ => is7 k) skip nextRound ignored s = (.status 0,s) :=
    ifElse_then (test_true h7)
  have hinstall := tool_run (.dkmsInstall T.VER.text k) (T.dkmsInstall k) (.installVersion T.VER k) s
  have hmark : ∀ s', ∃ n vars, andIf (test fun _ => k = T.running) setBuiltRunning ignored s' =
      (.status n,(s'.1,vars)) := by
    intro s'
    by_cases hr : k = T.running
    · exact ⟨0,_,andIf_run (test_true (by simp [hr]))⟩
    · exact ⟨1,_,andIf_stop Nat.one_ne_zero (test_false (by simp [hr]))⟩
  rw [hT.dkmsInstall] at hinstall
  have hany : setBuiltAny ignored (s.1.after (.dkmsInstall T.VER.text k) 0 (.installVersion T.VER k),s.2) =
      (.status 0,(s.1.after (.dkmsInstall T.VER.text k) 0 (.installVersion T.VER k),_)) := rfl
  obtain ⟨n,vars,hvars⟩ := hmark (s.1.after (.dkmsInstall T.VER.text k) 0 (.installVersion T.VER k),
    { s.2 with builtAny := true })
  refine ⟨vars,?_⟩
  rw [buildFor,seq_run hfirst,seq_run hsecond,hT.dkmsInstall,ifElse_then hinstall,seq_run hany,
    seq_run hvars,call_world]

end builds

/-- After the kernels `done`: dkms knows the package's own version, and no other, and the initramfs of
each of these kernels that was built for and could be rebuilt carries the module. -/
structure Installed (T : Tools) (before : Str → Bool) (done : List Str) (os : GuestOs) : Prop where
  own : ∀ l ∈ os.dkms, l.version = T.VER
  known : os.dkms ≠ []
  initramfs : ∀ k, os.initramfs k = true ↔
    before k = true ∨ (k ∈ done ∧ T.build k ∧ is7 k ∧ T.Rebuilds k)

section install
variable (T : Tools) (hT : T.Succeed) {before : Str → Bool} {done : List Str} {os os' : GuestOs}

lemma Installed.same (h : Installed T before done os) (hs : SameBoot os os') :
    Installed T before done os' := by
  refine ⟨?_,?_,?_⟩
  · rw [hs.1]
    exact h.own
  · rw [hs.1]
    exact h.known
  · rw [hs.2]
    exact h.initramfs

/-- A kernel that is not built for, or whose initramfs is not rebuilt, changes nothing. -/
theorem Installed.pass (h : Installed T before done os) {k : Str}
    (hk : ¬(T.build k ∧ is7 k ∧ T.Rebuilds k)) : Installed T before (done ++ [k]) os := by
  refine ⟨h.own,h.known,fun j => (h.initramfs j).trans ?_⟩
  apply or_congr_right
  constructor
  · rintro ⟨hj,hrest⟩
    exact ⟨by simp [hj],hrest⟩
  · rintro ⟨hj,hrest⟩
    rcases List.mem_append.mp hj with hj | hj
    · exact ⟨hj,hrest⟩
    · rw [List.mem_singleton.mp hj] at hrest
      exact absurd hrest hk

lemma installVersion_installed (k : Str) : (os.installVersion T.VER k).installedFor k := by
  simp [GuestOs.installVersion,GuestOs.installedFor,DkmsLine.installed]

include hT in
/-- A round of the builds, on a kernel that is built for. -/
theorem Installed.build (h : Installed T before done os) (vars : InstallVars) (ignored : Bool)
    {k : Str} (hb : T.build k) (h7 : is7 k) :
    Installed T before (done ++ [k]) (buildFor T k ignored (os,vars)).2.1 := by
  obtain ⟨vars',hrun⟩ := buildFor_builds T ignored (os,vars) k hT hb h7
  have hne : k ≠ [] := by
    rintro rfl
    cases h7
  have hworld := gaRemakeInitrd_world T ignored
    (os.after (.dkmsInstall T.VER.text k) 0 (.installVersion T.VER k),vars') k hT (Or.inl hne)
  have howned : ∀ l ∈ (os.installVersion T.VER k).dkms, l.version = T.VER := by
    intro l hl
    rcases List.mem_append.mp hl with hl | hl
    · exact h.own l (List.mem_of_mem_filter hl)
    · rw [List.mem_singleton.mp hl]
  have hknown : (os.installVersion T.VER k).dkms ≠ [] := by simp [GuestOs.installVersion]
  rw [hrun]
  refine Installed.same T ?_ hworld
  by_cases hr : T.Rebuilds k
  · rw [if_pos hr]
    refine ⟨howned,hknown,fun j => ?_⟩
    by_cases hj : j = k
    · have hnew : ((os.installVersion T.VER k).rebuild k).initramfs j = true := by
        rw [GuestOs.rebuild,hj]
        simp [installVersion_installed T k]
      exact ⟨fun _ => Or.inr ⟨by simp [hj],hj ▸ hb,hj ▸ h7,hj ▸ hr⟩,fun _ => hnew⟩
    · have hold : ((os.installVersion T.VER k).rebuild k).initramfs j = os.initramfs j := by
        simp [GuestOs.rebuild,hj]
      exact (iff_of_eq (congrArg (· = true) hold)).trans ((h.initramfs j).trans (by simp [hj]))
  · rw [if_neg hr]
    have hinst : Installed T before done (os.installVersion T.VER k) := ⟨howned,hknown,h.initramfs⟩
    exact (hinst.pass T fun hk => hr hk.2.2).same T ⟨rfl,rfl⟩

include hT in
lemma Installed.step (h : Installed T before done os) (vars : InstallVars) (ignored : Bool)
    (k : Str) : Installed T before (done ++ [k]) (buildFor T k ignored (os,vars)).2.1 := by
  by_cases hb : T.build k ∧ is7 k
  · exact Installed.build T hT h vars ignored hb.1 hb.2
  · rw [buildFor_skips T ignored (os,vars) k hb]
    exact h.pass T fun hk => hb ⟨hk.1,hk.2.1⟩

lemma builds_end (ignored : Bool) (s : GuestOs × InstallVars) :
    ∃ n, (each (buildFor T) T.kernels ignored s).1 = .status n := by
  have hends : (each (buildFor T) T.kernels).Ends ignored (Passing fun _ => False) :=
    each_ends (buildFor_ends T) T.kernels
  exact (hends s).resolve_right id

lemma buildFor_goesOn (ignored : Bool) (k : Str) (s : GuestOs × InstallVars) :
    (buildFor T k ignored s).1.goesOn.isSome := by
  have hends : (buildFor T k).Ends ignored (Passing fun e => e = .continued ∨ False) :=
    buildFor_ends T k
  rcases hends s with ⟨n,hn⟩ | hn | hn
  · rw [hn]
    rfl
  · rw [hn]
    rfl
  · exact hn.elim

include hT in
/-- From the registration on: the builds for all kernels, and what follows them changes nothing. -/
theorem installModules_world (hown : ∀ l ∈ os.dkms, l.version = T.VER) (hne : os.dkms ≠ [])
    (vars : InstallVars) (ignored : Bool) :
    Installed T os.initramfs T.kernels (installModules T ignored (os,vars)).2.1 := by
  have hbuilds : Installed T os.initramfs T.kernels
      (each (buildFor T) T.kernels ignored (os,⟨false,false⟩)).2.1 := by
    apply each_induct (P := Installed T os.initramfs)
    · exact buildFor_goesOn T ignored
    · exact fun done k s h => Installed.step T hT h s.2 ignored k
    · exact ⟨hown,hne,fun k => by simp⟩
  have hclear : effect (fun s : GuestOs × InstallVars => (s.1,⟨false,false⟩)) ignored (os,vars) =
      (.status 0,(os,⟨false,false⟩)) := rfl
  obtain ⟨n,hn⟩ := builds_end T ignored (os,⟨false,false⟩)
  rw [installModules,seq_run hclear,seq_run (Prod.ext hn rfl)]
  exact hbuilds.same T (installTail_keeps sameBoot_lets_log T ignored _)

end install

/-- The initramfs of every kernel stays as it was. -/
def SameInitramfs (os os' : GuestOs) : Prop := os'.initramfs = os.initramfs

instance : IsPreorder GuestOs SameInitramfs where
  refl _ := rfl
  trans _ _ _ h h' := h'.trans h

lemma after_initramfs {f : GuestOs → GuestOs} (hf : ∀ os, (f os).initramfs = os.initramfs)
    (os : GuestOs) (c : Call) (n : ℕ) : SameInitramfs os (os.after c n f) := by
  rw [SameInitramfs,GuestOs.after]
  by_cases hn : n = 0
  · rw [if_pos hn,hf]
  · rw [if_neg hn]

lemma sameInitramfs_lets_drop : LetsDrop SameInitramfs where
  output _ _ := rfl
  call os c n := after_initramfs (fun _ => rfl) os c n
  dropVersion os c n v := after_initramfs (fun os' => dropVersion_initramfs os' v) os c n
  removeTree os c n t := after_initramfs (fun os' => removeTree_initramfs os' t) os c n

section whole
variable (T : Tools) (hT : T.Succeed) (s : GuestOs × InstallVars)
include hT

lemma not_lastRefused : ¬LastRefused T := by
  rintro ⟨-,a,ha,-,-,hne⟩
  have hmem : a ∈ T.passwd := List.mem_of_mem_filter (List.mem_of_getLast? ha)
  exact hne (hT.usermod a hmem VIDEO)

/-- The loop over the other versions comes last, and leaves only the package's own. -/
theorem installPrologue_own : ∀ l ∈ (installPrologue T false s).2.1.dkms, l.version = T.VER := by
  have hends : (dropOwn T).Ends false (Passing fun _ => False) := dropOwn_ends T
  obtain ⟨n,hn⟩ := (groups_end T (not_lastRefused T hT)).status s
  obtain ⟨m,hm⟩ := hends.status (call (gaAddRenderGroups T) false s).2
  generalize (dropOwn T false (call (gaAddRenderGroups T) false s).2).2 = s' at hm
  obtain ⟨j,hj⟩ := dropStrays_run T false s'
  have hrun : (installPrologue T false s).2 = (T.others s'.1).foldl (strayStep T) s' := by
    rw [installPrologue,seq_run hn,seq_run hm,hj]
  intro l hl
  rw [hrun,(strays_removed T s').dkms] at hl
  have hver := (List.mem_filter.mp hl).2
  rw [hT.dkmsRemove] at hver
  simpa using hver

lemma gaInstall_world :
    Installed T s.1.initramfs T.kernels (call (gaInstall T) false s).2.1 := by
  obtain ⟨n,hn⟩ := (installPrologue_ends T _ (not_lastRefused T hT)).status s
  have hsame : (installPrologue T false s).2.1.initramfs = s.1.initramfs :=
    installPrologue_keeps sameInitramfs_lets_drop T false s
  have hown := installPrologue_own T hT s
  have hadded : ∀ l ∈ ((installPrologue T false s).2.1.after (.dkmsAdd T.VER.text) 0
      (.addVersion T.VER)).dkms, l.version = T.VER := by
    intro l hl
    rcases List.mem_append.mp hl with hl | hl
    · exact hown l hl
    · rw [List.mem_singleton.mp hl]
  have hne : ((installPrologue T false s).2.1.after (.dkmsAdd T.VER.text) 0
      (.addVersion T.VER)).dkms ≠ [] := by simp [GuestOs.after,GuestOs.addVersion]
  rw [call_world,gaInstall,seq_run hn,installVer_added T hT.dkmsAdd,← hsame]
  exact installModules_world T hT hadded hne _ false

end whole

section remove
variable (T : Tools) (hT : T.Succeed) {before : Str → Bool} {done : List Str} {os : GuestOs}

lemma dropVersion_own (h : Installed T before done os) : (os.dropVersion T.VER.text).dkms = [] := by
  apply List.filter_eq_nil_iff.mpr
  intro l hl
  simp [h.own l hl]

/-- A guest without a registration gets an initramfs without the module. -/
theorem rebuild_bare {os' : GuestOs} (h : os'.dkms = []) (k j : Str) :
    (os'.rebuild k).initramfs j = if j = k then false else os'.initramfs j := by
  simp [GuestOs.rebuild,GuestOs.installedFor,h]

include hT in
/-- The removal leaves no registration, and rebuilds the initramfs of the running kernel. -/
theorem gaRemove_world (h : Installed T before done os) (vars : InstallVars) (k : Str) :
    (call (gaRemove T) false (os,vars)).2.1.initramfs k =
      if k = T.running ∧ T.Rebuilds T.running then false else os.initramfs k := by
  obtain ⟨l,ls,hls⟩ := List.exists_cons_of_ne_nil h.known
  have hreg : registered T true (os,vars) = (.status 0,(os,vars)) := by
    apply test_true
    have hl : l.version = T.VER := h.own l (by simp [hls])
    simp [hls,hl]
  have hmsg : ∀ text, gaMsg text false (os,vars) =
      (.status 0,({ os with output := os.output ++ [PKG ++ ": ".toList ++ text] },vars)) :=
    fun _ => rfl
  have hdrop : ∀ os', dkmsRemove T T.VER.text true (os',vars) =
      (.status 0,(os'.after (.dkmsRemove T.VER.text) 0 (.dropVersion T.VER.text),vars)) := by
    intro os'
    rw [dkmsRemove,hT.dkmsRemove]
    exact tool_run _ 0 _ _
  rw [call_world,gaRemove,ifElse_then hreg,seq_run (hmsg _),seq_run (orIf_stop (hdrop _)),call_world]
  obtain ⟨-,hworld⟩ := gaRemakeInitrd_world T false _ T.running hT (Or.inr rfl)
  rw [hworld]
  by_cases hr : T.Rebuilds T.running
  · rw [if_pos hr]
    refine (rebuild_bare (dropVersion_own T h) T.running k).trans ?_
    simp only [hr,and_true]
    rfl
  · rw [if_neg hr,if_neg fun hk => hr hk.2]
    rfl

end remove

/-- The initramfs of a kernel after both, when it is not the running one's that the removal rebuilt. -/
theorem installRemove_initramfs (T : Tools) (hT : T.Succeed) (os : GuestOs) (k : Str) :
    (installRemove T os).initramfs k = true ↔ ¬(k = T.running ∧ T.Rebuilds k) ∧
      (os.initramfs k = true ∨ (T.Builds k ∧ T.Rebuilds k)) := by
  have hinst := gaInstall_world T hT (os,⟨false,false⟩)
  rw [installRemove,gaRemove_world T hT hinst]
  by_cases hk : k = T.running ∧ T.Rebuilds T.running
  · have hrun : k = T.running ∧ T.Rebuilds k := ⟨hk.1,hk.1 ▸ hk.2⟩
    rw [if_pos hk]
    exact ⟨fun h => Bool.noConfusion h,fun h => absurd hrun h.1⟩
  · have hrun : ¬(k = T.running ∧ T.Rebuilds k) := fun h => hk ⟨h.1,h.1 ▸ h.2⟩
    rw [if_neg hk,hinst.initramfs]
    simp only [hrun,not_false_eq_true,true_and,Tools.Builds,and_assoc]

/-- No initramfs carries the module after the install and the removal. -/
def CarriedByNone (T : Tools) (os : GuestOs) : Prop :=
  ∀ k, (installRemove T os).initramfs k = false

/-- Install and removal cancel for exactly the guests on which each kernel is the running one, with an
initramfs that can be rebuilt, or one whose initramfs neither carried the module nor is rebuilt by the
install. -/
theorem installRemove_iff (T : Tools) (hT : T.Succeed) (os : GuestOs) :
    CarriedByNone T os ↔ ∀ k, (k = T.running ∧ T.Rebuilds k) ∨
      (os.initramfs k = false ∧ ¬(T.Builds k ∧ T.Rebuilds k)) := by
  apply forall_congr'
  intro k
  rw [← Bool.not_eq_true,installRemove_initramfs T hT os k,← Bool.not_eq_true]
  constructor
  · intro h
    by_cases hrun : k = T.running ∧ T.Rebuilds k
    · exact Or.inl hrun
    · exact Or.inr (not_or.mp fun hc => h ⟨hrun,hc⟩)
  · rintro (hrun | hno) ⟨hne,hc⟩
    · exact hne hrun
    · exact not_or.mpr hno hc

lemma plainTools_succeed : plainTools.Succeed :=
  ⟨fun _ ha => absurd ha List.not_mem_nil,fun _ => rfl,rfl,fun _ => rfl,fun _ => rfl,fun _ => rfl,rfl⟩

theorem installRemove_plain : plainTools.Succeed ∧ CarriedByNone plainTools freshGuest := by
  refine ⟨plainTools_succeed,(installRemove_iff plainTools plainTools_succeed freshGuest).mpr ?_⟩
  intro k
  by_cases hk : k = plainTools.running
  · exact Or.inl ⟨hk,rfl,rfl,Or.inl rfl⟩
  · exact Or.inr ⟨rfl,fun h => hk (List.mem_singleton.mp h.1.1)⟩

/-- The same guest once it has pulled a second kernel, with headers and image. -/
def twoKernelTools : Tools := { plainTools with kernels := [['7','.','0'],['7','.','1']] }

/-- After the removal, the kernel that is not running still boots the package's module. -/
theorem installRemove_secondKernel : twoKernelTools.Succeed ∧
    (installRemove twoKernelTools freshGuest).initramfs ['7','.','1'] = true ∧
    ¬CarriedByNone twoKernelTools freshGuest := by
  have hT : twoKernelTools.Succeed :=
    ⟨fun _ ha => absurd ha List.not_mem_nil,fun _ => rfl,rfl,fun _ => rfl,fun _ => rfl,fun _ => rfl,rfl⟩
  have hcarried : (installRemove twoKernelTools freshGuest).initramfs ['7','.','1'] = true := by
    apply (installRemove_initramfs twoKernelTools hT freshGuest _).mpr
    refine ⟨fun h => ?_,Or.inr ⟨⟨List.mem_cons_of_mem _ (List.mem_singleton_self _),rfl,by decide⟩,
      rfl,rfl,Or.inl rfl⟩⟩
    exact absurd h.1 (by decide)
  refine ⟨hT,hcarried,fun h => ?_⟩
  rw [h] at hcarried
  cases hcarried

end GuestAdditions

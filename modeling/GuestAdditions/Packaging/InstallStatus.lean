import GuestAdditions.Packaging.StrayVersions

/-! The exit status of `ga_install` under `set -e`, as the package scripts call it. Everything but the
first step lets failures pass; there the loop over the accounts is the last command of a pipeline,
and what it leaves behind is the status of its last round. -/
namespace GuestAdditions
open Shell Words

/-- The status that the commands for one group leave. -/
def Account.groupStatus (T : Tools) (a : Account) (g : Str) : ℕ :=
  if T.groupExists g ∧ g ∉ a.groups then a.usermod g else 0

/-- The last account that the loop comes to cannot be added to `video`. -/
def LastRefused (T : Tools) : Prop :=
  T.hasUsermod ∧ ∃ a, (T.passwd.filter Account.human).getLast? = some a ∧
    T.groupExists VIDEO ∧ VIDEO ∉ a.groups ∧ a.usermod VIDEO ≠ 0

/-- The calls are only ever added to. -/
def Grows (os os' : GuestOs) : Prop := os.calls <+: os'.calls

instance : IsPreorder GuestOs Grows where
  refl os := List.prefix_refl os.calls
  trans _ _ _ h h' := List.IsPrefix.trans h h'

/-- `ga_install`, called as a command of its own by the shell that runs the package script, returns 0 and
has tried to add the package to dkms. -/
def InstallCompletes (T : Tools) (s : GuestOs × InstallVars) : Prop :=
  (call (gaInstall T) false s).1 = .status 0 ∧
    ∃ new, (call (gaInstall T) false s).2.1.calls = s.1.calls ++ new ∧ .dkmsAdd T.VER.text ∈ new

section groups
variable (T : Tools) (ignored : Bool)

/-- Both lists of the round let a failure pass, but the second is its last command. -/
theorem addToGroup_status (a : Account) (g : Str) (s : GuestOs × InstallVars) :
    (addToGroup T a g ignored s).1.goesOn = some (a.groupStatus T g) := by
  by_cases hg : T.groupExists g
  · have hfirst : orIf (test fun _ => T.groupExists g) nextRound ignored s = (.status 0,s) :=
      orIf_stop (test_true hg)
    rw [addToGroup,seq_run hfirst]
    by_cases hm : g ∈ a.groups
    · have hsecond : andIf (test fun _ => a.groups.contains g) nextRound ignored s = (.continued,s) :=
        andIf_run (test_true (by simpa using hm))
      rw [seq_stop hsecond (by simp),Account.groupStatus,if_neg (fun h => h.2 hm)]
      rfl
    · have hsecond : andIf (test fun _ => a.groups.contains g) nextRound ignored s = (.status 1,s) :=
        andIf_stop Nat.one_ne_zero (test_false (by simpa using hm))
      rw [seq_run hsecond,Account.groupStatus,if_pos ⟨hg,hm⟩]
      by_cases hu : a.usermod g = 0
      · rw [hu,andIf_run (tool_run _ 0 _ _)]
        rfl
      · rw [andIf_stop hu (tool_run _ _ _ _)]
        rfl
  · have hfirst : orIf (test fun _ => T.groupExists g) nextRound ignored s = (.continued,s) :=
      orIf_run Nat.one_ne_zero (test_false (by simpa using hg))
    rw [addToGroup,seq_stop hfirst (by simp),Account.groupStatus,if_neg (fun h => hg h.1)]
    rfl

/-- The round of an account ends as its last group does. -/
theorem addAccount_status (a : Account) (s : GuestOs × InstallVars) :
    (addAccount T a ignored s).1 = .status (a.groupStatus T VIDEO) :=
  each_status (fun g s' => addToGroup_status T ignored a g s') [RENDER,VIDEO] s

/-- The status of the loop over the accounts. -/
def Tools.accountsStatus : ℕ :=
  ((T.passwd.filter Account.human).getLast?.map fun a => a.groupStatus T VIDEO).getD 0

lemma accounts_status (s : GuestOs × InstallVars) :
    (each (addAccount T) (T.passwd.filter Account.human) ignored s).1 =
      .status T.accountsStatus := by
  apply each_status
  intro a s'
  rw [addAccount_status]
  rfl

lemma gaAddRenderGroups_without (h : T.hasUsermod = false) (s : GuestOs × InstallVars) :
    (gaAddRenderGroups T ignored s).1 = .returned 0 := by
  have hfirst : orIf (test fun _ => T.hasUsermod) (ret 0) ignored s = (.returned 0,s) :=
    orIf_run Nat.one_ne_zero (test_false h)
  rw [gaAddRenderGroups,seq_stop hfirst (by simp)]

/-- The pipeline is a command of its own, so that its status counts. -/
theorem gaAddRenderGroups_with (h : T.hasUsermod) (s : GuestOs × InstallVars) :
    (gaAddRenderGroups T false s).1 =
      if T.accountsStatus = 0 then .returned 0 else .exited T.accountsStatus := by
  have hfirst : orIf (test fun _ => T.hasUsermod) (ret 0) false s = (.status 0,s) :=
    orIf_stop (test_true h)
  have hpipe := pipeline_status (accounts_status T false s)
  rw [gaAddRenderGroups,seq_run hfirst]
  by_cases h0 : T.accountsStatus = 0
  · rw [h0,checked_zero] at hpipe
    rw [if_pos h0,seq_run (Prod.ext hpipe rfl)]
    rfl
  · rw [checked_failed h0] at hpipe
    rw [if_neg h0,seq_exits hpipe]

lemma lastRefused_iff : LastRefused T ↔ T.hasUsermod ∧ T.accountsStatus ≠ 0 := by
  rw [LastRefused,Tools.accountsStatus]
  apply and_congr_right
  intro _
  cases hl : (T.passwd.filter Account.human).getLast? with
  | none => simp
  | some a =>
    simp only [Option.some.injEq,exists_eq_left',Option.map_some,Option.getD_some,Account.groupStatus]
    by_cases hc : T.groupExists VIDEO ∧ VIDEO ∉ a.groups
    · rw [if_pos hc]
      exact ⟨fun h => h.2.2,fun h => ⟨hc.1,hc.2,h⟩⟩
    · rw [if_neg hc]
      exact ⟨fun h => absurd ⟨h.1,h.2.1⟩ hc,fun h => absurd rfl h⟩

lemma gaAddRenderGroups_returns (h : ¬LastRefused T) :
    (gaAddRenderGroups T).Ends false (· = .returned 0) := by
  intro s
  cases hu : T.hasUsermod with
  | false => exact gaAddRenderGroups_without T false hu s
  | true =>
    have h0 : T.accountsStatus = 0 := by
      by_contra hne
      exact h ((lastRefused_iff T).mpr ⟨hu,hne⟩)
    rw [gaAddRenderGroups_with T hu,if_pos h0]

lemma gaAddRenderGroups_exits (h : LastRefused T) (s : GuestOs × InstallVars) :
    (gaAddRenderGroups T false s).1 = .exited T.accountsStatus := by
  obtain ⟨hu,hne⟩ := (lastRefused_iff T).mp h
  rw [gaAddRenderGroups_with T hu,if_neg hne]

end groups

section endings
variable (T : Tools) {ignored : Bool} {E : Ending → Prop}

lemma gaRemakeInitrd_fine (k : Str) : (gaRemakeInitrd T k).Ends ignored Ending.Fine := by
  apply seq_ends
  · apply ifElse_ends
    · exact orIf_ends (test_ends _) (passing_status 0) (test_ends _)
    · exact seq_ends (effect_passing _) ret_fine.passing
    · exact effect_passing _
  refine ifElse_ends (test_ends _) ?_ ?_
  · refine seq_ends (effect_passing _) ?_
    exact reported_fine _ _
  refine ifElse_ends (test_ends _) ?_ ?_
  · refine seq_ends (effect_passing _) ?_
    exact reported_fine _ _
  · exact effect_fine _

lemma gaCheckBlacklist_fine : (gaCheckBlacklist T).Ends ignored Ending.Fine := by
  refine ifElse_ends (test_ends _) ?_ ?_
  · refine seq_ends (effect_passing _) ?_
    exact reported_fine _ _
  · exact effect_fine _

/-- A round of the builds goes on to the next kernel, whatever dkms and the initramfs tools say. -/
theorem buildFor_ends (k : Str) :
    (buildFor T k).Ends ignored (Passing fun e => e = .continued ∨ E e) := by
  apply seq_ends
  · exact orIf_ends (test_ends _) (passing_status 0) nextRound_ends.passing
  apply seq_ends
  · exact ifElse_ends (test_ends _) (effect_passing _) nextRound_ends.passing
  refine ifElse_ends (simple_ends _) ?_ ?_
  · refine seq_ends (effect_passing _) ?_
    apply seq_ends
    · exact andIf_ends (test_ends _) (effect_passing _)
    · exact call_passing (gaRemakeInitrd_fine T k)
  · exact effect_passing _

lemma installTail_fine : (installTail T).Ends ignored Ending.Fine := by
  apply seq_ends
  · refine ifElse_ends (test_ends _) ?_ ?_
    · apply seq_ends
      · exact ifElse_ends (test_ends _) (effect_passing _) (effect_passing _)
      · exact ret_fine.passing
    · exact effect_passing _
  apply seq_ends
  · exact call_passing (gaCheckBlacklist_fine T)
  apply seq_ends
  · refine ifElse_ends (test_ends _) ?_ ?_
    · apply seq_ends
      · refine ifElse_ends (test_ends _) ?_ ?_
        · exact seq_ends (effect_passing _) (seq_ends (effect_passing _) (effect_passing _))
        · exact effect_passing _
      · exact ret_fine.passing
    · exact effect_passing _
  apply seq_ends
  · apply seq_ends
    · exact reported_passing _ _
    · exact ifElse_ends (test_ends _) (effect_passing _) (effect_passing _)
  · exact effect_fine _

lemma installModules_fine : (installModules T).Ends ignored Ending.Fine := by
  refine seq_ends (effect_passing _) ?_
  apply seq_ends
  · exact each_ends (buildFor_ends T) T.kernels
  · exact installTail_fine T

/-- The step about the groups, as `ga_install` calls it. -/
theorem groups_end (h : ¬LastRefused T) :
    (call (gaAddRenderGroups T)).Ends false (Passing E) := by
  apply call_passing
  exact (gaAddRenderGroups_returns T h).mono fun _ he => Or.inr he

lemma dropOwn_ends : (dropOwn T).Ends ignored (Passing E) := by
  refine ifElse_ends (test_ends _) ?_ (effect_passing _)
  exact reported_passing _ _

/-- Before `dkms add`, only the step about the groups could end the shell. -/
theorem installPrologue_ends (E : Ending → Prop) (h : ¬LastRefused T) :
    (installPrologue T).Ends false (Passing E) := by
  refine seq_ends (groups_end T h) (seq_ends (dropOwn_ends T) ?_)
  intro s
  obtain ⟨n,hn⟩ := dropStrays_run T false s
  rw [hn]
  exact passing_status n

lemma gaInstall_fine (h : ¬LastRefused T) : (gaInstall T).Ends false Ending.Fine := by
  refine seq_ends (installPrologue_ends T _ h) ?_
  apply seq_ends
  · refine orIf_ends (simple_ends _) (passing_status 0) ?_
    exact seq_ends (effect_passing _) ret_fine.passing
  · exact installModules_fine T

end endings

section calls
variable (T : Tools)

lemma after_calls {f : GuestOs → GuestOs} (hf : ∀ os, (f os).calls = os.calls) (os : GuestOs)
    (c : Call) (n : ℕ) : (os.after c n f).calls = os.calls ++ [c] := by
  rw [GuestOs.after]
  by_cases hn : n = 0
  · rw [if_pos hn,hf]
  · rw [if_neg hn]

lemma after_grows {f : GuestOs → GuestOs} (hf : ∀ os, (f os).calls = os.calls) (os : GuestOs)
    (c : Call) (n : ℕ) : Grows os (os.after c n f) := by
  rw [Grows,after_calls hf]
  exact List.prefix_append _ _

lemma tool_grows {f : GuestOs → GuestOs} (hf : ∀ os, (f os).calls = os.calls) (c : Call) (n : ℕ) :
    (tool c n f).Keeps Grows := simple_keeps fun s => after_grows hf s.1 c n

lemma grows_lets_drop : LetsDrop Grows where
  output os _ := List.prefix_refl os.calls
  call os c n := after_grows (fun _ => rfl) os c n
  dropVersion os c n v := after_grows (fun os' => dropVersion_calls os' v) os c n
  removeTree os c n t := after_grows (fun os' => removeTree_calls os' t) os c n

lemma gaRemakeInitrd_grows (k : Str) : (gaRemakeInitrd T k).Keeps Grows := by
  have hmsg : ∀ text, (gaMsg text).Keeps Grows := gaMsg_keeps grows_lets_drop.toLetsLog
  have hwarn : ∀ text, (gaWarn text).Keeps Grows := gaWarn_keeps grows_lets_drop.toLetsLog
  have htool : ∀ c n j, (tool c n (.rebuild j)).Keeps Grows :=
    fun c n j => tool_grows (fun os => rebuild_calls os j) c n
  apply seq_keeps
  · refine ifElse_keeps (orIf_keeps (test_keeps _) (test_keeps _)) ?_ skip_keeps
    exact seq_keeps (hmsg _) (ret_keeps 0)
  refine ifElse_keeps (test_keeps _) ?_ ?_
  · exact seq_keeps (hmsg _) (orIf_keeps (htool _ _ _) (hwarn _))
  refine ifElse_keeps (test_keeps _) ?_ ?_
  · exact seq_keeps (hmsg _) (orIf_keeps (htool _ _ _) (hwarn _))
  · exact hwarn _

lemma buildFor_grows (k : Str) : (buildFor T k).Keeps Grows := by
  apply seq_keeps
  · exact orIf_keeps (test_keeps _) nextRound_keeps
  apply seq_keeps
  · exact ifElse_keeps (test_keeps _) skip_keeps nextRound_keeps
  refine ifElse_keeps (tool_grows (fun os => installVersion_calls os _ _) _ _) ?_ skip_keeps
  apply seq_keeps
  · exact effect_keeps fun s => refl_of Grows s.1
  apply seq_keeps
  · exact andIf_keeps (test_keeps _) (effect_keeps fun s => refl_of Grows s.1)
  · exact call_keeps (gaRemakeInitrd_grows T k)

lemma installModules_grows : (installModules T).Keeps Grows := by
  apply seq_keeps
  · exact effect_keeps fun s => refl_of Grows s.1
  apply seq_keeps
  · exact each_keeps (buildFor_grows T) T.kernels
  · exact installTail_keeps grows_lets_drop.toLetsLog T

lemma dkmsAdd_run (s : GuestOs × InstallVars) : dkmsAdd T true s =
    (.status T.dkmsAdd,(s.1.after (.dkmsAdd T.VER.text) T.dkmsAdd (.addVersion T.VER),s.2)) :=
  tool_run _ _ _ _

lemma installVer_added (h : T.dkmsAdd = 0) (ignored : Bool) (s : GuestOs × InstallVars) :
    installVer T ignored s = installModules T ignored
      (s.1.after (.dkmsAdd T.VER.text) 0 (.addVersion T.VER),s.2) := by
  have hadd := dkmsAdd_run T s
  rw [h] at hadd
  rw [installVer,seq_run (orIf_stop hadd)]

/-- A failing `dkms add` ends the install, with success. -/
theorem installVer_refused (h : T.dkmsAdd ≠ 0) (ignored : Bool) (s : GuestOs × InstallVars) :
    ∃ os', installVer T ignored s = (.returned 0,(os',s.2)) ∧
      os'.calls = (s.1.after (.dkmsAdd T.VER.text) T.dkmsAdd (.addVersion T.VER)).calls := by
  have hwarn : ∀ s', ∃ os', seq (gaWarn "dkms add failed; the modules are NOT installed".toList)
      (ret 0) ignored s' = (.returned 0,(os',s'.2)) ∧ os'.calls = s'.1.calls :=
    fun s' => ⟨_,rfl,rfl⟩
  obtain ⟨os',hstop,hcalls⟩ := hwarn
    (s.1.after (.dkmsAdd T.VER.text) T.dkmsAdd (.addVersion T.VER),s.2)
  refine ⟨os',?_,hcalls⟩
  rw [installVer,seq_stop ((orIf_run h (dkmsAdd_run T s)).trans hstop) (by simp)]

/-- `dkms add` is called once control comes to it, and what follows only adds calls. -/
theorem installVer_adds (ignored : Bool) (s : GuestOs × InstallVars) :
    ∃ after, (installVer T ignored s).2.1.calls =
      s.1.calls ++ [.dkmsAdd T.VER.text] ++ after := by
  have hcalls := after_calls (addVersion_calls · T.VER) s.1 (.dkmsAdd T.VER.text) T.dkmsAdd
  by_cases hadd : T.dkmsAdd = 0
  · rw [hadd] at hcalls
    obtain ⟨after,hafter⟩ := installModules_grows T ignored
      (s.1.after (.dkmsAdd T.VER.text) 0 (.addVersion T.VER),s.2)
    rw [installVer_added T hadd,← hafter,hcalls]
    exact ⟨after,rfl⟩
  · obtain ⟨os',hrun,hos'⟩ := installVer_refused T hadd ignored s
    rw [hrun,hos',hcalls]
    exact ⟨[],by simp⟩

lemma gaInstall_adds (h : ¬LastRefused T) (s : GuestOs × InstallVars) :
    ∃ new, (gaInstall T false s).2.1.calls = s.1.calls ++ new ∧ .dkmsAdd T.VER.text ∈ new := by
  obtain ⟨n,hn⟩ | hnever := installPrologue_ends T (fun _ => False) h s
  · obtain ⟨before,hbefore⟩ := installPrologue_keeps grows_lets_drop T false s
    obtain ⟨after,hafter⟩ := installVer_adds T false (installPrologue T false s).2
    refine ⟨before ++ [.dkmsAdd T.VER.text] ++ after,?_,by simp⟩
    rw [gaInstall,seq_run (Prod.ext hn rfl),hafter,← hbefore]
    simp
  · exact hnever.elim

/-- The refused account ends the shell in the first step of the install. -/
theorem gaInstall_exits (h : LastRefused T) (s : GuestOs × InstallVars) :
    (call (gaInstall T) false s).1 = .exited T.accountsStatus := by
  apply call_exits
  apply seq_exits
  apply seq_exits
  apply call_exits
  exact gaAddRenderGroups_exits T h s

end calls

/-- `ga_install` completes for exactly the guests on which `usermod` does not fail for the group `video`
of the last account it is run for, whatever the other tools do. -/
theorem gaInstall_completes_iff (T : Tools) (s : GuestOs × InstallVars) :
    InstallCompletes T s ↔ ¬LastRefused T := by
  constructor
  · rintro ⟨hstatus,-⟩ h
    rw [gaInstall_exits T h s] at hstatus
    cases hstatus
  · intro h
    refine ⟨call_ends (gaInstall_fine T h) s,?_⟩
    rw [call_world]
    exact gaInstall_adds T h s

/-- A guest with one kernel on which every tool succeeds. -/
def plainTools : Tools where
  VER := ⟨['1','.','0'],by simp,by simp [isBlank,isGlob,isSep]⟩
  hasUsermod := true
  passwd := []
  groupExists _ := true
  format := .three
  collate _ _ := true
  pathnames w := [w]
  dkmsRemove _ := 0
  dkmsAdd := 0
  dkmsInstall _ := 0
  kernels := [['7','.','0']]
  running := ['7','.','0']
  build _ := true
  modulesDep _ := true
  vmlinuz _ := true
  hasUpdateInitramfs := true
  updateInitramfs _ := 0
  hasDracut := false
  dracut _ := 0
  blacklists := []
  modinfo := (0,"/lib/modules/7.0/updates/dkms/virtio-gpu.ko".toList)

/-- A guest that has never seen the package. -/
def freshGuest : GuestOs := ⟨[],[],fun _ => false,[],[]⟩

/-- An account of a directory service: `getent` lists it, `usermod` has no entry to change. -/
def directoryUser : Account := ⟨"guest".toList,10000,[],fun _ => 6⟩

/-- One such account at the end of the list, and the install ends before dkms is called. -/
theorem gaInstall_directoryUser :
    (call (gaInstall { plainTools with passwd := [directoryUser] }) false
      (freshGuest,⟨false,false⟩)).1 = .exited 6 ∧
    ¬InstallCompletes { plainTools with passwd := [directoryUser] } (freshGuest,⟨false,false⟩) := by
  have hrefused : LastRefused { plainTools with passwd := [directoryUser] } :=
    ⟨rfl,directoryUser,rfl,rfl,List.not_mem_nil,by decide⟩
  have hexit := gaInstall_exits _ hrefused (freshGuest,⟨false,false⟩)
  refine ⟨hexit,fun h => ?_⟩
  have hstatus := h.1
  rw [hexit] at hstatus
  cases hstatus

end GuestAdditions

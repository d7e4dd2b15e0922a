import GuestAdditions.Packaging.Hooks

/-! The loop of `ga_install` that clears away what an earlier installer registered: it asks dkms to
remove each registered version but its own, once, and removes that version's sources. -/
namespace GuestAdditions
open Shell Words

/-- The calls of a round. -/
def strayCalls (other : Str) : List Call := [.dkmsRemove other,.rm (srcTree other)]

section round
variable (T : Tools)

/-- What a round of the loop does to the guest. -/
def strayStep (s : GuestOs × InstallVars) (other : Str) : GuestOs × InstallVars :=
  if other = T.VER.text then s else
    ({ dkms := s.1.dkms.filter fun l => T.dkmsRemove other ≠ 0 ∨ l.version.text ≠ other
       usrSrc := s.1.usrSrc.filter fun d => d ≠ srcTree other
       initramfs := s.1.initramfs
       calls := s.1.calls ++ strayCalls other
       output := s.1.output ++ [PKG ++ ": ".toList ++
        ("removing unowned dkms registration ".toList ++ PKG ++ "/".toList ++ other)] },s.2)

/-- A failing `dkms remove` is let pass, so that the sources go in any case. -/
theorem dropStray_runs {other : Str} (hne : other ≠ []) (ignored : Bool)
    (s : GuestOs × InstallVars) :
    (dropStray T other).Runs ignored s (strayStep T s other) := by
  have hfull : ∀ r : GuestOs × InstallVars, (fun _ => decide (other ≠ [])) r = true := by
    simp [hne]
  by_cases hown : other = T.VER.text
  · have hguard : orIf (andIf (test fun _ => other ≠ []) (test fun _ => other ≠ T.VER.text))
        nextRound ignored s = (.continued,s) := by
      refine orIf_run Nat.one_ne_zero ?_
      rw [andIf_run (test_true (hfull s))]
      exact test_false (by simp [hown])
    rw [Cmd.Runs,dropStray,seq_stop hguard (by simp),strayStep,if_pos hown]
    exact ⟨rfl,rfl⟩
  · have hguard : orIf (andIf (test fun _ => other ≠ []) (test fun _ => other ≠ T.VER.text))
        nextRound ignored s = (.status 0,s) := by
      apply orIf_stop
      rw [andIf_run (test_true (hfull s))]
      exact test_true (by simp [hown])
    rw [Cmd.Runs,dropStray,seq_run hguard,strayStep,if_neg hown]
    by_cases hrm : T.dkmsRemove other = 0
    · simp [seq,orIf,simple,gaMsg,echo,effect,dkmsRemove,tool,Ending.goesOn,hrm,GuestOs.after,
        GuestOs.dropVersion,GuestOs.removeTree,strayCalls]
    · obtain ⟨n,hn⟩ := Nat.exists_eq_succ_of_ne_zero hrm
      simp [seq,orIf,simple,gaMsg,echo,effect,dkmsRemove,tool,skip,Ending.goesOn,hn,GuestOs.after,
        GuestOs.removeTree,strayCalls]

end round

section rounds
variable (T : Tools) (others : List Str)

lemma strays_calls : ∀ s : GuestOs × InstallVars, (others.foldl (strayStep T) s).1.calls =
    s.1.calls ++ (others.filter fun o => o ≠ T.VER.text).flatMap strayCalls := by
  induction others with
  | nil => simp
  | cons o os ih =>
    intro s
    rw [List.foldl_cons,ih,strayStep]
    by_cases ho : o = T.VER.text <;> simp [ho]

lemma strays_dkms : ∀ s : GuestOs × InstallVars, (others.foldl (strayStep T) s).1.dkms =
    s.1.dkms.filter fun l =>
      l.version = T.VER ∨ T.dkmsRemove l.version.text ≠ 0 ∨ l.version.text ∉ others := by
  induction others with
  | nil => simp
  | cons o os ih =>
    intro s
    rw [List.foldl_cons,ih,strayStep]
    by_cases ho : o = T.VER.text
    · rw [if_pos ho]
      apply List.filter_congr
      intro l _
      have hown : l.version.text = o → l.version = T.VER := fun h => Version.ext (h.trans ho)
      grind
    · rw [if_neg ho,List.filter_filter]
      apply List.filter_congr
      intro l _
      have hown : l.version = T.VER → l.version.text ≠ o := fun h ho' => ho (by rw [← ho',h])
      grind

lemma strays_usrSrc : ∀ s : GuestOs × InstallVars, (others.foldl (strayStep T) s).1.usrSrc =
    s.1.usrSrc.filter fun d => ∀ o ∈ others, o ≠ T.VER.text → d ≠ srcTree o := by
  induction others with
  | nil => simp
  | cons o os ih =>
    intro s
    rw [List.foldl_cons,ih,strayStep]
    by_cases ho : o = T.VER.text
    · rw [if_pos ho]
      apply List.filter_congr
      intro d _
      simp [ho]
    · rw [if_neg ho,List.filter_filter]
      apply List.filter_congr
      intro d _
      simp [ho,Bool.and_comm]

end rounds

/-- The guest `os'` is `os` without the versions of the package that are not its own: the calls are the
removal of each of them, once, and of its sources. -/
structure StraysRemoved (T : Tools) (os os' : GuestOs) : Prop where
  calls : ∃ strays : List Str, strays.Nodup ∧
    (∀ v, v ∈ strays ↔ v ≠ T.VER.text ∧ ∃ l ∈ os.dkms, l.version.text = v) ∧
    os'.calls = os.calls ++ strays.flatMap fun v => [.dkmsRemove v,.rm (srcTree v)]
  dkms : os'.dkms = os.dkms.filter fun l =>
    l.version = T.VER ∨ T.dkmsRemove l.version.text ≠ 0
  usrSrc : os'.usrSrc = os.usrSrc.filter fun d =>
    ∀ l ∈ os.dkms, l.version ≠ T.VER → d ≠ srcTree l.version.text
  ownDkms : (os'.dkms.filter fun l => l.version = T.VER) = os.dkms.filter fun l => l.version = T.VER
  ownTree : srcTree T.VER.text ∈ os'.usrSrc ↔ srcTree T.VER.text ∈ os.usrSrc

section loop
variable (T : Tools) (os : GuestOs)

lemma others_eq : T.others os =
    sortUnique (fun a b => T.collate a b) (os.dkms.map (·.version.text)) := by
  rw [Tools.others,strayWords_print]

lemma mem_others {v : Str} : v ∈ T.others os ↔ ∃ l ∈ os.dkms, l.version.text = v := by
  rw [others_eq,mem_sortUnique,List.mem_map]

lemma others_nodup : (T.others os).Nodup := by
  rw [others_eq]
  exact nodup_sortUnique

lemma dropStrays_run (ignored : Bool) (s : GuestOs × InstallVars) : ∃ n,
    dropStrays T ignored s = (.status n,(T.others s.1).foldl (strayStep T) s) := by
  apply each_runs
  intro other ho s'
  obtain ⟨l,-,rfl⟩ := (mem_others T s.1).mp ho
  exact dropStray_runs T l.version.nonempty ignored s'

lemma srcTree_inj {v w : Str} (h : srcTree v = srcTree w) : v = w := by
  unfold srcTree at h
  exact List.append_cancel_left h

lemma strays_removed (s : GuestOs × InstallVars) :
    StraysRemoved T s.1 ((T.others s.1).foldl (strayStep T) s).1 := by
  have hdkms : ((T.others s.1).foldl (strayStep T) s).1.dkms = s.1.dkms.filter fun l =>
      l.version = T.VER ∨ T.dkmsRemove l.version.text ≠ 0 := by
    rw [strays_dkms]
    apply List.filter_congr
    intro l hl
    have hmem : l.version.text ∈ T.others s.1 := (mem_others T s.1).mpr ⟨l,hl,rfl⟩
    simp [hmem]
  have hsrc : ((T.others s.1).foldl (strayStep T) s).1.usrSrc = s.1.usrSrc.filter fun d =>
      ∀ l ∈ s.1.dkms, l.version ≠ T.VER → d ≠ srcTree l.version.text := by
    rw [strays_usrSrc]
    apply List.filter_congr
    intro d _
    apply decide_eq_decide.mpr
    constructor
    · intro h l hl hv
      exact h _ ((mem_others T s.1).mpr ⟨l,hl,rfl⟩) fun ht => hv (Version.ext ht)
    · intro h o ho hv
      obtain ⟨l,hl,rfl⟩ := (mem_others T s.1).mp ho
      exact h l hl fun he => hv (by rw [he])
  refine ⟨⟨(T.others s.1).filter fun o => o ≠ T.VER.text,?_,?_,?_⟩,hdkms,hsrc,?_,?_⟩
  · exact (others_nodup T s.1).filter _
  · intro v
    rw [List.mem_filter,mem_others,and_comm,decide_eq_true_iff]
  · exact strays_calls T _ s
  · rw [hdkms,List.filter_filter]
    apply List.filter_congr
    intro l _
    by_cases hv : l.version = T.VER <;> simp [hv]
  · rw [hsrc,List.mem_filter,decide_eq_true_iff]
    refine ⟨fun h => h.1,fun h => ⟨h,fun l _ hv he => hv ?_⟩⟩
    exact Version.ext (srcTree_inj he).symm

end loop

/-- For every list of registrations, in either format, the loop runs to its end and removes exactly the
versions that are not the package's own, each once and with its own sources. -/
theorem dropStrays_exact (T : Tools) (ignored : Bool) (s : GuestOs × InstallVars) :
    (∃ n, (dropStrays T ignored s).1 = .status n) ∧
      StraysRemoved T s.1 (dropStrays T ignored s).2.1 := by
  obtain ⟨n,hn⟩ := dropStrays_run T ignored s
  rw [hn]
  exact ⟨⟨n,rfl⟩,strays_removed T s⟩

end GuestAdditions

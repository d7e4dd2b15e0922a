import GuestAdditions.Library.Shell
import GuestAdditions.Packaging.DkmsStatus

/-! `packaging/hooks.sh`, statement by statement. `Tools` is what the programs that the script
calls find and answer, `GuestOs` is what they change. -/
namespace GuestAdditions
open Shell

/-- A line of `getent passwd`: what `id -nG` prints for the account when the loop comes to it, and the
status of `usermod -aG` for each group. -/
structure Account where
  name : Str
  uid : ℕ
  groups : List Str
  usermod : Str → ℕ

/-- The guest that the hooks run on, and the exit statuses of the tools. `dkms status` stands first
in a pipeline and has none that counts; `rm`, `ls`, `uname`, `echo` do what they are for. -/
structure Tools where
  VER : Version
  hasUsermod : Bool
  passwd : List Account
  groupExists : Str → Bool
  format : DkmsFormat
  collate : Str → Str → Bool
  pathnames : Str → List Str
  dkmsRemove : Str → ℕ
  dkmsAdd : ℕ
  dkmsInstall : Str → ℕ
  kernels : List Str
  running : Str
  build : Str → Bool
  modulesDep : Str → Bool
  vmlinuz : Str → Bool
  hasUpdateInitramfs : Bool
  updateInitramfs : Str → ℕ
  hasDracut : Bool
  dracut : Str → ℕ
  blacklists : List Str
  modinfo : ℕ × Str

/-- A call that changes the guest or could. -/
inductive Call
  | usermod (group user : Str)
  | dkmsRemove (version : Str)
  | rm (path : Str)
  | dkmsAdd (version : Str)
  | dkmsInstall (version kernel : Str)
  | updateInitramfs (kernel : Str)
  | dracut (kernel : Str)
  | modinfo
deriving DecidableEq, Repr

/-- The registrations of the package with dkms, the directories under `/usr/src`, the kernels whose
initramfs carries the package's `virtio-gpu`, the calls made and the lines printed. -/
structure GuestOs where
  dkms : List DkmsLine
  usrSrc : List Str
  initramfs : Str → Bool
  calls : List Call
  output : List Str

/-- `built_any` and `built_running`. -/
structure InstallVars where
  builtAny : Bool
  builtRunning : Bool

abbrev Hook := Cmd GuestOs InstallVars

/-- The guest after a call with the status `n`: what it is for has happened where it succeeded. -/
def GuestOs.after (os : GuestOs) (call : Call) (n : ℕ) (f : GuestOs → GuestOs) : GuestOs :=
  let os' := { os with calls := os.calls ++ [call] }
  if n = 0 then f os' else os'

/-- A tool with its exit status. -/
def tool (call : Call) (n : ℕ) (f : GuestOs → GuestOs) : Hook :=
  simple fun s => (n,(s.1.after call n f,s.2))

/-- `echo`. -/
def echo (text : Str) : Hook := effect fun s => ({ s.1 with output := s.1.output ++ [text] },s.2)

def gaMsg (text : Str) : Hook := echo (PKG ++ ": ".toList ++ text)
def gaWarn (text : Str) : Hook := echo (PKG ++ ": warning: ".toList ++ text)

/-- dkms has the package's module installed for the kernel. -/
def GuestOs.installedFor (os : GuestOs) (k : Str) : Bool :=
  os.dkms.any fun l => l.installed && l.kernel = some k

/-- A new initramfs for `k` carries the module that is installed for it now. -/
def GuestOs.rebuild (k : Str) (os : GuestOs) : GuestOs :=
  { os with initramfs := fun j => if j = k then os.installedFor k else os.initramfs j }

/-- `dkms remove -m "$PKG" -v "$v" --all`. -/
def GuestOs.dropVersion (v : Str) (os : GuestOs) : GuestOs :=
  { os with dkms := os.dkms.filter fun l => l.version.text ≠ v }

/-- `dkms add -m "$PKG" -v "$VER"`. -/
def GuestOs.addVersion (v : Version) (os : GuestOs) : GuestOs :=
  { os with dkms := os.dkms ++ [⟨v,none,none,"added".toList,[]⟩] }

/-- `dkms install -m "$PKG" -v "$VER" -k "$k" --force`: the new line takes the place of the one without
a kernel and of one for the same kernel. -/
def GuestOs.installVersion (v : Version) (k : Str) (os : GuestOs) : GuestOs :=
  { os with
    dkms := (os.dkms.filter fun l => !(l.version = v && (l.kernel = none || l.kernel = some k))) ++
      [⟨v,some k,some "aarch64".toList,"installed".toList,[]⟩] }

/-- `rm -rf path`. -/
def GuestOs.removeTree (path : Str) (os : GuestOs) : GuestOs :=
  { os with usrSrc := os.usrSrc.filter fun d => d ≠ path }

section fields
variable (os : GuestOs) (v : Version) (k t : Str)

@[simp] lemma rebuild_calls : (os.rebuild k).calls = os.calls := rfl
@[simp] lemma dropVersion_initramfs : (os.dropVersion t).initramfs = os.initramfs := rfl
@[simp] lemma dropVersion_calls : (os.dropVersion t).calls = os.calls := rfl
@[simp] lemma addVersion_calls : (os.addVersion v).calls = os.calls := rfl
@[simp] lemma installVersion_initramfs : (os.installVersion v k).initramfs = os.initramfs := rfl
@[simp] lemma installVersion_calls : (os.installVersion v k).calls = os.calls := rfl
@[simp] lemma removeTree_initramfs : (os.removeTree t).initramfs = os.initramfs := rfl
@[simp] lemma removeTree_calls : (os.removeTree t).calls = os.calls := rfl

end fields

/-- `/usr/src/$PKG-$v`. -/
def srcTree (v : Str) : Str := "/usr/src/".toList ++ PKG ++ "-".toList ++ v

/-- `7.*`. -/
def is7 (k : Str) : Bool := "7.".toList.isPrefixOf k

/-- `*/updates/dkms/*`. -/
def isDkmsCopy (path : Str) : Bool := path.tails.any fun t => "/updates/dkms/".toList.isPrefixOf t

lemma tool_run (call : Call) (n : ℕ) (f : GuestOs → GuestOs) (s : GuestOs × InstallVars) :
    tool call n f true s = (.status n,(s.1.after call n f,s.2)) := by
  rw [tool,simple,checked_ignored]

section hooks
variable (T : Tools)

def dkmsRemove (v : Str) : Hook := tool (.dkmsRemove v) (T.dkmsRemove v) (.dropVersion v)

/-- `dkms status -m "$PKG" -v "$VER" | grep -q .`. -/
def registered : Hook := test fun s => s.1.dkms.any fun l => l.version = T.VER

def gaRemakeInitrd (arg : Str) : Hook :=
  let kver := if arg = [] then T.running else arg
  seq (ifElse (orIf (test fun _ => !T.modulesDep kver) (test fun _ => !T.vmlinuz kver))
    (seq (gaMsg ("kernel ".toList ++ kver ++
      " is still being installed; its own postinst will build the initramfs".toList)) (ret 0))
    skip)
  (ifElse (test fun _ => T.hasUpdateInitramfs)
    (seq (gaMsg ("updating initramfs for ".toList ++ kver))
      (orIf (tool (.updateInitramfs kver) (T.updateInitramfs kver) (.rebuild kver))
        (gaWarn "update-initramfs failed".toList)))
  (ifElse (test fun _ => T.hasDracut)
    (seq (gaMsg ("regenerating initramfs for ".toList ++ kver))
      (orIf (tool (.dracut kver) (T.dracut kver) (.rebuild kver)) (gaWarn "dracut failed".toList)))
    (gaWarn ("no update-initramfs and no dracut: rebuild the initramfs yourself, ".toList ++
      "or early KMS will keep loading the previous virtio-gpu".toList))))

def gaCheckBlacklist : Hook :=
  ifElse (test fun _ => !T.blacklists.isEmpty)
    (seq (gaWarn ("virtio-gpu is blacklisted in /etc/modprobe.d/; this package needs no blacklist ".toList ++
      "and will not autoload while one is present:".toList))
    (orIf (simple fun s => (if T.blacklists.isEmpty then 1 else 0,
      ({ s.1 with output := s.1.output ++ T.blacklists },s.2))) skip))
    skip

/-- `$3 >= 1000 && $3 < 65534`. -/
def Account.human (a : Account) : Bool := 1000 ≤ a.uid && a.uid < 65534

def RENDER : Str := "render".toList
def VIDEO : Str := "video".toList

/-- The body of `for g in render video`. -/
def addToGroup (a : Account) (g : Str) : Hook :=
  seq (orIf (test fun _ => T.groupExists g) nextRound)
  (seq (andIf (test fun _ => a.groups.contains g) nextRound)
  (andIf (tool (.usermod g a.name) (a.usermod g) id)
    (gaMsg ("added ".toList ++ a.name ++ " to the ".toList ++ g ++
      " group (takes effect at next login)".toList))))

/-- The body of `while read -r u`. -/
def addAccount (a : Account) : Hook := each (addToGroup T a) [RENDER,VIDEO]

def gaAddRenderGroups : Hook :=
  seq (orIf (test fun _ => T.hasUsermod) (ret 0))
  (seq (pipeline (each (addAccount T) (T.passwd.filter Account.human)))
  (ret 0))

/-- The body of `for other in …`. -/
def dropStray (other : Str) : Hook :=
  seq (orIf (andIf (test fun _ => other ≠ []) (test fun _ => other ≠ T.VER.text)) nextRound)
  (seq (gaMsg ("removing unowned dkms registration ".toList ++ PKG ++ "/".toList ++ other))
  (seq (orIf (dkmsRemove T other) skip)
  (tool (.rm (srcTree other)) 0 (.removeTree (srcTree other)))))

/-- What `for other in …` runs over. -/
def Tools.others (os : GuestOs) : List Str :=
  strayWords T.collate T.pathnames (os.dkms.map (·.print T.format))

def dropStrays : Hook := fun ignored s => each (dropStray T) (T.others s.1) ignored s

/-- `built_any=1`. -/
def setBuiltAny : Hook := effect fun s => (s.1,{ s.2 with builtAny := true })

/-- `built_running=1`. -/
def setBuiltRunning : Hook := effect fun s => (s.1,{ s.2 with builtRunning := true })

/-- The body of `for k in …`. -/
def buildFor (k : Str) : Hook :=
  seq (orIf (test fun _ => T.build k) nextRound)
  (seq (ifElse (test fun _ => is7 k) skip nextRound)
  (ifElse (tool (.dkmsInstall T.VER.text k) (T.dkmsInstall k) (.installVersion T.VER k))
    (seq setBuiltAny
    (seq (andIf (test fun _ => k = T.running) setBuiltRunning)
    (call (gaRemakeInitrd T k))))
    skip))

/-- Nothing was built. -/
def warnNothingBuilt : Hook :=
  ifElse (test fun _ => is7 T.running)
    (gaWarn ("dkms build/install failed on kernel ".toList ++ T.running ++ " -- see /var/lib/dkms/".toList ++
      PKG ++ "/".toList ++ T.VER.text ++ "/build/make.log".toList))
    (gaWarn ("kernel ".toList ++ T.running ++ " is outside the range dkms.conf supports ".toList ++
      "(BUILD_EXCLUSIVE_KERNEL=^7\\.), so nothing was built. The package is ".toList ++
      "installed and will build automatically once a 7.x kernel is present.".toList))

/-- Nothing was built for the running kernel. -/
def warnNotRunning : Hook :=
  ifElse (test fun _ => is7 T.running)
    (seq (gaWarn ("kernel headers for the running kernel (".toList ++ T.running ++
      ") are not installed, so its ".toList ++
      "module was not built and the stock virtio-gpu is in use. Install them and rebuild:".toList))
    (seq (gaWarn ("    sudo apt-get install linux-headers-".toList ++ T.running))
    (gaWarn ("    sudo dkms autoinstall && sudo update-initramfs -u -k ".toList ++ T.running ++
      " && sudo reboot".toList))))
    skip

/-- Where `modinfo` finds the module. -/
def reportModule : Hook :=
  let inst := T.modinfo.2
  seq (orIf (tool .modinfo T.modinfo.1 id) skip)
  (ifElse (test fun _ => isDkmsCopy inst)
    (gaMsg ("virtio_gpu resolves to ".toList ++ inst))
    (gaWarn ("virtio_gpu resolves to '".toList ++ (if inst = [] then "not found".toList else inst) ++
      "', expected .../updates/dkms/".toList)))

/-- A registration of this version that is there already. -/
def dropOwn : Hook := ifElse (registered T) (orIf (dkmsRemove T T.VER.text) skip) skip

/-- What `ga_install` does before `dkms add`. -/
def installPrologue : Hook := seq (call (gaAddRenderGroups T)) (seq (dropOwn T) (dropStrays T))

def dkmsAdd : Hook := tool (.dkmsAdd T.VER.text) T.dkmsAdd (.addVersion T.VER)

/-- What `ga_install` does after the builds. -/
def installTail : Hook :=
  seq (ifElse (test fun s => !s.2.builtAny) (seq (warnNothingBuilt T) (ret 0)) skip)
  (seq (call (gaCheckBlacklist T))
  (seq (ifElse (test fun s => !s.2.builtRunning) (seq (warnNotRunning T) (ret 0)) skip)
  (seq (reportModule T)
  (gaMsg "installed. Reboot, then check: dmesg | grep -e gunyah_guest -e 'virtio-gpu'".toList))))

/-- What `ga_install` does once the package is registered. -/
def installModules : Hook :=
  seq (effect fun s => (s.1,⟨false,false⟩))
  (seq (each (buildFor T) T.kernels)
  (installTail T))

/-- What `ga_install` does from `dkms add` on. -/
def installVer : Hook :=
  seq (orIf (dkmsAdd T)
    (seq (gaWarn "dkms add failed; the modules are NOT installed".toList) (ret 0)))
  (installModules T)

def gaInstall : Hook := seq (installPrologue T) (installVer T)

def gaRemove : Hook :=
  ifElse (registered T)
    (seq (gaMsg "removing dkms modules".toList)
    (seq (orIf (dkmsRemove T T.VER.text) (gaWarn "dkms remove failed".toList))
    (call (gaRemakeInitrd T T.running))))
    skip

end hooks

/-- `R` holds of what only prints lines and calls tools that leave the guest as it is. -/
structure LetsLog (R : GuestOs → GuestOs → Prop) : Prop where
  output : ∀ os lines, R os { os with output := os.output ++ lines }
  call : ∀ os call n, R os (os.after call n id)

section logging
variable {R : GuestOs → GuestOs → Prop} (hR : LetsLog R)
include hR

lemma echo_keeps (text : Str) : (echo text).Keeps R := effect_keeps fun s => hR.output s.1 [text]

lemma gaMsg_keeps (text : Str) : (gaMsg text).Keeps R := echo_keeps hR _

lemma gaWarn_keeps (text : Str) : (gaWarn text).Keeps R := echo_keeps hR _

variable [IsPreorder GuestOs R] (T : Tools)

lemma addToGroup_keeps (a : Account) (g : Str) : (addToGroup T a g).Keeps R := by
  apply seq_keeps
  · exact orIf_keeps (test_keeps _) nextRound_keeps
  apply seq_keeps
  · exact andIf_keeps (test_keeps _) nextRound_keeps
  · exact andIf_keeps (simple_keeps fun s => hR.call s.1 _ _) (gaMsg_keeps hR _)

lemma gaAddRenderGroups_keeps : (gaAddRenderGroups T).Keeps R := by
  apply seq_keeps
  · exact orIf_keeps (test_keeps _) (ret_keeps 0)
  apply seq_keeps
  · apply pipeline_keeps
    apply each_keeps
    intro a
    exact each_keeps (addToGroup_keeps hR T a) _
  · exact ret_keeps 0

lemma gaCheckBlacklist_keeps : (gaCheckBlacklist T).Keeps R := by
  refine ifElse_keeps (test_keeps _) ?_ skip_keeps
  apply seq_keeps (gaWarn_keeps hR _)
  exact orIf_keeps (simple_keeps fun s => hR.output s.1 _) skip_keeps

lemma warnNothingBuilt_keeps : (warnNothingBuilt T).Keeps R :=
  ifElse_keeps (test_keeps _) (gaWarn_keeps hR _) (gaWarn_keeps hR _)

lemma warnNotRunning_keeps : (warnNotRunning T).Keeps R := by
  refine ifElse_keeps (test_keeps _) ?_ skip_keeps
  exact seq_keeps (gaWarn_keeps hR _) (seq_keeps (gaWarn_keeps hR _) (gaWarn_keeps hR _))

lemma reportModule_keeps : (reportModule T).Keeps R := by
  apply seq_keeps
  · exact orIf_keeps (simple_keeps fun s => hR.call s.1 _ _) skip_keeps
  · exact ifElse_keeps (test_keeps _) (gaMsg_keeps hR _) (gaWarn_keeps hR _)

lemma installTail_keeps : (installTail T).Keeps R := by
  apply seq_keeps
  · exact ifElse_keeps (test_keeps _) (seq_keeps (warnNothingBuilt_keeps hR T) (ret_keeps 0)) skip_keeps
  apply seq_keeps (call_keeps (gaCheckBlacklist_keeps hR T))
  apply seq_keeps
  · exact ifElse_keeps (test_keeps _) (seq_keeps (warnNotRunning_keeps hR T) (ret_keeps 0)) skip_keeps
  exact seq_keeps (reportModule_keeps hR T) (gaMsg_keeps hR _)

end logging

/-- `R` also holds of what takes registrations and sources away. -/
structure LetsDrop (R : GuestOs → GuestOs → Prop) : Prop extends LetsLog R where
  dropVersion : ∀ os call n v, R os (os.after call n (.dropVersion v))
  removeTree : ∀ os call n t, R os (os.after call n (.removeTree t))

section dropping
variable {R : GuestOs → GuestOs → Prop} (hR : LetsDrop R) (T : Tools)
include hR

lemma dkmsRemove_keeps (v : Str) : (dkmsRemove T v).Keeps R :=
  simple_keeps fun s => hR.dropVersion s.1 _ _ v

variable [IsPreorder GuestOs R]

lemma dropStray_keeps (other : Str) : (dropStray T other).Keeps R := by
  apply seq_keeps
  · exact orIf_keeps (andIf_keeps (test_keeps _) (test_keeps _)) nextRound_keeps
  apply seq_keeps (gaMsg_keeps hR.toLetsLog _)
  apply seq_keeps
  · exact orIf_keeps (dkmsRemove_keeps hR T other) skip_keeps
  · exact simple_keeps fun s => hR.removeTree s.1 (.rm (srcTree other)) 0 (srcTree other)

lemma installPrologue_keeps : (installPrologue T).Keeps R := by
  apply seq_keeps (call_keeps (gaAddRenderGroups_keeps hR.toLetsLog T))
  apply seq_keeps
  · exact ifElse_keeps (test_keeps _) (orIf_keeps (dkmsRemove_keeps hR T _) skip_keeps) skip_keeps
  · exact fun ignored s => each_keeps (dropStray_keeps hR T) (T.others s.1) ignored s

end dropping

end GuestAdditions

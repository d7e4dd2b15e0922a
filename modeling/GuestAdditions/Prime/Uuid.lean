import GuestAdditions.Kernel.Errno
import GuestAdditions.Library.Transition
import Mathlib.Data.List.Basic

/-! The UUID of an exported object: the exports that ask the host for it, the answers, and the importers that
wait for it. -/
namespace GuestAdditions

/-- The values of `uuid_state`. -/
inductive UuidState
  | initializing
  | ok
  | err
  deriving DecidableEq

/-- An object and its `ASSIGN_UUID` commands without an answer. `exported` says whether there has been a
dma-buf, `failed` whether an export has set the error by itself, and `refused` whether the ring has not taken a
command; `answers` are those of the host, with the UUID where the response is one, and `results` those of
`virtgpu_virtio_get_uuid`. -/
structure UuidObj where
  hasResourceAssignUuid : Bool
  blob : Bool
  crossDevice : Bool
  uuidState : UuidState
  uuid : List UInt8
  requests : ℕ
  exported : Bool
  failed : Bool
  refused : Bool
  answers : List (Option (List UInt8))
  results : List (Option (List UInt8))
  unplugged : Bool

/-- An export, with the results of its allocations, of `virtqueue_add_sgs` and of `virtio_dma_buf_export`; an
answer of the host; the end of a wait in `virtgpu_virtio_get_uuid`; or the removal of the device. -/
inductive UuidEvent
  | primeExport (array resp addOk dmaBuf : Bool)
  | answer (resp : Option (List UInt8))
  | getUuid
  | unplug

namespace UuidObj

/-- The command on the queue. Nobody is told that it is not on it. -/
def queue (o : UuidObj) (addOk : Bool) : UuidObj :=
  if o.unplugged then o
  else if addOk = false then { o with refused := true }
  else { o with requests := o.requests+1 }

/-- A new object. The ioctl for a blob with `USE_CROSS_DEVICE` has asked for the UUID. -/
def new (hasResourceAssignUuid blob crossDevice unplugged addOk : Bool) : UuidObj :=
  let o := ⟨hasResourceAssignUuid,blob,crossDevice,.initializing,[],0,false,false,false,[],[],unplugged⟩
  if blob && crossDevice then queue o addOk else o

/-- `virtio_gpu_resource_assign_uuid`. -/
def assignUuid (o : UuidObj) (array resp addOk : Bool) : ℤ × UuidObj :=
  if array = false then (-ENOMEM,o)
  else if resp = false then (-ENOMEM,{ o with uuidState := .err, failed := true })
  else (0,o.queue addOk)

/-- `virtgpu_gem_prime_export`. -/
def gemPrimeExport (o : UuidObj) (array resp addOk dmaBuf : Bool) : UuidObj :=
  let r :=
    if o.blob = false then
      if o.hasResourceAssignUuid then o.assignUuid array resp addOk
      else (0,{ o with uuidState := .err, failed := true })
    else if o.crossDevice = false then (0,{ o with uuidState := .err, failed := true })
    else (0,o)
  if r.1 ≠ 0 then r.2 else { r.2 with exported := r.2.exported || dmaBuf }

/-- `virtio_gpu_cmd_resource_uuid_cb`. -/
def resourceUuidCb (o : UuidObj) (resp : Option (List UInt8)) : UuidObj :=
  match resp, o.uuidState with
  | some uuid, .initializing => { o with uuid := uuid, uuidState := .ok }
  | _, _ => { o with uuidState := .err }

/-- `virtgpu_virtio_get_uuid` behind its wait. -/
def getUuid (o : UuidObj) : Option (List UInt8) := if o.uuidState ≠ .ok then none else some o.uuid

/-- An event, if it is possible. -/
def step (o : UuidObj) : UuidEvent → Option UuidObj
  | .primeExport array resp addOk dmaBuf => some (o.gemPrimeExport array resp addOk dmaBuf)
  | .answer resp =>
    if o.requests = 0 then none
    else some { o.resourceUuidCb resp with requests := o.requests-1, answers := o.answers ++ [resp] }
  | .getUuid =>
    if o.exported = false ∨ o.uuidState = .initializing then none
    else some { o with results := o.results ++ [o.getUuid] }
  | .unplug => some { o with unplugged := true }

abbrev Runs (o : UuidObj) (es : List UuidEvent) (o' : UuidObj) : Prop :=
  Transition.Run (fun o e o' => step o e = some o') o es o'

/-- The state that the history leads to: a UUID comes from the only answer, where no export has set the error. -/
def expected (failed : Bool) : List (Option (List UInt8)) → UuidState
  | [] => if failed then .err else .initializing
  | [some _] => if failed then .err else .ok
  | _ => .err

/-- The invariant. -/
structure Settled (o : UuidObj) : Prop where
  state : o.uuidState = expected o.failed o.answers
  uuid : o.uuidState = .ok → o.answers = [some o.uuid]
  results : ∀ uuid, some uuid ∈ o.results → o.answers.head? = some (some uuid)
  asked : o.unplugged = false → o.refused = false → o.blob && o.crossDevice || o.exported →
    o.uuidState = .initializing → 0 < o.requests

variable {o o' : UuidObj} {e : UuidEvent} {es : List UuidEvent} {resp : Option (List UInt8)}

lemma expected_append (failed : Bool) (answers : List (Option (List UInt8))) (resp : Option (List UInt8)) :
    expected failed (answers ++ [resp]) =
      if resp.isSome ∧ expected failed answers = .initializing then .ok else .err := by
  cases answers with
  | nil => cases resp <;> cases failed <;> rfl
  | cons a answers =>
    have hlong : expected failed (a::answers) ≠ .initializing := by
      cases a <;> cases answers <;> cases failed <;> nofun
    rw [if_neg fun h => hlong h.2]
    cases answers <;> cases a <;> rfl

lemma expected_initializing {failed : Bool} {answers : List (Option (List UInt8))}
    (h : expected failed answers = .initializing) : answers = [] := by
  cases answers with
  | nil => rfl
  | cons a answers => cases a <;> cases answers <;> cases failed <;> cases h

lemma expected_failed (answers : List (Option (List UInt8))) : expected true answers = .err := by
  cases answers with
  | nil => rfl
  | cons a answers => cases a <;> cases answers <;> rfl

/-- A command is on its way, or nobody will answer. -/
theorem queue_asked (o : UuidObj) (addOk : Bool) (hp : (o.queue addOk).unplugged = false)
    (hr : (o.queue addOk).refused = false) : 0 < (o.queue addOk).requests := by
  unfold queue at hp hr ⊢
  split
  · rename_i hgone
    rw [if_pos hgone,hgone] at hp
    cases hp
  rename_i hplug
  rw [if_neg hplug] at hr
  split
  · rename_i hadd
    rw [if_pos hadd] at hr
    cases hr
  · exact Nat.succ_pos _

/-- A command for the UUID changes nothing but what is asked for. -/
theorem queue_settled (hstate : o.uuidState = expected o.failed o.answers)
    (huuid : o.uuidState = .ok → o.answers = [some o.uuid])
    (hresults : ∀ uuid, some uuid ∈ o.results → o.answers.head? = some (some uuid)) (addOk : Bool) :
    (o.queue addOk).Settled := by
  have hsame : (o.queue addOk).uuidState = o.uuidState ∧ (o.queue addOk).failed = o.failed ∧
      (o.queue addOk).answers = o.answers ∧ (o.queue addOk).uuid = o.uuid ∧
      (o.queue addOk).results = o.results := by
    unfold queue
    split_ifs <;> exact ⟨rfl,rfl,rfl,rfl,rfl⟩
  obtain ⟨hst,hfailed,hanswers,hu,hres⟩ := hsame
  refine ⟨?_,?_,?_,fun hp hr _ _ => queue_asked o addOk hp hr⟩
  · rw [hst,hfailed,hanswers]
    exact hstate
  · rw [hst,hanswers,hu]
    exact huuid
  · rw [hres,hanswers]
    exact hresults

lemma new_settled (hasResourceAssignUuid blob crossDevice unplugged addOk : Bool) :
    (new hasResourceAssignUuid blob crossDevice unplugged addOk).Settled := by
  unfold new
  dsimp only
  split
  · exact queue_settled rfl (fun hok => by cases hok) (fun _ hmem => by cases hmem) addOk
  · rename_i hplain
    exact ⟨rfl,nofun,nofun,fun _ _ hasked _ => absurd hasked (by simpa using hplain)⟩

/-- An export that fails, or is of an object without a UUID. -/
theorem Settled.fail (h : o.Settled) : ({ o with uuidState := .err, failed := true } : UuidObj).Settled :=
  ⟨(expected_failed _).symm,nofun,h.results,fun _ _ _ => nofun⟩

lemma Settled.exported (h : o.Settled)
    (hasked : o.unplugged = false → o.refused = false → o.uuidState = .initializing → 0 < o.requests)
    (exported : Bool) : ({ o with exported := exported } : UuidObj).Settled :=
  ⟨h.state,h.uuid,h.results,fun hp hr _ => hasked hp hr⟩

lemma Settled.primeExport (h : o.Settled) (array resp addOk dmaBuf : Bool) :
    (o.gemPrimeExport array resp addOk dmaBuf).Settled := by
  have hfail : ∀ exported, ({ o with uuidState := .err, failed := true, exported := exported } : UuidObj).Settled :=
    h.fail.exported fun _ _ => nofun
  unfold gemPrimeExport
  by_cases hblob : o.blob = false
  · rw [if_pos hblob]
    by_cases hassign : o.hasResourceAssignUuid = true
    · rw [if_pos hassign]
      unfold assignUuid
      split
      · exact h
      split
      · exact h.fail
      · have hq := queue_settled h.state h.uuid h.results addOk
        exact hq.exported (fun hp hr _ => queue_asked o addOk hp hr) _
    · rw [if_neg hassign]
      exact hfail _
  · rw [if_neg hblob]
    split
    · exact hfail _
    · rename_i hcross
      exact h.exported (fun hp hr => h.asked hp hr (by simp [hblob,hcross])) _

lemma Settled.answer (h : o.Settled) (resp : Option (List UInt8)) :
    ({ o.resourceUuidCb resp with requests := o.requests-1, answers := o.answers ++ [resp] } : UuidObj).Settled := by
  have hresults : ∀ uuid, some uuid ∈ o.results → (o.answers ++ [resp]).head? = some (some uuid) := fun uuid hu => by
    rw [List.head?_append,h.results uuid hu]
    rfl
  have hexpected := expected_append o.failed o.answers resp
  rw [← h.state] at hexpected
  unfold resourceUuidCb
  split
  · rename_i uuid hinit
    rw [if_pos ⟨rfl,hinit⟩] at hexpected
    have hnone : o.answers = [] := expected_initializing (h.state.symm.trans hinit)
    refine ⟨hexpected.symm,fun _ => ?_,hresults,fun _ _ _ => nofun⟩
    rw [hnone]
    rfl
  · rename_i hother
    rw [if_neg] at hexpected
    · exact ⟨hexpected.symm,nofun,hresults,fun _ _ _ => nofun⟩
    · rintro ⟨hsome,hinit⟩
      obtain ⟨uuid,rfl⟩ := Option.isSome_iff_exists.mp hsome
      exact hother uuid rfl hinit

lemma Settled.wake (h : o.Settled) : ({ o with results := o.results ++ [o.getUuid] } : UuidObj).Settled := by
  refine ⟨h.state,h.uuid,fun uuid hu => ?_,h.asked⟩
  rcases List.mem_append.mp hu with hold | hnew
  · exact h.results uuid hold
  · rw [List.mem_singleton,UuidObj.getUuid] at hnew
    split at hnew
    · cases hnew
    · rename_i hok
      obtain rfl := Option.some.inj hnew
      rw [show o.answers = [some o.uuid] from h.uuid (not_not.mp hok)]
      rfl

lemma Settled.step (h : o.Settled) (ht : o.step e = some o') : o'.Settled := by
  cases e with
  | primeExport array resp addOk dmaBuf =>
    obtain rfl := Option.some.inj ht
    exact h.primeExport array resp addOk dmaBuf
  | answer resp =>
    simp only [UuidObj.step] at ht
    split at ht
    · cases ht
    · obtain rfl := Option.some.inj ht
      exact h.answer resp
  | getUuid =>
    simp only [UuidObj.step] at ht
    split at ht
    · cases ht
    · obtain rfl := Option.some.inj ht
      exact h.wake
  | unplug =>
    obtain rfl := Option.some.inj ht
    exact ⟨h.state,h.uuid,h.results,fun hp => nomatch hp⟩

/-- Over any run of exports, answers and importers: an importer gets a UUID only if the first answer of the host
is that UUID; the object has one exactly when no export has set the error by itself and there is one answer, which
is a UUID, so that a second export takes it away with its answer; and unless the device is gone or the ring has
refused a command, no importer waits in vain. -/
theorem uuid_of_only_answer {hasResourceAssignUuid blob crossDevice unplugged addOk : Bool}
    (hrun : (new hasResourceAssignUuid blob crossDevice unplugged addOk).Runs es o) :
    (∀ uuid, some uuid ∈ o.results → o.answers.head? = some (some uuid)) ∧
      (∀ uuid, o.getUuid = some uuid ↔ o.failed = false ∧ o.answers = [some uuid]) ∧
      (o.unplugged = false → o.refused = false → o.exported = true → o.uuidState = .initializing →
        0 < o.requests) := by
  have h : o.Settled := hrun.invariant (fun _ _ _ hs ht => hs.step ht) (new_settled ..)
  refine ⟨h.results,fun uuid => ?_,fun hp hr hexp => h.asked hp hr (by simp [hexp])⟩
  have hstate := h.state
  unfold UuidObj.getUuid
  constructor
  · intro hget
    split at hget
    · cases hget
    rename_i hok
    obtain rfl := Option.some.inj hget
    refine ⟨?_,h.uuid (not_not.mp hok)⟩
    cases hfailed : o.failed with
    | false => rfl
    | true =>
      rw [hfailed,expected_failed] at hstate
      exact absurd hstate (by simp [not_not.mp hok])
  · rintro ⟨hfailed,hanswers⟩
    rw [hfailed,hanswers] at hstate
    replace hstate : o.uuidState = .ok := hstate
    have huuid := h.uuid hstate
    rw [hanswers] at huuid
    rw [if_neg (not_not.mpr hstate)]
    exact (List.singleton_inj.mp huuid).symm

/-- Two exports, with an importer after each answer. -/
theorem uuid_lost_by_second_export :
    ∃ o, (new true false false false true).Runs [.primeExport true true true true,.answer (some [1]),.getUuid,
        .primeExport true true true true,.answer (some [2]),.getUuid] o ∧
      o.results = [some [1],none] ∧
      (∀ uuid, some uuid ∈ o.results → o.answers.head? = some (some uuid)) ∧
      (∀ uuid, o.getUuid = some uuid ↔ o.failed = false ∧ o.answers = [some uuid]) ∧
      (o.unplugged = false → o.refused = false → o.exported = true → o.uuidState = .initializing →
        0 < o.requests) := by
  have hrun : (new true false false false true).Runs [.primeExport true true true true,.answer (some [1]),.getUuid,
      .primeExport true true true true,.answer (some [2]),.getUuid] _ :=
    .cons rfl (.cons rfl (.cons rfl (.cons rfl (.cons rfl (.cons rfl (.nil _))))))
  exact ⟨_,hrun,rfl,uuid_of_only_answer hrun⟩

end UuidObj
end GuestAdditions

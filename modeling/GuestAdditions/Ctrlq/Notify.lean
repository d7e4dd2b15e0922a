import GuestAdditions.Library.Transition
import Mathlib.Logic.Function.Basic

/-! `virtio_gpu_notify` among any number of callers. A caller adds commands to the ring under the lock and
counts them in `pending_commands`; the counter is read without the lock, and whoever finds it nonzero takes
the lock, clears it and kicks the queue for everybody. -/
namespace GuestAdditions

/-- What a caller does on the control queue: `virtio_gpu_queue_ctrl_sgs` and `virtio_gpu_notify`. -/
inductive QueueOp
  | queue
  | notify
  deriving DecidableEq

/-- Where a caller is: about to do the next of its operations, inside `virtio_gpu_notify` in front of the
lock or, behind it, in front of `virtqueue_notify` for a kick, or waiting for room on the ring. -/
inductive Caller
  | run (ops : List QueueOp)
  | kick (next : Caller)
  | ring (kick : ℕ) (next : Caller)
  | waiting (ops : List QueueOp)

/-- The counter, the commands added since the last `virtqueue_kick_prepare`, the kicks so far, those that
`virtqueue_kick_prepare` wants the host notified of, and those it was notified of. -/
structure NotifyState where
  pendingCommands : ℕ
  unkicked : ℕ
  kicks : ℕ
  wanted : List ℕ
  notified : List ℕ
  callers : ℕ → Caller

/-- A caller moves. `hasRoom` is what it finds on the ring if it queues a command, and `wants` the result of
`virtqueue_kick_prepare` if it kicks. -/
structure NotifyEvent where
  caller : ℕ
  hasRoom : Bool
  wants : Bool

namespace NotifyState

def start (programs : ℕ → List QueueOp) : NotifyState :=
  ⟨0,0,0,[],[],fun t => .run (programs t)⟩

/-- A caller goes on. -/
def goOn (s : NotifyState) (t : ℕ) (c : Caller) : NotifyState :=
  { s with callers := Function.update s.callers t c }

/-- The beginning of `virtio_gpu_notify`: nothing to do if no command is pending. -/
def notify (s : NotifyState) (next : Caller) : Caller :=
  if s.pendingCommands = 0 then next else .kick next

/-- One move of one caller, as far as the next read or write that others can see. -/
def step (s : NotifyState) (e : NotifyEvent) : Option NotifyState :=
  match s.callers e.caller with
  | .run [] => none
  | .run (.notify::ops) => some (s.goOn e.caller (s.notify (.run ops)))
  | .run (.queue::ops) =>
    if e.hasRoom then
      some ({ s with pendingCommands := s.pendingCommands+1, unkicked := s.unkicked+1 }.goOn e.caller
        (.run ops))
    else some (s.goOn e.caller (s.notify (.waiting (.queue::ops))))
  | .kick next =>
    let s := { s with pendingCommands := 0, unkicked := 0, kicks := s.kicks+1 }
    if e.wants then some ({ s with wanted := s.kicks::s.wanted }.goOn e.caller (.ring s.kicks next))
    else some (s.goOn e.caller next)
  | .ring kick next => some ({ s with notified := kick::s.notified }.goOn e.caller next)
  | .waiting ops => some (s.goOn e.caller (.run ops))

abbrev Runs (s : NotifyState) (es : List NotifyEvent) (s' : NotifyState) : Prop :=
  Transition.Run (fun s e s' => step s e = some s') s es s'

end NotifyState

/-- Every command queued is followed by a notification. -/
def Announces : List QueueOp → Prop
  | [] => True
  | .queue::ops => .notify ∈ ops ∧ Announces ops
  | .notify::ops => Announces ops

/-- What a caller has left to do, with the parts of `virtio_gpu_notify` that it is in. -/
def Caller.left : Caller → List QueueOp
  | .run ops | .waiting ops => ops
  | .kick next | .ring _ next => next.left

/-- The caller waits for the host, or is done. -/
def Caller.Blocked : Caller → Prop
  | .run [] | .waiting _ => True
  | _ => False

/-- The caller comes to a kick on its own: it is in front of the lock, or has a notification left and does
not wait. -/
def Caller.Owes : Caller → Prop
  | .run ops => .notify ∈ ops
  | .kick _ => True
  | .ring _ next => next.Owes
  | .waiting _ => False

/-- The caller is in front of `virtqueue_notify` for the kick. -/
def Caller.Rings (c : Caller) (k : ℕ) : Prop := ∃ next, c = .ring k next

/-- The counter is the number of commands not kicked, if there are any somebody is on the way to kick them,
and whoever has a notification to deliver has not forgotten it. -/
structure NotifyState.Announced (s : NotifyState) : Prop where
  programs : ∀ t, Announces (s.callers t).left
  counted : s.pendingCommands = s.unkicked
  owed : s.unkicked ≠ 0 → ∃ t, (s.callers t).Owes
  wanted : ∀ k ∈ s.wanted, k ∈ s.notified ∨ ∃ t, (s.callers t).Rings k

/-- The ways in which a caller can move. -/
inductive Moved (s : NotifyState) (t : ℕ) : NotifyState → Prop
  | quiet (ops : List QueueOp) : s.callers t = .run (.notify::ops) → s.pendingCommands = 0 →
      Moved s t (s.goOn t (.run ops))
  | found (ops : List QueueOp) : s.callers t = .run (.notify::ops) → s.pendingCommands ≠ 0 →
      Moved s t (s.goOn t (.kick (.run ops)))
  | added (ops : List QueueOp) : s.callers t = .run (.queue::ops) →
      Moved s t ({ s with pendingCommands := s.pendingCommands+1, unkicked := s.unkicked+1 }.goOn t
        (.run ops))
  | sleeps (ops : List QueueOp) : s.callers t = .run (.queue::ops) → s.pendingCommands = 0 →
      Moved s t (s.goOn t (.waiting (.queue::ops)))
  | foundFull (ops : List QueueOp) : s.callers t = .run (.queue::ops) → s.pendingCommands ≠ 0 →
      Moved s t (s.goOn t (.kick (.waiting (.queue::ops))))
  | kickWanted (next : Caller) : s.callers t = .kick next →
      Moved s t ({ s with
        pendingCommands := 0
        unkicked := 0
        kicks := s.kicks+1
        wanted := (s.kicks+1)::s.wanted }.goOn t (.ring (s.kicks+1) next))
  | kickSilent (next : Caller) : s.callers t = .kick next →
      Moved s t ({ s with pendingCommands := 0, unkicked := 0, kicks := s.kicks+1 }.goOn t next)
  | rings (k : ℕ) (next : Caller) : s.callers t = .ring k next →
      Moved s t ({ s with notified := k::s.notified }.goOn t next)
  | wakes (ops : List QueueOp) : s.callers t = .waiting ops → Moved s t (s.goOn t (.run ops))

section Moves
variable {s s' : NotifyState} {e : NotifyEvent} {t : ℕ} {c : Caller}

lemma notify_step_cases (h : s.step e = some s') : Moved s e.caller s' := by
  unfold NotifyState.step at h
  split at h
  · cases h
  · rename_i ops hc
    obtain rfl := Option.some.inj h
    unfold NotifyState.notify
    split
    · exact .quiet ops hc ‹_›
    · exact .found ops hc ‹_›
  · rename_i ops hc
    split at h
    · obtain rfl := Option.some.inj h
      exact .added ops hc
    · obtain rfl := Option.some.inj h
      unfold NotifyState.notify
      split
      · exact .sleeps ops hc ‹_›
      · exact .foundFull ops hc ‹_›
  · rename_i next hc
    simp only at h
    split at h
    · obtain rfl := Option.some.inj h
      exact .kickWanted next hc
    · obtain rfl := Option.some.inj h
      exact .kickSilent next hc
  · rename_i k next hc
    obtain rfl := Option.some.inj h
    exact .rings k next hc
  · rename_i ops hc
    obtain rfl := Option.some.inj h
    exact .wakes ops hc

lemma goOn_self : (s.goOn t c).callers t = c := Function.update_self ..

lemma goOn_ne {u : ℕ} (h : u ≠ t) : (s.goOn t c).callers u = s.callers u := Function.update_of_ne h ..

/-- A property that the others have and the caller has where it goes. -/
theorem goOn_forall {P : Caller → Prop} (h : ∀ u, P (s.callers u)) (hc : P c) (u : ℕ) :
    P ((s.goOn t c).callers u) := by
  by_cases hu : u = t
  · rw [hu,goOn_self]
    exact hc
  · rw [goOn_ne hu]
    exact h u

/-- Somebody still has a property that the caller does not lose. -/
theorem goOn_exists {P : Caller → Prop} (h : ∃ u, P (s.callers u)) (hc : P (s.callers t) → P c) :
    ∃ u, P ((s.goOn t c).callers u) := by
  obtain ⟨u,hu⟩ := h
  by_cases hut : u = t
  · exact ⟨t,by rw [goOn_self]; exact hc (hut ▸ hu)⟩
  · exact ⟨u,by rw [goOn_ne hut]; exact hu⟩

/-- A caller that rings for no kick moves on, and nothing is rung for. -/
theorem rings_goOn (h : ∀ k ∈ s.wanted, k ∈ s.notified ∨ ∃ u, (s.callers u).Rings k)
    (hc : ∀ k, ¬ (s.callers t).Rings k) :
    ∀ k ∈ s.wanted, k ∈ s.notified ∨ ∃ u, ((s.goOn t c).callers u).Rings k := by
  intro k hk
  refine (h k hk).imp_right fun hu => ?_
  exact goOn_exists (P := fun c => c.Rings k) hu fun hr => absurd hr (hc k)

lemma not_rings_run {ops : List QueueOp} (h : s.callers t = .run ops) (k : ℕ) :
    ¬ (s.callers t).Rings k := by
  rintro ⟨_,hr⟩
  rw [h] at hr
  cases hr

lemma not_rings_kick {next : Caller} (h : s.callers t = .kick next) (k : ℕ) :
    ¬ (s.callers t).Rings k := by
  rintro ⟨_,hr⟩
  rw [h] at hr
  cases hr

lemma NotifyState.Announced.move (h : s.Announced) (hm : Moved s t s') : s'.Announced := by
  have hprog := h.programs t
  cases hm with
  | quiet ops hc hp =>
    rw [hc] at hprog
    exact ⟨goOn_forall (P := fun c => Announces c.left) h.programs hprog,h.counted,
      fun hu => absurd (h.counted.symm.trans hp) hu,rings_goOn h.wanted (not_rings_run hc)⟩
  | found ops hc hp =>
    rw [hc] at hprog
    exact ⟨goOn_forall (P := fun c => Announces c.left) h.programs hprog,h.counted,
      fun _ => ⟨t,by rw [goOn_self]; trivial⟩,rings_goOn h.wanted (not_rings_run hc)⟩
  | added ops hc =>
    rw [hc] at hprog
    exact ⟨goOn_forall (P := fun c => Announces c.left) h.programs hprog.2,
      congrArg (·+1) h.counted,fun _ => ⟨t,by rw [goOn_self]; exact hprog.1⟩,
      rings_goOn h.wanted (not_rings_run hc)⟩
  | sleeps ops hc hp =>
    rw [hc] at hprog
    exact ⟨goOn_forall (P := fun c => Announces c.left) h.programs hprog,h.counted,
      fun hu => absurd (h.counted.symm.trans hp) hu,rings_goOn h.wanted (not_rings_run hc)⟩
  | foundFull ops hc hp =>
    rw [hc] at hprog
    exact ⟨goOn_forall (P := fun c => Announces c.left) h.programs hprog,h.counted,
      fun _ => ⟨t,by rw [goOn_self]; trivial⟩,rings_goOn h.wanted (not_rings_run hc)⟩
  | kickWanted next hc =>
    rw [hc] at hprog
    refine ⟨goOn_forall (P := fun c => Announces c.left) h.programs hprog,rfl,
      fun hu => absurd rfl hu,?_⟩
    intro k hk
    rcases List.mem_cons.mp hk with rfl | hk
    · exact .inr ⟨t,next,goOn_self⟩
    · exact rings_goOn h.wanted (not_rings_kick hc) k hk
  | kickSilent next hc =>
    rw [hc] at hprog
    exact ⟨goOn_forall (P := fun c => Announces c.left) h.programs hprog,rfl,
      fun hu => absurd rfl hu,rings_goOn h.wanted (not_rings_kick hc)⟩
  | rings k next hc =>
    rw [hc] at hprog
    refine ⟨goOn_forall (P := fun c => Announces c.left) h.programs hprog,h.counted,
      fun hu => goOn_exists (P := Caller.Owes) (h.owed hu) fun ho => by rw [hc] at ho; exact ho,?_⟩
    intro j hj
    by_cases hjk : j = k
    · exact .inl (hjk ▸ List.mem_cons_self)
    · rcases h.wanted j hj with hn | hr
      · exact .inl (List.mem_cons_of_mem _ hn)
      · refine .inr (goOn_exists (P := fun c => c.Rings j) hr ?_)
        rintro ⟨_,hr⟩
        rw [hc] at hr
        cases hr
        exact absurd rfl hjk
  | wakes ops hc =>
    rw [hc] at hprog
    refine ⟨goOn_forall (P := fun c => Announces c.left) h.programs hprog,h.counted,
      fun hu => goOn_exists (P := Caller.Owes) (h.owed hu) fun ho => by rw [hc] at ho; exact ho.elim,
      rings_goOn h.wanted ?_⟩
    rintro k ⟨_,hr⟩
    rw [hc] at hr
    cases hr

end Moves

namespace NotifyState

lemma announced_start {programs : ℕ → List QueueOp} (hp : ∀ t, Announces (programs t)) :
    (start programs).Announced :=
  ⟨hp,rfl,fun hu => absurd rfl hu,fun _ hk => by cases hk⟩

/-- As long as a command on the ring is not kicked, or a kick is not passed on to the host, some caller is
on its way to do so without waiting for the host: a read of the counter without the lock loses nothing. -/
theorem no_lost_kick {programs : ℕ → List QueueOp} (hp : ∀ t, Announces (programs t))
    {es : List NotifyEvent} {s : NotifyState} (h : (start programs).Runs es s) :
    (s.unkicked ≠ 0 → ∃ t, (s.callers t).Owes ∧ ¬ (s.callers t).Blocked) ∧
      ∀ k ∈ s.wanted, k ∈ s.notified ∨ ∃ t, (s.callers t).Rings k ∧ ¬ (s.callers t).Blocked := by
  have hinv := h.invariant (fun _ _ _ hi hs => Announced.move hi (notify_step_cases hs))
    (announced_start hp)
  refine ⟨fun hu => ?_,fun k hk => (hinv.wanted k hk).imp_right ?_⟩
  · obtain ⟨t,ht⟩ := hinv.owed hu
    refine ⟨t,ht,?_⟩
    cases hc : s.callers t with
    | run ops =>
      rw [hc] at ht
      cases ops with
      | nil => cases ht
      | cons op ops => exact id
    | kick next => exact id
    | ring k next => exact id
    | waiting ops =>
      rw [hc] at ht
      exact ht.elim
  · rintro ⟨t,next,ht⟩
    refine ⟨t,⟨next,ht⟩,?_⟩
    rw [ht]
    exact id

/-- Two callers that each queue a command and notify. -/
theorem two_callers_kick : ∃ es s, (start fun t => if t < 2 then [.queue,.notify] else []).Runs es s ∧
    s.unkicked = 1 ∧ ∃ t, (s.callers t).Owes ∧ ¬ (s.callers t).Blocked := by
  have h : (start fun t => if t < 2 then [.queue,.notify] else []).Runs [⟨0,true,false⟩] _ :=
    .single rfl
  refine ⟨_,_,h,rfl,(no_lost_kick ?_ h).1 Nat.one_ne_zero⟩
  intro t
  by_cases ht : t < 2 <;> simp [ht,Announces]

end NotifyState
end GuestAdditions

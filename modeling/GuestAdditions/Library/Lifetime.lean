import Mathlib.Data.List.Basic

/-! Logs of commands that create, use and destroy things by key: the fate of a key, and what a command does
to the fate of each key. -/
namespace GuestAdditions.Lifetime

/-- What a command does to a thing. -/
inductive Act
  | creates
  | uses
  | destroys
  deriving DecidableEq

/-- Whether the thing is there afterwards. It is created only where it is not, and used or destroyed only
where it is. -/
def next : Act → Bool → Option Bool
  | .creates, false => some true
  | .uses, true => some true
  | .destroys, true => some false
  | _, _ => none

variable {E κ : Type*} [DecidableEq κ]

/-- What one command does to a key. -/
def step (about : E → Option (κ × Act)) (k : κ) (there : Bool) (e : E) : Option Bool :=
  match about e with
  | none => some there
  | some r => if r.1 = k then next r.2 there else some there

/-- Whether there is a thing with the key after a log; there is no answer after a command that is out of
place. -/
def fate (about : E → Option (κ × Act)) (k : κ) (log : List E) : Option Bool :=
  log.foldlM (step about k) false

variable {about : E → Option (κ × Act)} {k k' : κ} {log : List E} {e : E} {a : Act} {b : Bool}

@[simp] lemma fate_nil : fate about k [] = some false := rfl

lemma fate_append_one : fate about k (log ++ [e]) = (fate about k log).bind (step about k · e) := by
  simp [fate,List.foldlM_append]

/-- A command about nothing. -/
theorem fate_quiet (he : about e = none) : fate about k (log ++ [e]) = fate about k log := by
  rw [fate_append_one]
  cases fate about k log with
  | none => rfl
  | some b => simp [step,he]

/-- A command about another key. -/
theorem fate_other (he : about e = some (k',a)) (hk : k' ≠ k) :
    fate about k (log ++ [e]) = fate about k log := by
  rw [fate_append_one]
  cases fate about k log with
  | none => rfl
  | some b => simp [step,he,hk]

lemma fate_own (he : about e = some (k,a)) (hb : fate about k log = some b) :
    fate about k (log ++ [e]) = next a b := by
  rw [fate_append_one,hb]
  simp [step,he]

/-- The commands of a log are all about one key, and take its thing from one state to another. -/
structure Carries (about : E → Option (κ × Act)) (k : κ) (b b' : Bool) (log : List E) : Prop where
  own : ∀ e ∈ log, ∃ a, about e = some (k,a)
  ends : log.foldlM (step about k) b = some b'

lemma Carries.nil : Carries about k b b [] := ⟨fun _ he => absurd he List.not_mem_nil,rfl⟩

lemma Carries.append_one {b' b'' : Bool} (h : Carries about k b b' log) (he : about e = some (k,a))
    (hnext : next a b' = some b'') : Carries about k b b'' (log ++ [e]) := by
  refine ⟨fun e' he' => ?_,?_⟩
  · rcases List.mem_append.mp he' with hold | hnew
    · exact h.own e' hold
    · rw [List.mem_singleton.mp hnew]
      exact ⟨a,he⟩
  · rw [List.foldlM_append,h.ends]
    simp [step,he,hnext]

lemma fate_carries {b' : Bool} {log' : List E} (h : Carries about k b b' log') (hb : fate about k log = some b) :
    fate about k (log ++ log') = some b' := by
  rw [fate,List.foldlM_append]
  rw [fate] at hb
  rw [hb]
  exact h.ends

/-- Commands about another key. -/
theorem fate_others {log' : List E} (h : ∀ e ∈ log', ∃ a, about e = some (k',a)) (hk : k' ≠ k) :
    fate about k (log ++ log') = fate about k log := by
  induction log' generalizing log with
  | nil => rw [List.append_nil]
  | cons e log' ih =>
    obtain ⟨a,he⟩ := h e List.mem_cons_self
    rw [List.append_cons,ih fun e' he' => h e' (List.mem_cons_of_mem _ he'),fate_other he hk]

end GuestAdditions.Lifetime

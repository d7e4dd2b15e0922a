import Mathlib.Data.List.Basic
import Mathlib.Data.Prod.Basic

/-! How control moves through a shell script that runs under `set -e`. A command is what it
does to the world `W` and to the variables `V` of its shell; a failing command ends the shell
unless it stands where `set -e` is ignored: in a condition, or left of `&&` and `||`. -/
namespace GuestAdditions.Shell

/-- How a command hands control on: with a status, to the next round of the loop around it, out
of the function around it, or out of the shell. -/
inductive Ending where
  | status (n : Nat)
  | continued
  | returned (n : Nat)
  | exited (n : Nat)
deriving DecidableEq, Repr

/-- The exit status that whoever waits for a command with this ending reads. -/
def Ending.code : Ending → Nat
  | .status n => n
  | .continued => 0
  | .returned n => n
  | .exited n => n

/-- The status with which a loop goes on after a round with this ending. -/
def Ending.goesOn : Ending → Option Nat
  | .status n => some n
  | .continued => some 0
  | .returned _ => none
  | .exited _ => none

/-- The ending hands success to the function around it or to that function's caller. -/
def Ending.Fine (e : Ending) : Prop := e = .status 0 ∨ e = .returned 0

/-- The next command follows, or the ending is one that `E` allows. -/
def Passing (E : Ending → Prop) (e : Ending) : Prop := (∃ n, e = .status n) ∨ E e

/-- A command; its first argument says whether `set -e` is ignored where it stands. -/
abbrev Cmd (W V : Type*) := Bool → W × V → Ending × (W × V)

section commands
variable {W V : Type*} {α : Type*}

/-- `set -e` ends the shell on a failing status, unless it is ignored here. -/
def checked (ignored : Bool) (n : Nat) : Ending :=
  if n = 0 ∨ ignored then .status n else .exited n

/-- A command of its own: a program with its exit status. -/
def simple (f : W × V → Nat × (W × V)) : Cmd W V :=
  fun ignored s => (checked ignored (f s).1,(f s).2)

/-- A command that changes something and cannot fail. -/
def effect (f : W × V → W × V) : Cmd W V := fun _ s => (.status 0,f s)

/-- `true`, and the missing branch of an `if`. -/
def skip : Cmd W V := effect id

/-- `[ p ]`. -/
def test (p : W × V → Bool) : Cmd W V := simple fun s => (if p s then 0 else 1,s)

/-- `return n`. -/
def ret (n : Nat) : Cmd W V := fun _ s => (.returned n,s)

/-- `continue`. -/
def nextRound : Cmd W V := fun _ s => (.continued,s)

/-- `c; d`. -/
def seq (c d : Cmd W V) : Cmd W V := fun ignored s =>
  match c ignored s with
  | (.status _,s') => d ignored s'
  | r => r

/-- `c && d`. -/
def andIf (c d : Cmd W V) : Cmd W V := fun ignored s =>
  match c true s with
  | (.status 0,s') => d ignored s'
  | r => r

/-- `c || d`. -/
def orIf (c d : Cmd W V) : Cmd W V := fun ignored s =>
  match c true s with
  | (.status (_ + 1),s') => d ignored s'
  | r => r

/-- `if c; then a; else b; fi`. -/
def ifElse (c a b : Cmd W V) : Cmd W V := fun ignored s =>
  match c true s with
  | (.status 0,s') => a ignored s'
  | (.status (_ + 1),s') => b ignored s'
  | r => r

/-- The rounds of a loop, after one that left the status `n`. -/
def eachFrom (body : α → Cmd W V) : Nat → List α → Cmd W V
  | n,[],_,s => (.status n,s)
  | _,x :: xs,ignored,s =>
    match (body x ignored s).1.goesOn with
    | some n => eachFrom body n xs ignored (body x ignored s).2
    | none => body x ignored s

/-- `for x in xs`, and `while read` over the lines `xs`: the status is the last round's. The
loop is not checked itself: a status that was let pass inside it is let pass by it. -/
def each (body : α → Cmd W V) (xs : List α) : Cmd W V := eachFrom body 0 xs

/-- `… | c`: the last command of a pipeline runs in a shell of its own, whose variables are
lost and whose status is the pipeline's. -/
def pipeline (c : Cmd W V) : Cmd W V := fun ignored s =>
  (checked ignored (c ignored s).1.code,((c ignored s).2.1,s.2))

/-- The call of a function with the body `c`. -/
def call (c : Cmd W V) : Cmd W V := fun ignored s =>
  match c ignored s with
  | (.exited n,s') => (.exited n,s')
  | (e,s') => (checked ignored e.code,s')

end commands

section endings
variable {W V : Type*} {α : Type*} {ignored : Bool} {E F : Ending → Prop} {c d a b : Cmd W V}

@[simp] lemma checked_zero (ignored : Bool) : checked ignored 0 = .status 0 := by simp [checked]

@[simp] lemma checked_ignored (n : Nat) : checked true n = .status n := by simp [checked]

lemma checked_failed {n : Nat} (hn : n ≠ 0) : checked false n = .exited n := by
  simp [checked,hn]

/-- Whatever the state, the command ends in a way `E` allows. -/
def Cmd.Ends (c : Cmd W V) (ignored : Bool) (E : Ending → Prop) : Prop := ∀ s, E (c ignored s).1

lemma Cmd.Ends.mono (hc : c.Ends ignored E) (h : ∀ e, E e → F e) : c.Ends ignored F :=
  fun s => h _ (hc s)

lemma Cmd.Ends.passing (hc : c.Ends ignored E) : c.Ends ignored (Passing E) :=
  hc.mono fun _ he => Or.inr he

/-- A command that only ever ends with a status hands over to the next one. -/
theorem Cmd.Ends.status (hc : c.Ends ignored (Passing fun _ => False)) (s : W × V) :
    ∃ n, c ignored s = (.status n,(c ignored s).2) := by
  rcases hc s with ⟨n,hn⟩ | hfalse
  · exact ⟨n,Prod.ext hn rfl⟩
  · exact hfalse.elim

lemma effect_ends (f : W × V → W × V) : (effect f).Ends ignored (· = .status 0) := fun _ => rfl

lemma effect_passing (f : W × V → W × V) : (effect f).Ends ignored (Passing E) :=
  (effect_ends f).mono fun _ h => Or.inl ⟨0,h⟩

lemma effect_fine (f : W × V → W × V) : (effect f).Ends ignored Ending.Fine :=
  (effect_ends f).mono fun _ h => Or.inl h

lemma ret_fine : (ret 0 : Cmd W V).Ends ignored Ending.Fine := fun _ => Or.inr rfl

lemma nextRound_ends : (nextRound : Cmd W V).Ends ignored (Passing fun e => e = .continued ∨ E e) :=
  fun _ => Or.inr (Or.inl rfl)

/-- Where `set -e` is ignored, no program can end the shell. -/
theorem simple_ends (f : W × V → Nat × (W × V)) : (simple f).Ends true (Passing E) := by
  intro s
  rw [simple,checked_ignored]
  exact Or.inl ⟨_,rfl⟩

lemma test_ends (p : W × V → Bool) : (test p).Ends true (Passing E) := simple_ends _

lemma seq_ends (hc : c.Ends ignored (Passing E)) (hd : d.Ends ignored E) :
    (seq c d).Ends ignored E := by
  intro s
  have h := hc s
  rw [seq]
  rcases hr : c ignored s with ⟨e,s'⟩
  rw [hr] at h
  rcases h with ⟨n,rfl⟩ | h
  · exact hd s'
  · cases e with
    | status n => exact hd s'
    | continued => exact h
    | returned n => exact h
    | exited n => exact h

lemma andIf_ends (hc : c.Ends true (Passing E)) (hd : d.Ends ignored (Passing E)) :
    (andIf c d).Ends ignored (Passing E) := by
  intro s
  have h := hc s
  rw [andIf]
  rcases hr : c true s with ⟨e,s'⟩
  rw [hr] at h
  rcases e with (_ | n) | _ | n | n
  · exact hd s'
  · exact h
  · exact h
  · exact h
  · exact h

lemma passing_status (n : Nat) : Passing E (.status n) := Or.inl ⟨n,rfl⟩

lemma orIf_ends (hc : c.Ends true (Passing E)) (hE : E (.status 0)) (hd : d.Ends ignored E) :
    (orIf c d).Ends ignored E := by
  intro s
  have h := hc s
  rw [orIf]
  rcases hr : c true s with ⟨e,s'⟩
  rw [hr] at h
  rcases e with (_ | n) | _ | n | n
  · exact hE
  · exact hd s'
  · simpa [Passing] using h
  · simpa [Passing] using h
  · simpa [Passing] using h

lemma ifElse_ends (hc : c.Ends true (Passing E)) (ha : a.Ends ignored E)
    (hb : b.Ends ignored E) : (ifElse c a b).Ends ignored E := by
  intro s
  have h := hc s
  rw [ifElse]
  rcases hr : c true s with ⟨e,s'⟩
  rw [hr] at h
  rcases e with (_ | n) | _ | n | n
  · exact ha s'
  · exact hb s'
  · simpa [Passing] using h
  · simpa [Passing] using h
  · simpa [Passing] using h

lemma eachFrom_ends {body : α → Cmd W V}
    (h : ∀ x, (body x).Ends ignored (Passing fun e => e = .continued ∨ E e)) (xs : List α) :
    ∀ n, (eachFrom body n xs).Ends ignored (Passing E) := by
  induction xs with
  | nil => exact fun n _ => Or.inl ⟨n,rfl⟩
  | cons x xs ih =>
    intro n s
    have hx := h x s
    rw [eachFrom]
    cases hg : (body x ignored s).1.goesOn with
    | some m => exact ih m _
    | none =>
      rcases hx with ⟨m,hm⟩ | hm | hE
      · simp [hm,Ending.goesOn] at hg
      · simp [hm,Ending.goesOn] at hg
      · exact Or.inr hE

/-- A loop whose rounds may say `continue` does not itself. -/
theorem each_ends {body : α → Cmd W V}
    (h : ∀ x, (body x).Ends ignored (Passing fun e => e = .continued ∨ E e)) (xs : List α) :
    (each body xs).Ends ignored (Passing E) := eachFrom_ends h xs 0

lemma call_ends (hc : c.Ends ignored Ending.Fine) :
    (call c).Ends ignored (· = .status 0) := by
  intro s
  have h := hc s
  rw [call]
  rcases hr : c ignored s with ⟨e,s'⟩
  rw [hr] at h
  rcases h with rfl | rfl
  · exact checked_zero ignored
  · exact checked_zero ignored

lemma call_passing (hc : c.Ends ignored Ending.Fine) : (call c).Ends ignored (Passing E) :=
  (call_ends hc).mono fun _ h => Or.inl ⟨0,h⟩

/-- A program whose failure is only reported. -/
theorem reported_fine (f : W × V → Nat × (W × V)) (g : W × V → W × V) :
    (orIf (simple f) (effect g)).Ends ignored Ending.Fine :=
  orIf_ends (simple_ends f) (Or.inl rfl) (effect_fine g)

lemma reported_passing (f : W × V → Nat × (W × V)) (g : W × V → W × V) :
    (orIf (simple f) (effect g)).Ends ignored (Passing E) :=
  orIf_ends (simple_ends f) (passing_status 0) (effect_passing g)

end endings

section statuses
variable {W V : Type*} {α : Type*} {ignored : Bool} {body : α → Cmd W V} {g : α → Nat}

lemma eachFrom_status (h : ∀ x s, (body x ignored s).1.goesOn = some (g x)) (xs : List α) :
    ∀ n s, (eachFrom body n xs ignored s).1 = .status ((xs.getLast?.map g).getD n) := by
  induction xs with
  | nil => exact fun n s => rfl
  | cons x xs ih =>
    intro n s
    rw [eachFrom,h x s]
    refine (ih (g x) _).trans ?_
    cases xs with
    | nil => rfl
    | cons y ys => rw [List.getLast?_cons_cons,List.getLast?_eq_getLast_of_ne_nil (by simp)]; rfl

/-- Where every round goes on, the last one decides the loop's status. -/
theorem each_status (h : ∀ x s, (body x ignored s).1.goesOn = some (g x)) (xs : List α)
    (s : W × V) : (each body xs ignored s).1 = .status ((xs.getLast?.map g).getD 0) :=
  eachFrom_status h xs 0 s

/-- A pipeline ends the shell by the status of its last command, wherever that one stood. -/
theorem pipeline_status {c : Cmd W V} {n : Nat} {s : W × V}
    (hc : (c ignored s).1 = .status n) : (pipeline c ignored s).1 = checked ignored n := by
  rw [pipeline,hc]
  rfl

lemma seq_exits {c d : Cmd W V} {n : Nat} {s : W × V} (hc : (c ignored s).1 = .exited n) :
    (seq c d ignored s).1 = .exited n := by
  rw [seq]
  rcases hr : c ignored s with ⟨e,s'⟩
  rw [hr] at hc
  subst hc
  rfl

lemma call_exits {c : Cmd W V} {n : Nat} {s : W × V} (hc : (c ignored s).1 = .exited n) :
    (call c ignored s).1 = .exited n := by
  rw [call]
  rcases hr : c ignored s with ⟨e,s'⟩
  rw [hr] at hc
  subst hc
  rfl

/-- A call leaves the state that the body leaves. -/
theorem call_world (c : Cmd W V) (s : W × V) : (call c ignored s).2 = (c ignored s).2 := by
  rw [call]
  rcases c ignored s with ⟨e,s'⟩
  cases e <;> rfl

end statuses

section runs
variable {W V : Type*} {α : Type*} {ignored : Bool} {c d a b : Cmd W V} {s s' : W × V}

/-- The command hands control to the next one, or to the next round, in the state `s'`. -/
def Cmd.Runs (c : Cmd W V) (ignored : Bool) (s s' : W × V) : Prop :=
  (c ignored s).1.goesOn.isSome ∧ (c ignored s).2 = s'

lemma test_true {p : W × V → Bool} (hp : p s) : test p ignored s = (.status 0,s) := by
  simp [test,simple,hp]

lemma test_false {p : W × V → Bool} (hp : p s = false) : test p true s = (.status 1,s) := by
  simp [test,simple,hp]

lemma seq_run {n : Nat} (hc : c ignored s = (.status n,s')) :
    seq c d ignored s = d ignored s' := by rw [seq,hc]

lemma seq_stop {e : Ending} (hc : c ignored s = (e,s')) (he : ∀ n, e ≠ .status n) :
    seq c d ignored s = (e,s') := by
  rw [seq,hc]
  cases e with
  | status n => exact absurd rfl (he n)
  | continued => rfl
  | returned n => rfl
  | exited n => rfl

lemma andIf_run (hc : c true s = (.status 0,s')) : andIf c d ignored s = d ignored s' := by
  simp only [andIf,hc]

lemma andIf_stop {n : Nat} (hn : n ≠ 0) (hc : c true s = (.status n,s')) :
    andIf c d ignored s = (.status n,s') := by
  obtain ⟨m,rfl⟩ := Nat.exists_eq_succ_of_ne_zero hn
  simp only [andIf,hc]

lemma orIf_run {n : Nat} (hn : n ≠ 0) (hc : c true s = (.status n,s')) :
    orIf c d ignored s = d ignored s' := by
  obtain ⟨m,rfl⟩ := Nat.exists_eq_succ_of_ne_zero hn
  simp only [orIf,hc]

lemma orIf_stop (hc : c true s = (.status 0,s')) : orIf c d ignored s = (.status 0,s') := by
  simp only [orIf,hc]

lemma ifElse_then (hc : c true s = (.status 0,s')) :
    ifElse c a b ignored s = a ignored s' := by simp only [ifElse,hc]

lemma ifElse_else {n : Nat} (hn : n ≠ 0) (hc : c true s = (.status n,s')) :
    ifElse c a b ignored s = b ignored s' := by
  obtain ⟨m,rfl⟩ := Nat.exists_eq_succ_of_ne_zero hn
  simp only [ifElse,hc]

/-- Rounds that each do `f x` do all of them, in order. -/
theorem eachFrom_runs {body : α → Cmd W V} {f : W × V → α → W × V} {xs : List α}
    (h : ∀ x ∈ xs, ∀ s, (body x).Runs ignored s (f s x)) :
    ∀ n s, ∃ m, eachFrom body n xs ignored s = (.status m,xs.foldl f s) := by
  induction xs with
  | nil => exact fun n s => ⟨n,rfl⟩
  | cons x xs ih =>
    intro n s
    obtain ⟨hg,hs⟩ := h x (by simp) s
    obtain ⟨m,hm⟩ := Option.isSome_iff_exists.mp hg
    rw [eachFrom,hm,hs]
    exact ih (fun y hy => h y (by simp [hy])) m (f s x)

lemma each_runs {body : α → Cmd W V} {f : W × V → α → W × V} {xs : List α}
    (h : ∀ x ∈ xs, ∀ s, (body x).Runs ignored s (f s x)) (s : W × V) :
    ∃ m, each body xs ignored s = (.status m,xs.foldl f s) := eachFrom_runs h 0 s

/-- What holds of the rounds done and of the world, and is kept by a round, holds of all rounds when
the loop is over. -/
theorem each_induct {body : α → Cmd W V} {P : List α → W → Prop} {xs : List α}
    (hgoes : ∀ x s, (body x ignored s).1.goesOn.isSome)
    (hstep : ∀ done x s, P done s.1 → P (done ++ [x]) (body x ignored s).2.1)
    (h0 : P [] s.1) : P xs (each body xs ignored s).2.1 := by
  have hrounds : ∀ xs done n s, P done s.1 → P (done ++ xs) (eachFrom body n xs ignored s).2.1 := by
    intro xs
    induction xs with
    | nil =>
      intro done n s hdone
      rw [List.append_nil]
      exact hdone
    | cons x xs ih =>
      intro done n s hdone
      obtain ⟨m,hm⟩ := Option.isSome_iff_exists.mp (hgoes x s)
      have hnext := ih (done ++ [x]) m _ (hstep done x s hdone)
      rw [eachFrom,hm]
      simpa using hnext
  exact hrounds xs [] 0 s h0

end runs

section worlds
variable {W V : Type*} {α : Type*} {R : W → W → Prop} {c d a b : Cmd W V}

/-- Every run of the command relates the world before it to the world after it. -/
def Cmd.Keeps (c : Cmd W V) (R : W → W → Prop) : Prop := ∀ ignored s, R s.1 (c ignored s).2.1

lemma simple_keeps {f : W × V → Nat × (W × V)} (h : ∀ s, R s.1 (f s).2.1) :
    (simple f).Keeps R := fun _ s => h s

lemma effect_keeps {f : W × V → W × V} (h : ∀ s, R s.1 (f s).1) : (effect f).Keeps R :=
  fun _ s => h s

variable [IsPreorder W R]

lemma skip_keeps : (skip : Cmd W V).Keeps R := fun _ s => refl_of R s.1

lemma test_keeps (p : W × V → Bool) : (test p).Keeps R := fun _ s => refl_of R s.1

lemma ret_keeps (n : Nat) : (ret n : Cmd W V).Keeps R := fun _ s => refl_of R s.1

lemma nextRound_keeps : (nextRound : Cmd W V).Keeps R := fun _ s => refl_of R s.1

lemma seq_keeps (hc : c.Keeps R) (hd : d.Keeps R) : (seq c d).Keeps R := by
  intro ignored s
  have h := hc ignored s
  rw [seq]
  rcases hr : c ignored s with ⟨e,s'⟩
  rw [hr] at h
  cases e with
  | status n => exact trans_of R h (hd ignored s')
  | continued => exact h
  | returned n => exact h
  | exited n => exact h

lemma andIf_keeps (hc : c.Keeps R) (hd : d.Keeps R) : (andIf c d).Keeps R := by
  intro ignored s
  have h := hc true s
  rw [andIf]
  rcases hr : c true s with ⟨e,s'⟩
  rw [hr] at h
  rcases e with (_ | n) | _ | n | n
  · exact trans_of R h (hd ignored s')
  all_goals exact h

lemma orIf_keeps (hc : c.Keeps R) (hd : d.Keeps R) : (orIf c d).Keeps R := by
  intro ignored s
  have h := hc true s
  rw [orIf]
  rcases hr : c true s with ⟨e,s'⟩
  rw [hr] at h
  rcases e with (_ | n) | _ | n | n
  · exact h
  · exact trans_of R h (hd ignored s')
  all_goals exact h

lemma ifElse_keeps (hc : c.Keeps R) (ha : a.Keeps R) (hb : b.Keeps R) :
    (ifElse c a b).Keeps R := by
  intro ignored s
  have h := hc true s
  rw [ifElse]
  rcases hr : c true s with ⟨e,s'⟩
  rw [hr] at h
  rcases e with (_ | n) | _ | n | n
  · exact trans_of R h (ha ignored s')
  · exact trans_of R h (hb ignored s')
  all_goals exact h

lemma each_keeps {body : α → Cmd W V} (h : ∀ x, (body x).Keeps R) (xs : List α) :
    (each body xs).Keeps R := by
  suffices hn : ∀ n, (eachFrom body n xs).Keeps R from hn 0
  induction xs with
  | nil => exact fun n _ s => refl_of R s.1
  | cons x xs ih =>
    intro n ignored s
    have hx := h x ignored s
    rw [eachFrom]
    cases (body x ignored s).1.goesOn with
    | some m => exact trans_of R hx (ih m ignored _)
    | none => exact hx

omit [IsPreorder W R] in
lemma pipeline_keeps (hc : c.Keeps R) : (pipeline c).Keeps R := fun ignored s => hc ignored s

omit [IsPreorder W R] in
lemma call_keeps (hc : c.Keeps R) : (call c).Keeps R := by
  intro ignored s
  rw [call_world]
  exact hc ignored s

end worlds

end GuestAdditions.Shell

import Mathlib.Data.Multiset.AddSub

/-! Logs of events that take, use and end resources. A log is run on what is held: only what is held can be
used or ended, so that a log that runs neither uses nor ends anything twice. -/
namespace GuestAdditions.Holding

/-- What an event does to the resources: it takes one, it ends the holding of one, it uses one, or it has
nothing to do with them. -/
inductive Effect (ρ : Type*)
  | takes (r : ρ)
  | ends (r : ρ)
  | uses (r : ρ)
  | quiet

variable {E ρ : Type*} [DecidableEq ρ]

/-- What is held after one event, if the event is in order. -/
def next (h : Multiset ρ) : Effect ρ → Option (Multiset ρ)
  | .takes r => some (r ::ₘ h)
  | .ends r => if r ∈ h then some (h.erase r) else none
  | .uses r => if r ∈ h then some h else none
  | .quiet => some h

/-- What is held after a log, if every event is in order. -/
def after (effect : E → Effect ρ) : List E → Multiset ρ → Option (Multiset ρ)
  | [], h => some h
  | e::log, h => (next h (effect e)).bind (after effect log)

variable {effect : E → Effect ρ} {e : E} {r : ρ} {log log' : List E} {h h' k k' : Multiset ρ}

@[simp] lemma after_nil : after effect [] h = some h := rfl

lemma after_takes (he : effect e = .takes r) : after effect (e::log) h = after effect log (r ::ₘ h) := by
  rw [after,he]
  rfl

lemma after_ends (he : effect e = .ends r) :
    after effect (e::log) (r ::ₘ h) = after effect log h := by
  rw [after,he,next,if_pos (Multiset.mem_cons_self r h),Multiset.erase_cons_head]
  rfl

lemma after_uses (he : effect e = .uses r) (hr : r ∈ h) :
    after effect (e::log) h = after effect log h := by
  rw [after,he,next,if_pos hr]
  rfl

lemma after_quiet (he : effect e = .quiet) : after effect (e::log) h = after effect log h := by
  rw [after,he]
  rfl

lemma after_append : after effect (log ++ log') h = (after effect log h).bind (after effect log') := by
  induction log generalizing h with
  | nil => rfl
  | cons e log ih =>
    rw [List.cons_append,after,after]
    cases next h (effect e) with
    | none => rfl
    | some h => exact ih

/-- A log goes on where another ends. -/
theorem after_trans (hl : after effect log h = some h') :
    after effect (log ++ log') h = after effect log' h' := by
  rw [after_append,hl]
  rfl

lemma next_add {a : Effect ρ} (hn : next h a = some h') : next (h+k) a = some (h'+k) := by
  cases a with
  | takes r =>
    obtain rfl := Option.some.inj hn
    rw [next,Multiset.cons_add]
  | ends r =>
    by_cases hr : r ∈ h
    · rw [next,if_pos hr] at hn
      obtain rfl := Option.some.inj hn
      rw [next,if_pos (Multiset.mem_add.mpr (.inl hr)),Multiset.erase_add_left_pos k hr]
    · rw [next,if_neg hr] at hn
      cases hn
  | uses r =>
    by_cases hr : r ∈ h
    · rw [next,if_pos hr] at hn
      obtain rfl := Option.some.inj hn
      rw [next,if_pos (Multiset.mem_add.mpr (.inl hr))]
    · rw [next,if_neg hr] at hn
      cases hn
  | quiet =>
    obtain rfl := Option.some.inj hn
    rfl

/-- What else is held stays. -/
theorem after_add (hl : after effect log h = some h') (k : Multiset ρ) :
    after effect log (h+k) = some (h'+k) := by
  induction log generalizing h with
  | nil =>
    obtain rfl := Option.some.inj hl
    rfl
  | cons e log ih =>
    rw [after] at hl ⊢
    cases hn : next h (effect e) with
    | none =>
      rw [hn] at hl
      cases hl
    | some h₁ =>
      rw [hn] at hl
      rw [next_add hn]
      exact ih hl

/-- Two logs about different resources. -/
theorem after_par (hl : after effect log h = some k) (hl' : after effect log' h' = some k') :
    after effect (log ++ log') (h+h') = some (k+k') := by
  rw [after_trans (after_add hl h'),Multiset.add_comm k,after_add hl' k,Multiset.add_comm]

section Lists
variable {α : Type*} {ev : α → E} {res : α → ρ} {l : List α}

/-- A list of resources is ended in its order. -/
theorem after_ends_map (he : ∀ a, effect (ev a) = .ends (res a)) (l : List α) :
    after effect (l.map ev) (l.map res : List ρ) = some 0 := by
  induction l with
  | nil => rfl
  | cons a l ih =>
    rw [List.map_cons,List.map_cons,← Multiset.cons_coe,after_ends (he a)]
    exact ih

lemma after_ends_reverse (he : ∀ a, effect (ev a) = .ends (res a)) (l : List α) :
    after effect (l.reverse.map ev) (l.map res : List ρ) = some 0 := by
  rw [← Multiset.coe_reverse,← List.map_reverse]
  exact after_ends_map he _

/-- What is used is held before and behind. -/
theorem after_uses_map (he : ∀ a, effect (ev a) = .uses (res a)) (hl : ∀ a ∈ l, res a ∈ h) :
    after effect (l.map ev) h = some h := by
  induction l with
  | nil => rfl
  | cons a l ih =>
    rw [List.map_cons,after_uses (he a) (hl a (.head _))]
    exact ih fun b hb => hl b (.tail _ hb)

end Lists

end GuestAdditions.Holding

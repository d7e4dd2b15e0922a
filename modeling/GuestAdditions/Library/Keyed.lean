import Mathlib.Data.List.Nodup
import Mathlib.Data.List.Perm.Basic

/-! Lists whose entries are found by a key: the first entry with a key is the one that counts, and it
is the one removed. Keys may occur more than once. -/
namespace GuestAdditions.Keyed

variable {α κ : Type*} [DecidableEq κ] {key : α → κ} {k j : κ} {a b : α} {l : List α}

/-- The first entry with the key `k`. -/
def firstAt (key : α → κ) (k : κ) (l : List α) : Option α := l.find? fun a => key a = k

/-- The list without its first entry with the key `k`. -/
def eraseAt (key : α → κ) (k : κ) (l : List α) : List α := l.eraseP fun a => key a = k

@[simp] lemma firstAt_nil : firstAt key k [] = none := rfl

lemma firstAt_cons_self (h : key a = k) : firstAt key k (a::l) = some a := by
  simp [firstAt, h]

lemma firstAt_cons_ne (h : key a ≠ k) : firstAt key k (a::l) = firstAt key k l := by
  simp [firstAt, h]

lemma mem_of_firstAt (h : firstAt key k l = some a) : a ∈ l ∧ key a = k :=
  ⟨List.mem_of_find?_eq_some h,by simpa using List.find?_some h⟩

lemma firstAt_eq_none : firstAt key k l = none ↔ ∀ a ∈ l, key a ≠ k := by
  simp [firstAt]

/-- A new entry at the end counts only where no other has its key. -/
theorem firstAt_append : firstAt key k (l ++ [b]) =
    (firstAt key k l).or (if key b = k then some b else none) := by
  rw [firstAt, List.find?_append]
  congr 1
  by_cases h : key b = k <;> simp [h]

lemma firstAt_append_of_some (h : firstAt key k l = some a) :
    firstAt key k (l ++ [b]) = some a := by
  rw [firstAt_append, h, Option.some_or]

lemma firstAt_append_of_ne (h : key b ≠ k) : firstAt key k (l ++ [b]) = firstAt key k l := by
  rw [firstAt_append, if_neg h, Option.or_none]

lemma firstAt_append_self (h : firstAt key (key b) l = none) :
    firstAt key (key b) (l ++ [b]) = some b := by
  rw [firstAt_append, h, if_pos rfl, Option.none_or]

lemma firstAt_eraseAt_of_ne (h : j ≠ k) : firstAt key j (eraseAt key k l) = firstAt key j l := by
  induction l with
  | nil => rfl
  | cons a l ih =>
    by_cases ha : key a = k
    · rw [eraseAt, List.eraseP_cons_of_pos (by simpa using ha),
        firstAt_cons_ne (fun hj => h (hj.symm.trans ha))]
    · rw [eraseAt, List.eraseP_cons_of_neg (by simpa using ha)]
      by_cases hj : key a = j
      · rw [firstAt_cons_self hj, firstAt_cons_self hj]
      · rw [firstAt_cons_ne hj, firstAt_cons_ne hj]
        exact ih

lemma perm_eraseAt (h : firstAt key k l = some a) : l.Perm (a::eraseAt key k l) := by
  induction l with
  | nil => simp at h
  | cons b l ih =>
    by_cases hb : key b = k
    · rw [firstAt_cons_self hb] at h
      obtain rfl := Option.some.inj h
      rw [eraseAt, List.eraseP_cons_of_pos (by simpa using hb)]
    · rw [firstAt_cons_ne hb] at h
      rw [eraseAt, List.eraseP_cons_of_neg (by simpa using hb)]
      exact ((ih h).cons b).trans (.swap _ _ _)

/-- Where the keys are distinct, the erased key is gone. -/
theorem firstAt_eraseAt_self (hn : (l.map key).Nodup) : firstAt key k (eraseAt key k l) = none := by
  cases hf : firstAt key k l with
  | none =>
    rw [eraseAt, List.eraseP_of_forall_not (by simpa [firstAt] using hf)]
    exact hf
  | some a =>
    have hkey := (mem_of_firstAt hf).2
    have hperm := ((perm_eraseAt hf).map key).nodup_iff.mp hn
    rw [List.map_cons, List.nodup_cons, hkey] at hperm
    exact firstAt_eq_none.mpr fun b hb hbk => hperm.1 (List.mem_map.mpr ⟨b,hb,hbk⟩)

/-- Where the keys are distinct, an entry is the first with its key. -/
theorem firstAt_of_mem (hn : (l.map key).Nodup) (ha : a ∈ l) : firstAt key (key a) l = some a := by
  cases hf : firstAt key (key a) l with
  | none => exact absurd rfl (firstAt_eq_none.mp hf a ha)
  | some b =>
    have hb := mem_of_firstAt hf
    exact congrArg some (List.inj_on_of_nodup_map hn hb.1 ha hb.2)

/-- Where the keys are distinct, an erasure drops every entry with the key. -/
theorem eraseAt_eq_filter (hn : (l.map key).Nodup) : eraseAt key k l = l.filter fun a => key a ≠ k := by
  induction l with
  | nil => rfl
  | cons a l ih =>
    rw [List.map_cons,List.nodup_cons] at hn
    by_cases ha : key a = k
    · rw [eraseAt,List.eraseP_cons_of_pos (by simpa using ha),List.filter_cons_of_neg (by simpa using ha)]
      refine (List.filter_eq_self.mpr fun b hb => ?_).symm
      have hne : key b ≠ k := fun hb' => hn.1 (ha.trans hb'.symm ▸ List.mem_map_of_mem hb)
      simpa using hne
    · rw [eraseAt,List.eraseP_cons_of_neg (by simpa using ha),List.filter_cons_of_pos (by simpa using ha)]
      exact congrArg (a::·) (ih hn.2)

section Leads
variable {ν : Type*} {val : α → ν} {live live' : List α}

/-- For every live item, the first entry with its key has its value. -/
def Leads (key : α → κ) (val : α → ν) (l live : List α) : Prop :=
  ∀ a ∈ live, (firstAt key (key a) l).map val = some (val a)

lemma Leads.mono (h : Leads key val l live) (hsub : live' ⊆ live) : Leads key val l live' :=
  fun a ha => h a (hsub ha)

lemma leads_perm (h : live.Perm live') : Leads key val l live ↔ Leads key val l live' :=
  ⟨fun hl => hl.mono h.symm.subset,fun hl => hl.mono h.subset⟩

lemma leads_cons (h : Leads key val l live) :
    Leads key val l (a::live) ↔ (firstAt key (key a) l).map val = some (val a) := by
  refine ⟨fun h' => h' a (.head _),fun ha b hb => ?_⟩
  rcases List.mem_cons.mp hb with rfl | hb
  · exact ha
  · exact h b hb

/-- A new entry at the end leaves every live item where it was. -/
theorem Leads.append (h : Leads key val l live) : Leads key val (l ++ [b]) live := by
  intro a ha
  obtain ⟨c,hc,hval⟩ := Option.map_eq_some_iff.mp (h a ha)
  rw [firstAt_append_of_some hc]
  exact congrArg some hval

/-- An item becomes live with its own entry, the last: an entry with its key must have its value. -/
theorem leads_cons_append (h : Leads key val l live) :
    Leads key val (l ++ [a]) (a::live) ↔ ∀ b, firstAt key (key a) l = some b → val b = val a := by
  rw [leads_cons h.append]
  cases hf : firstAt key (key a) l with
  | none => simp [firstAt_append_self hf]
  | some b => simp [firstAt_append_of_some hf]

/-- The first entry with a key goes, and the live item with its value: the values are distinct. -/
theorem Leads.erase (h : Leads key val l live) (hf : firstAt key k l = some b)
    (hlive : live.Perm (a::live')) (hval : val a = val b) (hn : (live.map val).Nodup) :
    Leads key val (eraseAt key k l) live' := by
  have hfresh := (hlive.map val).nodup_iff.mp hn
  rw [List.map_cons, List.nodup_cons] at hfresh
  intro c hc
  have hlead := h c (hlive.mem_iff.mpr (.tail _ hc))
  have hk : key c ≠ k := by
    intro hk
    rw [hk, hf] at hlead
    have hcb : val b = val c := Option.some.inj hlead
    exact hfresh.1 (List.mem_map.mpr ⟨c,hc,hcb.symm.trans hval.symm⟩)
  rw [firstAt_eraseAt_of_ne hk]
  exact hlead

end Leads
end GuestAdditions.Keyed

import Mathlib.Data.List.Dedup
import Mathlib.Data.List.Sort

/-! Text as the tools of a script see it: lines that are joined, words that are split off at
blanks, the field before the first separator, and a list sorted without its repetitions. -/
namespace GuestAdditions.Words

variable {α : Type*} {p : α → Bool} {nl : α} {w rest : List α} {ls : List (List α)}

/-- The text of which the given lists are the lines. -/
def unlines (nl : α) (ls : List (List α)) : List α := ls.flatMap (· ++ [nl])

/-- The nonempty pieces of a text between its blanks. -/
def words (p : α → Bool) (t : List α) : List (List α) := (t.splitOnP p).filter fun w => !w.isEmpty

/-- The text before the first separator. -/
def field (p : α → Bool) (t : List α) : List α := t.takeWhile fun c => !p c

/-- A list in the given order, each of its entries once. -/
def sortUnique (le : α → α → Prop) [DecidableRel le] [DecidableEq α] (l : List α) : List α :=
  (l.insertionSort le).dedup

lemma words_append_cons (hnl : p nl) (hw : w ≠ []) (h : ∀ c ∈ w, p c = false) (t : List α) :
    words p (w ++ nl :: t) = w :: words p t := by
  have hs : (w ++ nl :: t).splitOnP p = w :: t.splitOnP p :=
    List.splitOnP_append_cons_of_forall_mem h nl hnl t
  rw [words,hs,List.filter_cons_of_pos (by simpa using hw)]
  rfl

/-- Lines of one word each are the words of their text. -/
theorem words_unlines (hnl : p nl) (h : ∀ l ∈ ls, l ≠ [] ∧ ∀ c ∈ l, p c = false) :
    words p (unlines nl ls) = ls := by
  induction ls with
  | nil => rfl
  | cons l ls ih =>
    obtain ⟨hne,hl⟩ := h l (by simp)
    have ht := ih fun k hk => h k (by simp [hk])
    have hcons : unlines nl (l :: ls) = l ++ nl :: unlines nl ls := by simp [unlines]
    rw [hcons,words_append_cons hnl hne hl,ht]

/-- A field free of separators ends where the text does or where a separator stands. -/
theorem field_append (hw : ∀ c ∈ w, p c = false) (hr : ∀ c ∈ rest.head?, p c) :
    field p (w ++ rest) = w := by
  rw [field,List.takeWhile_append_of_pos (fun c hc => by simp [hw c hc])]
  cases rest with
  | nil => simp
  | cons c t =>
    have hc : p c := hr c rfl
    simp [hc]

section sorting
variable {le : α → α → Prop} [DecidableRel le] [DecidableEq α] {l : List α} {a : α}

@[simp] lemma mem_sortUnique : a ∈ sortUnique le l ↔ a ∈ l := by
  rw [sortUnique,List.mem_dedup,List.mem_insertionSort]

lemma nodup_sortUnique : (sortUnique le l).Nodup := List.nodup_dedup _

end sorting

end GuestAdditions.Words

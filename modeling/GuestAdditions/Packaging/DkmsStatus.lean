import GuestAdditions.Library.Words

/-! What `dkms status` prints about the package, in the formats of dkms 2.x and 3.x, and the
pipeline of `ga_install` that reads the registered versions off it. -/
namespace GuestAdditions
open Words

abbrev Str := List Char

/-- `@PKG@`. -/
def PKG : Str := "droidvm-guest-additions".toList

/-- The blanks of `IFS`. -/
def isBlank (c : Char) : Bool := c = ' ' || c = '\t' || c = '\n'

/-- The characters that make the shell take a word for a pattern. -/
def isGlob (c : Char) : Bool := c = '*' || c = '?' || c = '['

/-- `[,:]`, the separators after the version. -/
def isSep (c : Char) : Bool := c = ',' || c = ':'

/-- A version of the package: not empty, and free of what the text around it is made of. -/
structure Version where
  text : Str
  nonempty : text ≠ []
  plain : ∀ c ∈ text, (isBlank c || isGlob c || isSep c || c = '/') = false
deriving DecidableEq

/-- A registration: a version, the kernel and the architecture it was built for, the state and
what dkms remarks on it. -/
structure DkmsLine where
  version : Version
  kernel : Option Str
  arch : Option Str
  state : Str
  remark : Str

/-- The module of this registration is in the kernel's tree. -/
def DkmsLine.installed (l : DkmsLine) : Bool := l.state = "installed".toList

/-- dkms 2.x prints `name, version, kernel, …`, dkms 3.x prints `name/version, kernel, …`. -/
inductive DkmsFormat
  | two
  | three
deriving DecidableEq, Repr

def DkmsFormat.separator : DkmsFormat → Str
  | .two => ", ".toList
  | .three => "/".toList

/-- A field that may be missing. -/
def optField (f : Option Str) : Str := f.elim [] (", ".toList ++ ·)

/-- What follows the version on the line. -/
def DkmsLine.tail (l : DkmsLine) : Str :=
  optField l.kernel ++ optField l.arch ++ ": ".toList ++ l.state ++ l.remark

def DkmsLine.print (fmt : DkmsFormat) (l : DkmsLine) : Str :=
  PKG ++ fmt.separator ++ l.version.text ++ l.tail

/-- `s|^$PKG[/,] *||`. -/
def stripName (line : Str) : Str :=
  if PKG <+: line then
    match line.drop PKG.length with
    | c :: rest => if c = '/' ∨ c = ',' then rest.dropWhile (· = ' ') else line
    | [] => line
  else line

/-- `s|[,:].*||`. -/
def cutTail (line : Str) : Str := field isSep line

/-- `$(dkms status … | sed … | sort -u)` where the shell wants words: split at blanks, and
patterns replaced by the names that match them. -/
def strayWords (collate : Str → Str → Bool) (pathnames : Str → List Str) (lines : List Str) :
    List Str :=
  let out := unlines '\n' (sortUnique (fun a b => collate a b) (lines.map (cutTail ∘ stripName)))
  (words isBlank out).flatMap fun w => if w.any isGlob then pathnames w else [w]

lemma Version.ext {v w : Version} (h : v.text = w.text) : v = w := by
  cases v
  cases w
  cases h
  rfl

section plain
variable (v : Version) {c : Char}

lemma Version.not_blank (hc : c ∈ v.text) : isBlank c = false := by
  have h := v.plain c hc
  grind

lemma Version.not_glob (hc : c ∈ v.text) : isGlob c = false := by
  have h := v.plain c hc
  grind

lemma Version.not_sep (hc : c ∈ v.text) : isSep c = false := by
  have h := v.plain c hc
  grind

end plain

lemma tail_head (l : DkmsLine) : ∀ c ∈ l.tail.head?, isSep c := by
  have hfields : ∀ f : Option Str, ∀ t : Str, (∀ c ∈ t.head?, isSep c) →
      ∀ c ∈ (optField f ++ t).head?, isSep c := by
    intro f t ht
    cases f with
    | none => exact ht
    | some k =>
      intro c hc
      cases hc
      decide
  rw [DkmsLine.tail]
  simp only [List.append_assoc]
  apply hfields
  apply hfields
  intro c hc
  cases hc
  decide

lemma dropWhile_version (v : Version) (t : Str) :
    (v.text ++ t).dropWhile (· = ' ') = v.text ++ t := by
  obtain ⟨c,rest,hv⟩ := List.exists_cons_of_ne_nil v.nonempty
  have hc := v.not_blank (c := c) (by simp [hv])
  have hne : c ≠ ' ' := by
    intro h
    simp [isBlank,h] at hc
  simp [hv,hne]

/-- Both formats leave the version and its tail. -/
theorem stripName_print (fmt : DkmsFormat) (l : DkmsLine) :
    stripName (l.print fmt) = l.version.text ++ l.tail := by
  have hp : l.print fmt = PKG ++ (fmt.separator ++ (l.version.text ++ l.tail)) := by
    simp [DkmsLine.print]
  have hpre : PKG <+: l.print fmt := by
    rw [hp]
    exact List.prefix_append _ _
  rw [stripName,if_pos hpre,hp,List.drop_left]
  cases fmt with
  | two =>
    change (if ',' = '/' ∨ ',' = ',' then (' ' :: (l.version.text ++ l.tail)).dropWhile (· = ' ')
      else _) = _
    rw [if_pos (Or.inr rfl),List.dropWhile_cons_of_pos (by simp)]
    exact dropWhile_version l.version l.tail
  | three =>
    change (if '/' = '/' ∨ '/' = ',' then (l.version.text ++ l.tail).dropWhile (· = ' ')
      else _) = _
    rw [if_pos (Or.inl rfl)]
    exact dropWhile_version l.version l.tail

/-- Either substitution reads the version off the line, whatever follows it. -/
theorem cutTail_stripName (fmt : DkmsFormat) (l : DkmsLine) :
    cutTail (stripName (l.print fmt)) = l.version.text := by
  rw [stripName_print,cutTail]
  exact field_append (fun c hc => l.version.not_sep hc) (tail_head l)

section stray
variable {collate : Str → Str → Bool} {pathnames : Str → List Str} {fmt : DkmsFormat}
  {lines : List DkmsLine}

/-- The words are the registered versions, in the order of `sort`. -/
theorem strayWords_print : strayWords collate pathnames (lines.map (·.print fmt)) =
    sortUnique (fun a b => collate a b) (lines.map (·.version.text)) := by
  have hmap : (lines.map (·.print fmt)).map (cutTail ∘ stripName) =
      lines.map (·.version.text) := by
    rw [List.map_map]
    apply List.map_congr_left
    intro l _
    exact cutTail_stripName fmt l
  have hplain : ∀ w ∈ sortUnique (fun a b => collate a b) (lines.map (·.version.text)),
      ∃ v : Version, v.text = w := by
    intro w hw
    obtain ⟨l,-,hl⟩ := List.mem_map.mp (mem_sortUnique.mp hw)
    exact ⟨l.version,hl⟩
  rw [strayWords,hmap,words_unlines (by decide)]
  · rw [List.flatMap_congr (g := fun w => [w])]
    · simp
    · intro w hw
      obtain ⟨v,rfl⟩ := hplain w hw
      have hg : v.text.any isGlob = false := by
        rw [List.any_eq_false]
        intro c hc
        simp [v.not_glob hc]
      rw [hg]
      rfl
  · intro w hw
    obtain ⟨v,rfl⟩ := hplain w hw
    exact ⟨v.nonempty,fun c hc => v.not_blank hc⟩

end stray

end GuestAdditions

import Mathlib.Algebra.Group.Nat.Even
import NamedCells.Proofs.WrittenCommands

/-!
# The two forms of a word

A word of a command has been written in one of two ways.  Between quotation marks it may hold
anything but such a mark; without them it may hold marks, only not at its beginning, but no blanks.
So a word that holds both a mark and a blank cannot be written at all.

Here a text is taken apart from its words, the other way round than in `WrittenCommands`: if the
text has a first word, then it begins with blanks and one of the two forms of the word, and what is
left has the other words.

## Main definitions

* `Token.Spelled text word` — `text` is one of the two forms of `word`.

## Main results

* `Token.exists_spelled` — **the first word of a text is spelled in it.**
* `Token.Spelled.scan` — and what is spelled is read as the word.
-/

namespace NamedCells.Token

/-- The two forms of a word. -/
inductive Spelled : List Char → List Char → Prop
  /-- In quotation marks, and without such a mark within. -/
  | quoted {word : List Char} (noMark : '"' ∉ word) : Spelled ('"' :: (word ++ ['"'])) word
  /-- As it is, without blanks, and not with a quotation mark in front. -/
  | bare {word : List Char} (nonempty : word ≠ []) (visible : ∀ c ∈ word, Text.isBlank c = false)
    (noMark : word.head? ≠ some '"') : Spelled word word

variable {cs rest text word before : List Char} {words : List (List Char)}

/-! ### From words to their forms -/

/-- A word that has begun in quotation marks ends at the next mark. -/
theorem exists_of_scan_quoted (read : scan (.quoted before) cs = some words) :
    ∃ word rest others, cs = word ++ '"' :: rest ∧ '"' ∉ word ∧ scan .gap rest = some others ∧
      words = (before.reverse ++ word) :: others := by
  induction cs generalizing before with
  | nil => cases read
  | cons c cs ih =>
    rw [scan] at read
    by_cases mark : c = '"'
    · rw [if_pos mark] at read
      obtain ⟨others, behind, rfl⟩ := Option.map_eq_some_iff.mp read
      exact ⟨[], cs, others, by rw [mark, List.nil_append], List.not_mem_nil, behind, by simp⟩
    · rw [if_neg mark] at read
      obtain ⟨word, rest, others, rfl, noMark, behind, rfl⟩ := ih read
      refine ⟨c :: word, rest, others, rfl, ?_, behind, by simp⟩
      simp [noMark, Ne.symm mark]

/-- A word that has begun without marks ends at the next blank, or with the text. -/
theorem exists_of_scan_bare (read : scan (.bare before) cs = some words) :
    ∃ word rest others, cs = word ++ rest ∧ (∀ c ∈ word, Text.isBlank c = false) ∧
      scan .gap rest = some others ∧ words = (before.reverse ++ word) :: others := by
  induction cs generalizing before with
  | nil =>
    obtain rfl := Option.some.inj read
    exact ⟨[], [], [], rfl, by simp, rfl, by simp⟩
  | cons c cs ih =>
    rw [scan] at read
    by_cases blank : Text.isBlank c = true
    · rw [if_pos blank] at read
      obtain ⟨others, behind, rfl⟩ := Option.map_eq_some_iff.mp read
      have left : scan .gap (c :: cs) = some others := by rw [scan, if_pos blank, behind]
      exact ⟨[], c :: cs, others, rfl, by simp, left, by simp⟩
    · rw [if_neg blank] at read
      obtain ⟨word, rest, others, rfl, visible, behind, rfl⟩ := ih read
      refine ⟨c :: word, rest, others, rfl, ?_, behind, by simp⟩
      simpa [blank] using visible

/-- **The first word of a text is spelled in it**, behind blanks, and the other words are those of
what is left. -/
theorem exists_spelled (read : scan .gap cs = some (word :: words)) :
    ∃ gap text rest, cs = gap ++ (text ++ rest) ∧ (∀ c ∈ gap, Text.isBlank c = true) ∧
      Spelled text word ∧ scan .gap rest = some words := by
  induction cs with
  | nil => cases read
  | cons c cs ih =>
    rw [scan] at read
    by_cases blank : Text.isBlank c = true
    · rw [if_pos blank] at read
      obtain ⟨gap, text, rest, rfl, blanks, spelled, behind⟩ := ih read
      refine ⟨c :: gap, text, rest, rfl, ?_, spelled, behind⟩
      simpa [blank] using blanks
    rw [if_neg blank] at read
    by_cases mark : c = '"'
    · rw [if_pos mark] at read
      obtain ⟨_, rest, others, rfl, noMark, behind, same⟩ := exists_of_scan_quoted read
      obtain ⟨rfl, rfl⟩ := List.cons.inj same
      refine ⟨[], '"' :: (word ++ ['"']), rest, ?_, by simp, .quoted noMark, behind⟩
      simp [mark]
    · rw [if_neg mark] at read
      obtain ⟨tail, rest, others, rfl, visible, behind, same⟩ := exists_of_scan_bare read
      obtain ⟨rfl, rfl⟩ := List.cons.inj same
      refine ⟨[], c :: tail, rest, rfl, by simp, .bare (by simp) ?_ ?_, behind⟩
      · simpa [blank] using visible
      · simpa using mark

/-! ### From the forms to the words -/

/-- **What is spelled is read as the word**, if nothing follows that would go on with it. -/
theorem Spelled.scan (spelled : Spelled text word) (follows : Follows rest words) :
    scan .gap (text ++ rest) = some (word :: words) := by
  cases spelled with
  | quoted noMark =>
    have shape : '"' :: (word ++ ['"']) ++ rest = '"' :: (word ++ '"' :: rest) := by simp
    rw [shape, scan_quoted noMark follows.alone]
  | bare nonempty visible noMark =>
    obtain ⟨c, tail, rfl⟩ := List.exists_cons_of_ne_nil nonempty
    obtain ⟨first, visible⟩ := List.forall_mem_cons.mp visible
    have other : c ≠ '"' := by simpa using noMark
    rw [List.cons_append, Token.scan, if_neg (by simp [first]), if_neg other,
      scan_bare_append visible follows]
    rfl

/-- A form of a word holds all its characters. -/
theorem Spelled.subset (spelled : Spelled text word) : word ⊆ text := by
  cases spelled with
  | quoted noMark =>
    intro c mem
    exact List.mem_cons_of_mem _ (List.mem_append_left _ mem)
  | bare => exact List.Subset.refl _

/-- A word without marks is written with none of them or with two. -/
theorem Spelled.even_count (spelled : Spelled text word) (noMark : '"' ∉ word) :
    Even (text.count '"') := by
  have none : word.count '"' = 0 := List.count_eq_zero.mpr noMark
  cases spelled with
  | quoted =>
    have two : ('"' :: (word ++ ['"'])).count '"' = 1 + 1 := by simp [none]
    exact ⟨1, two⟩
  | bare => exact ⟨0, none⟩

end NamedCells.Token

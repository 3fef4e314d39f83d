import Mathlib.Data.List.DropRight
import NamedCells.Text.Blank

/-!
# Trimming

Trimming takes the blanks off both ends of a text and nothing else.  So blanks that are put after a
text do not matter, and a character that is no blank keeps everything on its inner side.

## Main definitions

* `Text.Sealed` — no blank stands at the end of a text.

## Main results

* `Text.trim_append_of_blank` — blanks after a text are lost.
* `Text.trim_append_cons` — a text that goes on after its first character that is no blank.
* `Text.trim_of_sealed` — a text without blanks at its ends is left as it is.
* `Text.trim_eq_self_iff` — and no other text is.
* `Text.exists_trim` — what trimming takes off.
-/

namespace NamedCells.Text

/-- Blanks at the end are lost. -/
theorem trimEnd_append_of_blank (xs : List Char) {ys : List Char}
    (h : ∀ c ∈ ys, isBlank c = true) : trimEnd (xs ++ ys) = trimEnd xs := by
  have reversed : ∀ c ∈ ys.reverse, isBlank c = true := by simpa using h
  rw [trimEnd, List.reverse_append, List.dropWhile_append_of_pos reversed, trimEnd]

/-- Nothing before a character that is no blank is lost at the end. -/
theorem trimEnd_append_cons (xs : List Char) {c : Char} (h : isBlank c = false)
    (ys : List Char) : trimEnd (xs ++ c :: ys) = xs ++ c :: trimEnd ys := by
  rw [trimEnd, trimEnd, List.reverse_append, List.reverse_cons, List.append_assoc,
    List.dropWhile_append]
  split
  · next none =>
    rw [List.isEmpty_iff] at none
    simp [none, h]
  · simp

/-- A text begins with blanks, which are all of it or end at a character that is no blank. -/
theorem trimStart_cases (cs : List Char) :
    (∀ c ∈ cs, isBlank c = true) ∨
      ∃ c rest, isBlank c = false ∧ trimStart cs = c :: rest ∧
        ∀ more, trimStart (cs ++ more) = c :: rest ++ more := by
  induction cs with
  | nil => exact .inl (by simp)
  | cons c cs ih =>
    cases blank : isBlank c with
    | true =>
      rcases ih with all | ⟨d, rest, visible, start, longer⟩
      · exact .inl (by simpa [blank] using all)
      · refine .inr ⟨d, rest, visible, ?_, fun more => ?_⟩
        · rw [← start, trimStart, List.dropWhile_cons_of_pos blank, trimStart]
        · rw [← longer more, trimStart, List.cons_append, List.dropWhile_cons_of_pos blank,
            trimStart]
    | false =>
      have visible : ¬ isBlank c = true := by simp [blank]
      refine .inr ⟨c, cs, blank, ?_, fun more => ?_⟩
      · rw [trimStart, List.dropWhile_cons_of_neg visible]
      · rw [trimStart, List.cons_append, List.dropWhile_cons_of_neg visible]

theorem trimStart_eq_nil {cs : List Char} (h : ∀ c ∈ cs, isBlank c = true) :
    trimStart cs = [] := List.dropWhile_eq_nil_iff.mpr h

theorem trim_eq_nil {cs : List Char} (h : ∀ c ∈ cs, isBlank c = true) : trim cs = [] := by
  rw [trim, trimStart_eq_nil h]
  rfl

/-- Blanks after a text are lost. -/
theorem trim_append_of_blank (xs : List Char) {ys : List Char}
    (h : ∀ c ∈ ys, isBlank c = true) : trim (xs ++ ys) = trim xs := by
  rcases trimStart_cases xs with all | ⟨c, rest, -, start, longer⟩
  · -- with blanks only, on both sides nothing is left
    rw [trim_eq_nil all, trim_eq_nil]
    intro c mem
    rcases List.mem_append.mp mem with mem | mem
    · exact all c mem
    · exact h c mem
  · rw [trim, longer, trimEnd_append_of_blank _ h, trim, start]

/-- A text whose first character that is no blank is `c`: trimming keeps `c` in front, and all of
the text if it goes on with another character that is no blank. -/
theorem trim_append_cons {cs rest : List Char} {c : Char} (visible : isBlank c = false)
    (start : trimStart cs = c :: rest)
    (longer : ∀ more, trimStart (cs ++ more) = c :: rest ++ more) :
    trim cs = c :: trimEnd rest ∧ ∀ {d : Char}, isBlank d = false → ∀ more,
      trim (cs ++ d :: more) = c :: rest ++ d :: trimEnd more := by
  constructor
  · rw [trim, start]
    exact trimEnd_append_cons [] visible rest
  · intro d shown more
    rw [trim, longer, trimEnd_append_cons _ shown]

theorem trim_cons_of_blank {c : Char} (blank : isBlank c = true) (cs : List Char) :
    trim (c :: cs) = trim cs := by
  rw [trim, trimStart, List.dropWhile_cons_of_pos blank]
  rfl

/-- A text with a character at its end that is not blank. -/
def Sealed (cs : List Char) : Prop := ∃ front c, cs = front ++ [c] ∧ isBlank c = false

theorem Sealed.append (xs : List Char) {cs : List Char} (ends : Sealed cs) : Sealed (xs ++ cs) := by
  obtain ⟨front, c, rfl, visible⟩ := ends
  exact ⟨xs ++ front, c, (List.append_assoc ..).symm, visible⟩

/-- Trimming leaves a text as it is that neither begins nor ends with a blank. -/
theorem trim_of_sealed {c : Char} {cs : List Char} (visible : isBlank c = false)
    (ends : Sealed (c :: cs)) : trim (c :: cs) = c :: cs := by
  have start : trimStart (c :: cs) = c :: cs := List.dropWhile_cons_of_neg (by simp [visible])
  obtain ⟨front, d, whole, last⟩ := ends
  rw [trim, start, whole, trimEnd_append_cons front last []]
  rfl

/-- A text that was trimmed has nothing left to trim. -/
theorem trim_trim (cs : List Char) : trim (trim cs) = trim cs := by
  rcases trimStart_cases cs with all | ⟨c, rest, visible, start, longer⟩
  · rw [trim_eq_nil all, trim_nil]
  · have begins : trimStart (c :: trimEnd rest) = c :: trimEnd rest :=
      List.dropWhile_cons_of_neg (by simp [visible])
    have ended : trimEnd (trimEnd rest) = trimEnd rest := List.rdropWhile_idempotent isBlank rest
    rw [(trim_append_cons visible start longer).1, trim, begins,
      ← List.nil_append (c :: trimEnd rest), trimEnd_append_cons [] visible, ended]

/-- Trimming the end never makes a text longer. -/
theorem length_trimEnd_le (cs : List Char) : (trimEnd cs).length ≤ cs.length :=
  (List.rdropWhile_prefix isBlank cs).length_le

/-- **Trimming leaves a text as it is iff no blank stands at either end.** -/
theorem trim_eq_self_iff {cs : List Char} :
    trim cs = cs ↔
      (∀ c ∈ cs.head?, isBlank c = false) ∧ ∀ c ∈ cs.getLast?, isBlank c = false := by
  constructor
  · intro kept
    -- what is cut off at one end is not made up for at the other
    have start : trimStart cs <:+ cs := List.dropWhile_suffix isBlank
    have length : cs.length ≤ (trimStart cs).length := by
      calc cs.length
          = (trim cs).length := by rw [kept]
        _ ≤ (trimStart cs).length := length_trimEnd_le _
    have whole : trimStart cs = cs := start.eq_of_length (Nat.le_antisymm start.length_le length)
    rw [trim, whole] at kept
    constructor
    · intro c first
      obtain ⟨rest, rfl⟩ := List.head?_eq_some_iff.mp first
      simpa using List.dropWhile_eq_self_iff.mp whole (Nat.succ_pos _)
    · intro c last
      obtain ⟨front, rfl⟩ := List.getLast?_eq_some_iff.mp last
      simpa using List.rdropWhile_eq_self_iff.mp kept (by simp)
  · rintro ⟨first, last⟩
    cases cs with
    | nil => rfl
    | cons c rest =>
      have some : c :: rest ≠ [] := List.cons_ne_nil c rest
      refine trim_of_sealed (first c rfl) ⟨(c :: rest).dropLast, (c :: rest).getLast some, ?_, ?_⟩
      · exact (List.dropLast_append_getLast some).symm
      · exact last _ (List.getLast?_eq_getLast_of_ne_nil some)

/-- What trimming takes off are blanks at the two ends. -/
theorem exists_trim (cs : List Char) :
    ∃ front back, cs = front ++ (trim cs ++ back) ∧ (∀ c ∈ front, isBlank c = true) ∧
      ∀ c ∈ back, isBlank c = true := by
  refine ⟨cs.takeWhile isBlank, (trimStart cs).rtakeWhile isBlank, ?_, ?_, ?_⟩
  · have ends : trim cs ++ (trimStart cs).rtakeWhile isBlank = trimStart cs :=
      List.rdropWhile_append_rtakeWhile
    rw [ends]
    exact List.takeWhile_append_dropWhile.symm
  · intro c mem
    exact List.mem_takeWhile_imp mem
  · intro c mem
    exact List.mem_rtakeWhile_imp mem

end NamedCells.Text

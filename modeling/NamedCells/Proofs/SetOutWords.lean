import Mathlib.Data.Bool.AllAny
import NamedCells.Proofs.Trim
import NamedCells.Proofs.WordForms

/-!
# Words set out in a text

Words are set out in a text one after the other, each in one of its two forms, with blanks between
every two of them and as many as one likes at the ends.  Reading such a text gives the words, and
the words of any text can be set out, as none of them is without a form.

Not every text has words: a word that begins with a quotation mark must have another one behind it.
Where a word begins is said here without the reader, by what may stand in front of it.  A mark
within a word that began without one does not count, and a word in quotation marks may be followed
by the next one at once.

## Main definitions

* `Token.Writable word` — the word has a form.
* `Token.SetOut text words` — the words are set out in the text.
* `Token.render words` — a text in which words are set out.
* `Token.Ended text` — a text behind which a word may begin.
* `Token.LeavesOpen text` — a quotation mark that begins a word has no other one behind it.

## Main results

* `Token.SetOut.words?_eq` — words that are set out are read.
* `Token.writable_of_mem_words?`, `Token.setOut_render` — words that were read can be set out.
* `Token.words?_eq_none_iff` — a text has no words iff a quotation mark is left open in it.
* `words_round_trip` — **words are read as they are set out.**
-/

namespace NamedCells

namespace Token

/-- The words that have a form: those without a quotation mark, and those that are not empty, hold
no blanks and do not begin with such a mark. -/
def Writable (word : List Char) : Prop :=
  '"' ∉ word ∨
    word ≠ [] ∧ (∀ c ∈ word, Text.isBlank c = false) ∧ word.head? ≠ some '"'

/-- What stands behind a word: at least one blank in front of each further word, and blanks at the
end. -/
inductive SetOutBehind : List Char → List (List Char) → Prop
  | last {back : List Char} (blanks : ∀ c ∈ back, Text.isBlank c = true) : SetOutBehind back []
  | next {gap text rest word : List Char} {words : List (List Char)} (nonempty : gap ≠ [])
    (blanks : ∀ c ∈ gap, Text.isBlank c = true) (spelled : Spelled text word)
    (others : SetOutBehind rest words) : SetOutBehind (gap ++ (text ++ rest)) (word :: words)

/-- Words are set out in a text: each of them in one of its forms, with blanks in front, between
every two and at the end. -/
inductive SetOut : List Char → List (List Char) → Prop
  | nothing {back : List Char} (blanks : ∀ c ∈ back, Text.isBlank c = true) : SetOut back []
  | first {front text rest word : List Char} {words : List (List Char)}
    (blanks : ∀ c ∈ front, Text.isBlank c = true) (spelled : Spelled text word)
    (others : SetOutBehind rest words) : SetOut (front ++ (text ++ rest)) (word :: words)

/-- One of the forms of a word: in quotation marks, unless such a mark is in it. -/
def form (word : List Char) : List Char :=
  if '"' ∈ word then word else '"' :: (word ++ ['"'])

/-- Words with blanks between them. -/
def render (words : List (List Char)) : List Char := [' '].intercalate (words.map form)

/-- The texts behind which a word may begin: blanks, words in quotation marks, and words without
them that a blank ends. -/
inductive Ended : List Char → Prop
  | nil : Ended []
  | blank {c : Char} {rest : List Char} (isBlank : Text.isBlank c = true) (others : Ended rest) :
    Ended (c :: rest)
  | quoted {word rest : List Char} (noMark : '"' ∉ word) (others : Ended rest) :
    Ended ('"' :: (word ++ '"' :: rest))
  | bare {c d : Char} {word rest : List Char} (first : Text.isBlank c = false) (noMark : c ≠ '"')
    (visible : ∀ c ∈ word, Text.isBlank c = false) (isBlank : Text.isBlank d = true)
    (others : Ended rest) : Ended (c :: (word ++ d :: rest))

/-- A quotation mark that begins a word has no other one behind it. -/
def LeavesOpen (cs : List Char) : Prop :=
  ∃ before after, cs = before ++ '"' :: after ∧ Ended before ∧ '"' ∉ after

variable {cs rest text word before : List Char} {words : List (List Char)}

/-! ### What is set out is read -/

theorem SetOutBehind.follows (setOut : SetOutBehind text words) : Follows text words := by
  induction setOut with
  | @last back blanks =>
    by_cases nothing : back = []
    · rw [nothing]
      exact follows_nil
    · rw [← List.append_nil back]
      exact follows_blanks nothing blanks rfl
  | next nonempty blanks spelled others ih =>
    exact follows_blanks nonempty blanks (spelled.scan ih)

/-- **Words that are set out are read.** -/
theorem SetOut.words?_eq (setOut : SetOut text words) : words? text = some words := by
  cases setOut with
  | nothing blanks => exact (SetOutBehind.last blanks).follows.alone
  | first blanks spelled others =>
    rw [words?, scan_gap_append blanks, spelled.scan others.follows]

/-! ### What was read can be set out -/

theorem writable_iff : Writable word ↔ ∃ text, Spelled text word := by
  constructor
  · rintro (noMark | ⟨nonempty, visible, noMark⟩)
    · exact ⟨_, .quoted noMark⟩
    · exact ⟨_, .bare nonempty visible noMark⟩
  · rintro ⟨text, spelled⟩
    cases spelled with
    | quoted noMark => exact .inl noMark
    | bare nonempty visible noMark => exact .inr ⟨nonempty, visible, noMark⟩

theorem spelled_form (writable : Writable word) : Spelled (form word) word := by
  unfold form
  split
  · next mark =>
    obtain ⟨nonempty, visible, noMark⟩ := writable.resolve_left (not_not.mpr mark)
    exact .bare nonempty visible noMark
  · next noMark => exact .quoted noMark

/-- **Every word of a text has a form.** -/
theorem writable_of_mem_words? (read : words? cs = some words) :
    ∀ word ∈ words, Writable word := by
  rw [words?] at read
  induction words generalizing cs with
  | nil => exact fun word mem => absurd mem List.not_mem_nil
  | cons word words ih =>
    obtain ⟨gap, text, rest, rfl, blanks, spelled, behind⟩ := exists_spelled read
    exact List.forall_mem_cons.mpr ⟨writable_iff.mpr ⟨text, spelled⟩, ih behind⟩

/-- Behind a word that is rendered the other words are set out. -/
theorem exists_setOutBehind (word : List Char) (writable : ∀ word ∈ words, Writable word) :
    ∃ rest, render (word :: words) = form word ++ rest ∧ SetOutBehind rest words := by
  have space : ∀ c ∈ [' '], Text.isBlank c = true := List.forall_mem_singleton.mpr (by decide)
  induction words generalizing word with
  | nil => exact ⟨[], by simp [render], .last (by simp)⟩
  | cons next words ih =>
    obtain ⟨first, others⟩ := List.forall_mem_cons.mp writable
    obtain ⟨rest, shape, setOut⟩ := ih next others
    refine ⟨[' '] ++ (form next ++ rest), ?_, .next (by simp) space (spelled_form first) setOut⟩
    rw [← shape]
    simp [render, List.intercalate_cons_cons]

/-- **Words that have forms can be set out.** -/
theorem setOut_render (writable : ∀ word ∈ words, Writable word) :
    SetOut (render words) words := by
  cases words with
  | nil => exact .nothing (by simp [render])
  | cons word words =>
    obtain ⟨first, others⟩ := List.forall_mem_cons.mp writable
    obtain ⟨rest, shape, setOut⟩ := exists_setOutBehind word others
    have front : ∀ c ∈ ([] : List Char), Text.isBlank c = true := by simp
    rw [shape]
    exact .first front (spelled_form first) setOut

/-! ### Where words begin -/

/-- A word that has begun without a quotation mark ends at a blank. -/
theorem scan_bare_blank {c : Char} (visible : ∀ c ∈ cs, Text.isBlank c = false)
    (blank : Text.isBlank c = true) (rest : List Char) :
    scan (.bare before) (cs ++ c :: rest) =
      (scan .gap rest).map ((before.reverse ++ cs) :: ·) := by
  induction cs generalizing before with
  | nil => simp [scan, blank]
  | cons d cs ih =>
    obtain ⟨first, others⟩ := List.forall_mem_cons.mp visible
    rw [List.cons_append, scan, if_neg (by simp [first]), ih others]
    simp

/-- A quotation mark is left open in a text without others. -/
theorem scan_quoted_eq_none (noMark : '"' ∉ cs) : scan (.quoted before) cs = none := by
  induction cs generalizing before with
  | nil => rfl
  | cons c cs ih =>
    rw [List.mem_cons, not_or] at noMark
    rw [scan, if_neg (Ne.symm noMark.1), ih noMark.2]

/-- Behind a text that ends between two words the reader begins anew. -/
theorem Ended.scan_append (ended : Ended cs) :
    ∃ words, ∀ rest, scan .gap (cs ++ rest) = (scan .gap rest).map (words ++ ·) := by
  induction ended with
  | nil => exact ⟨[], fun rest => by simp⟩
  | blank isBlank others ih =>
    obtain ⟨words, anew⟩ := ih
    exact ⟨words, fun rest => by rw [List.cons_append, scan, if_pos isBlank, anew]⟩
  | @quoted word behind noMark others ih =>
    obtain ⟨words, anew⟩ := ih
    refine ⟨word :: words, fun rest => ?_⟩
    have visible : ¬ Text.isBlank '"' = true := by decide
    rw [List.cons_append, scan, if_neg visible, if_pos rfl, List.append_assoc, List.cons_append,
      scan_quoted_append noMark, anew, Option.map_map]
    rfl
  | @bare c d word behind first noMark visible isBlank others ih =>
    obtain ⟨words, anew⟩ := ih
    refine ⟨(c :: word) :: words, fun rest => ?_⟩
    rw [List.cons_append, scan, if_neg (by simp [first]), if_neg noMark, List.append_assoc,
      List.cons_append, scan_bare_blank visible isBlank, anew, Option.map_map]
    rfl

theorem Ended.append (front : Ended cs) (back : Ended rest) : Ended (cs ++ rest) := by
  induction front with
  | nil => exact back
  | blank isBlank others ih => exact .blank isBlank ih
  | quoted noMark others ih =>
    rw [List.cons_append, List.append_assoc, List.cons_append]
    exact .quoted noMark ih
  | bare first noMark visible isBlank others ih =>
    rw [List.cons_append, List.append_assoc, List.cons_append]
    exact .bare first noMark visible isBlank ih

/-- What ends between two words leaves nothing open by itself. -/
theorem LeavesOpen.append (leavesOpen : LeavesOpen rest) (ended : Ended cs) :
    LeavesOpen (cs ++ rest) := by
  obtain ⟨before, after, rfl, front, noMark⟩ := leavesOpen
  exact ⟨cs ++ before, after, (List.append_assoc ..).symm, ended.append front, noMark⟩

/-- A text without words begins with a quotation mark that is left open, or there is something in
front of a shorter one without words: a blank, or the whole of a word. -/
theorem scan_gap_eq_none_cases (failed : scan .gap cs = none) :
    (∃ after, cs = '"' :: after ∧ '"' ∉ after) ∨
      ∃ front rest, cs = front ++ rest ∧ front ≠ [] ∧ Ended front ∧ scan .gap rest = none := by
  cases cs with
  | nil => cases failed
  | cons c cs =>
    rw [scan] at failed
    by_cases blank : Text.isBlank c = true
    · rw [if_pos blank] at failed
      exact .inr ⟨[c], cs, rfl, by simp, .blank blank .nil, failed⟩
    rw [if_neg blank] at failed
    rw [Bool.not_eq_true] at blank
    by_cases mark : c = '"'
    · rw [if_pos mark] at failed
      subst mark
      by_cases closed : '"' ∈ cs
      · obtain ⟨word, rest, rfl, noMark⟩ := List.eq_append_cons_of_mem closed
        rw [scan_quoted_append noMark, Option.map_eq_none_iff] at failed
        refine .inr ⟨'"' :: (word ++ ['"']), rest, by simp, by simp, ?_, failed⟩
        exact .quoted noMark .nil
      · exact .inl ⟨cs, rfl, closed⟩
    · rw [if_neg mark] at failed
      cases search : cs.find? Text.isBlank with
      | none =>
        have visible : ∀ d ∈ cs, Text.isBlank d = false := by simpa using search
        rw [← List.append_nil cs, scan_bare_append visible follows_nil] at failed
        cases failed
      | some d =>
        obtain ⟨isBlank, word, rest, rfl, visible⟩ := List.find?_eq_some_iff_append.mp search
        have visible : ∀ d ∈ word, Text.isBlank d = false := by simpa using visible
        rw [scan_bare_blank visible isBlank, Option.map_eq_none_iff] at failed
        refine .inr ⟨c :: (word ++ [d]), rest, by simp, by simp, ?_, failed⟩
        exact .bare blank mark visible isBlank .nil

/-- A text without words leaves a quotation mark open.  What is in front of the mark is taken off
one blank or one word at a time. -/
theorem leavesOpen_of_scan_eq_none (failed : scan .gap cs = none) : LeavesOpen cs := by
  induction length : cs.length using Nat.strongRecOn generalizing cs with
  | ind n shorter =>
    subst length
    rcases scan_gap_eq_none_cases failed with
      ⟨after, rfl, noMark⟩ | ⟨front, rest, rfl, some, ended, failed⟩
    · exact ⟨[], after, rfl, .nil, noMark⟩
    · have less : rest.length < (front ++ rest).length := by
        rw [List.length_append]
        exact Nat.lt_add_of_pos_left (List.length_pos_of_ne_nil some)
      exact (shorter _ less failed rfl).append ended

/-- **A text has no words iff a quotation mark is left open in it.** -/
theorem words?_eq_none_iff : words? cs = none ↔ LeavesOpen cs := by
  constructor
  · exact leavesOpen_of_scan_eq_none
  · rintro ⟨before, after, rfl, ended, noMark⟩
    have visible : ¬ Text.isBlank '"' = true := by decide
    obtain ⟨words, anew⟩ := ended.scan_append
    rw [words?, anew, scan, if_neg visible, if_pos rfl, scan_quoted_eq_none noMark,
      Option.map_none]

/-! ### Blanks at the ends -/

theorem scan_append_of_blank {state : State} (blank : ∀ c ∈ rest, Text.isBlank c = true) :
    scan state (cs ++ rest) = scan state cs := by
  induction cs generalizing state with
  | nil =>
    cases state with
    | gap => exact (SetOutBehind.last blank).follows.alone
    | bare word => exact (SetOutBehind.last blank).follows.ends word
    | quoted word =>
      have noMark : '"' ∉ rest := fun mem => absurd (blank _ mem) (by decide)
      exact scan_quoted_eq_none noMark
  | cons c cs ih =>
    cases state <;> simp only [List.cons_append, scan, ih]

/-- Blanks at the ends of a text do not change its words. -/
theorem words?_trim (cs : List Char) : words? (Text.trim cs) = words? cs := by
  obtain ⟨front, back, whole, blankFront, blankBack⟩ := Text.exists_trim cs
  conv_rhs => rw [whole]
  rw [words?, words?, scan_gap_append blankFront, scan_append_of_blank blankBack]

end Token

/-! ### Commands -/

namespace Command

theorem ofKeyword_ne_unterminatedQuote (k : Keyword) (arguments : List (List Char)) :
    ofKeyword k arguments ≠ .error .unterminatedQuote := by
  intro refused
  rcases error_of_ofKeyword refused with usage | ⟨word, -, badNumber⟩
  · cases usage
  · cases badNumber

/-- A segment is refused for an open quotation mark iff it has no words. -/
theorem parse_eq_unterminatedQuote_iff {segment : String} :
    parse segment = .error .unterminatedQuote ↔ Token.words? segment.toList = none := by
  unfold parse
  cases Token.words? segment.toList with
  | none => simp
  | some words =>
    cases words with
    | nil => simp [ofWords]
    | cons head arguments =>
      simp only [ofWords, reduceCtorEq, iff_false]
      cases Keyword.ofWord? head with
      | none => simp
      | some k => exact ofKeyword_ne_unterminatedQuote k arguments

end Command

/-- **Words are read as they are set out.**  A text in which words are set out is read as these
words, and words can be set out if each of them has a form.  The other way round, the words that are
read in any text have forms; set out again, they are read again.  A text that is not read is one in
which a quotation mark stands where a word begins and has no other one behind it, and this is the
error that is reported.  Blanks at the ends of a text do not matter. -/
theorem words_round_trip :
    (∀ text words, Token.SetOut text words → Token.words? text = some words) ∧
    (∀ words, (∀ word ∈ words, Token.Writable word) → Token.SetOut (Token.render words) words) ∧
    (∀ cs words, Token.words? cs = some words →
      (∀ word ∈ words, Token.Writable word) ∧
        Token.words? (Token.render words) = some words) ∧
    (∀ cs, Token.words? cs = none ↔ Token.LeavesOpen cs) ∧
    (∀ segment, Command.parse segment = .error .unterminatedQuote ↔
      Token.LeavesOpen segment.toList) ∧
    ∀ cs, Token.words? (Text.trim cs) = Token.words? cs := by
  refine ⟨fun text words setOut => setOut.words?_eq, fun words => Token.setOut_render, ?_,
    fun cs => Token.words?_eq_none_iff, fun segment => ?_, Token.words?_trim⟩
  · intro cs words read
    have writable := Token.writable_of_mem_words? read
    exact ⟨writable, (Token.setOut_render writable).words?_eq⟩
  · rw [Command.parse_eq_unterminatedQuote_iff, Token.words?_eq_none_iff]

/-- Three words with a line feed, a tab and nothing around them: one with a mark within, one with a
blank, and an empty one.  Behind a word in quotation marks the next one may be left open. -/
theorem words_round_trip_adjacent :
    let words := ["a\"b".toList, "c d".toList, []]
    let text := "a\"b\n\"c d\" \t\"\"".toList
    Token.SetOut text words ∧ Token.words? text = some words ∧
      Token.render words = "a\"b \"c d\" \"\"".toList ∧
      Token.words? (Token.render words) = some words ∧
      Token.LeavesOpen "say \"x\"\"y z".toList ∧
      Command.parse "say \"x\"\"y z" = .error .unterminatedQuote := by
  intro words text
  obtain ⟨read, -, again, -, error, -⟩ := words_round_trip
  have marked : Token.Spelled "a\"b".toList "a\"b".toList := by
    have visible : ∀ c ∈ "a\"b".toList, Text.isBlank c = false :=
      List.all_iff_forall_prop.mp (by decide)
    exact .bare (by decide) visible (by decide)
  have phrase : Token.Spelled "\"c d\"".toList "c d".toList :=
    Token.Spelled.quoted (show '"' ∉ "c d".toList by decide)
  have empty : Token.Spelled "\"\"".toList [] := Token.Spelled.quoted List.not_mem_nil
  have third : Token.SetOutBehind " \t\"\"".toList [[]] :=
    @Token.SetOutBehind.next [' ', '\t'] _ [] _ _ (by simp)
      (List.all_iff_forall_prop.mp (by decide)) empty (.last (by simp))
  have second : Token.SetOutBehind "\n\"c d\" \t\"\"".toList ["c d".toList, []] :=
    @Token.SetOutBehind.next ['\n'] _ _ _ _ (by simp)
      (List.all_iff_forall_prop.mp (by decide)) phrase third
  have setOut : Token.SetOut text words :=
    @Token.SetOut.first [] _ _ _ _ (by simp) marked second
  have wordsRead : Token.words? text = some words := read text words setOut
  have leavesOpen : Token.LeavesOpen "say \"x\"\"y z".toList := by
    refine ⟨"say \"x\"".toList, "y z".toList, rfl, ?_, by decide⟩
    have quoted : Token.Ended "\"x\"".toList :=
      Token.Ended.quoted (show '"' ∉ ['x'] by decide) .nil
    have visible : ∀ c ∈ ['a', 'y'], Text.isBlank c = false :=
      List.all_iff_forall_prop.mp (by decide)
    exact .bare (by decide) (by decide) visible (by decide) quoted
  exact ⟨setOut, wordsRead, by decide, (again text words wordsRead).2, leavesOpen,
    (error _).mpr leavesOpen⟩

end NamedCells

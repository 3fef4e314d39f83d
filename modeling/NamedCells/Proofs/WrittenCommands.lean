import Mathlib.Data.List.Forall2
import NamedCells.Command
import NamedCells.Proofs.NumberText

/-!
# Commands as they are written

A command is written as a keyword, in any mixture of cases, and its arguments: a name in quotation
marks, and a number in any of its spellings, with blanks in front of each.  The words of such a text
are the keyword and the arguments.  For a word that a blank ends, it matters what follows it; so
what follows is taken along, and every argument comes with the blanks in front of it.

## Main definitions

* `Command.Same` — equality of commands up to identifying the NaNs.
* `Keyword.spellings` — the words for a keyword.
* `Argument.Written`, `Command.Written` — the texts of an argument and of a command.
* `Token.Follows` — what follows a word.

## Main results

* `Command.words?_written` — the words of a written command.
* `Command.parse_written` — **a written command is read as the command.**
-/

namespace NamedCells

/-! ### How commands are written -/

/-- Equality up to identifying the NaNs. -/
def Command.Same : Command → Command → Prop
  | .create name value, .create name' value' => name = name' ∧ value.Same value'
  | .set name value, .set name' value' => name = name' ∧ value.Same value'
  | c, d => c = d

/-- The words for a keyword, in lower case. -/
def Keyword.spellings : Keyword → List String
  | .create => ["create"]
  | .set => ["set"]
  | .get => ["get"]
  | .inspect => ["show"]
  | .remove => ["remove", "rm"]
  | .has => ["has"]
  | .count => ["count"]
  | .list => ["list", "ls"]
  | .reset => ["reset"]
  | .error => ["error"]

/-- The keyword of a command. -/
def Command.keyword : Command → Keyword
  | .create .. => .create
  | .set .. => .set
  | .get _ => .get
  | .inspect _ => .inspect
  | .remove _ => .remove
  | .has _ => .has
  | .count => .count
  | .list => .list
  | .reset => .reset
  | .error => .error

/-- What follows a keyword. -/
inductive Argument where
  | name (s : String)
  | number (x : Binary64)

/-- The arguments of a command. -/
def Command.arguments : Command → List Argument
  | .create name value | .set name value => [.name name, .number value]
  | .get name | .inspect name | .remove name | .has name => [.name name]
  | .count | .list | .reset | .error => []

/-- What stands in front of an argument: blanks, at least one, of which none ends the line. -/
def Gap (gap : List Char) : Prop := gap ≠ [] ∧ ∀ c ∈ gap, Text.isBlank c = true ∧ c ≠ '\n'

instance (gap : List Char) : Decidable (Gap gap) :=
  haveI : Decidable (∀ c ∈ gap, Text.isBlank c = true ∧ c ≠ '\n') := List.decidableBAll _ gap
  inferInstanceAs (Decidable (_ ∧ _))

/-- The texts of an argument: a name stands in quotation marks and holds neither such a mark nor a
line end, and a number is any text that denotes it. -/
inductive Argument.Written : Argument → List Char → Prop where
  | name {s : String} (noMark : '"' ∉ s.toList) (noLineFeed : '\n' ∉ s.toList) :
    Written (.name s) ('"' :: (s.toList ++ ['"']))
  | number {x y : Binary64} {cs : List Char} (denotes : Binary64.ofChars? cs = some y)
    (same : x.Same y) : Written (.number x) cs

/-- The texts of arguments, with blanks in front of each. -/
inductive Argument.AllWritten : List Argument → List Char → Prop where
  | nil : AllWritten [] []
  | cons {a : Argument} {rest : List Argument} {gap text more : List Char} (blanks : Gap gap)
    (first : a.Written text) (others : AllWritten rest more) :
    AllWritten (a :: rest) (gap ++ (text ++ more))

/-- The texts of a command. -/
def Command.Written (c : Command) (text : List Char) : Prop :=
  ∃ word arguments, String.ofList (word.map Char.toLower) ∈ c.keyword.spellings ∧
    Argument.AllWritten c.arguments arguments ∧ text = word ++ arguments

/-! ### Bare words -/

namespace Text

/-- The code points of bare characters. -/
theorem toNat_of_isBare {c : Char} (bare : isBare c = true) :
    (48 ≤ c.toNat ∧ c.toNat ≤ 57) ∨ (65 ≤ c.toNat ∧ c.toNat ≤ 90) ∨
      (97 ≤ c.toNat ∧ c.toNat ≤ 122) ∨ c.toNat = 43 ∨ c.toNat = 45 ∨ c.toNat = 46 := by
  have isUpper (upper : c.isUpper = true) : 65 ≤ c.toNat ∧ c.toNat ≤ 90 := of_decide_eq_true upper
  have isLower (lower : c.isLower = true) : 97 ≤ c.toNat ∧ c.toNat ≤ 122 := by
    obtain ⟨least, greatest⟩ := Bool.and_eq_true_iff.mp lower
    exact ⟨of_decide_eq_true least, of_decide_eq_true greatest⟩
  have isDigit (digit : c.isDigit = true) : 48 ≤ c.toNat ∧ c.toNat ≤ 57 := by
    obtain ⟨least, greatest⟩ := Bool.and_eq_true_iff.mp digit
    exact ⟨of_decide_eq_true least, of_decide_eq_true greatest⟩
  simp only [isBare, Bool.or_eq_true, decide_eq_true_eq] at bare
  rcases bare with ((alphanumeric | rfl) | rfl) | rfl
  · rcases Bool.or_eq_true_iff.mp alphanumeric with letter | digit
    · rcases Bool.or_eq_true_iff.mp letter with upper | lower
      · exact .inr (.inl (isUpper upper))
      · exact .inr (.inr (.inl (isLower lower)))
    · exact .inl (isDigit digit)
  all_goals decide

/-- No bare character is blank. -/
theorem isBlank_of_isBare {c : Char} (bare : isBare c = true) : isBlank c = false := by
  have code := toNat_of_isBare bare
  simp only [isBlank, inRanges, blankRanges, List.any_cons, List.any_nil, Bool.or_false,
    Bool.or_eq_false_iff, Bool.and_eq_false_iff, decide_eq_false_iff_not]
  omega

end Text

/-! ### Words -/

namespace Token

variable {cs rest word : List Char} {words : List (List Char)}

/-- What may follow a word that a blank ends: nothing, or a text with a blank at its front.  The
words of the text are `words`. -/
structure Follows (rest : List Char) (words : List (List Char)) : Prop where
  /-- The words of the text by itself. -/
  alone : scan .gap rest = some words
  /-- A word in front of it ends there. -/
  ends : ∀ word, scan (.bare word) rest = some (word.reverse :: words)

theorem follows_nil : Follows [] [] := ⟨rfl, fun _ => rfl⟩

/-- Blanks in front of a text do not matter. -/
theorem scan_gap_append {gap : List Char} (blank : ∀ c ∈ gap, Text.isBlank c = true) :
    scan .gap (gap ++ rest) = scan .gap rest := by
  induction gap with
  | nil => rfl
  | cons c gap ih =>
    obtain ⟨first, others⟩ := List.forall_mem_cons.mp blank
    rw [List.cons_append, scan, if_pos first, ih others]

/-- Blanks in front of a text end a word. -/
theorem follows_blanks {gap : List Char} (nonempty : gap ≠ [])
    (blank : ∀ c ∈ gap, Text.isBlank c = true) (alone : scan .gap rest = some words) :
    Follows (gap ++ rest) words := by
  obtain ⟨c, others, rfl⟩ := List.exists_cons_of_ne_nil nonempty
  obtain ⟨first, blank⟩ := List.forall_mem_cons.mp blank
  have skipped : scan .gap (others ++ rest) = some words := by
    rw [scan_gap_append blank, alone]
  refine ⟨?_, fun word => ?_⟩
  · rw [List.cons_append, scan, if_pos first, skipped]
  · rw [List.cons_append, scan, if_pos first, skipped, Option.map_some]

theorem follows_gap {gap : List Char} (blanks : Gap gap) (alone : scan .gap rest = some words) :
    Follows (gap ++ rest) words :=
  follows_blanks blanks.1 (fun c mem => (blanks.2 c mem).1) alone

/-- A word that has begun goes on to the next blank. -/
theorem scan_bare_append (visible : ∀ c ∈ cs, Text.isBlank c = false)
    (follows : Follows rest words) :
    scan (.bare word) (cs ++ rest) = some ((word.reverse ++ cs) :: words) := by
  induction cs generalizing word with
  | nil => rw [List.nil_append, follows.ends, List.append_nil]
  | cons c cs ih =>
    obtain ⟨first, others⟩ := List.forall_mem_cons.mp visible
    rw [List.cons_append, scan, if_neg (by simp [first]), ih others]
    simp

/-- A bare word is a word. -/
theorem scan_bare (nonempty : cs ≠ []) (bare : ∀ c ∈ cs, Text.isBare c = true)
    (follows : Follows rest words) : scan .gap (cs ++ rest) = some (cs :: words) := by
  obtain ⟨c, others, rfl⟩ := List.exists_cons_of_ne_nil nonempty
  obtain ⟨first, bare⟩ := List.forall_mem_cons.mp bare
  have visible : ¬ Text.isBlank c = true := by simp [Text.isBlank_of_isBare first]
  have noMark : c ≠ '"' := Text.ne_of_apply first (by decide)
  rw [List.cons_append, scan, if_neg visible, if_neg noMark,
    scan_bare_append (fun c mem => Text.isBlank_of_isBare (bare c mem)) follows]
  rfl

/-- A word that has begun in quotation marks goes on to the next mark, whatever is in it. -/
theorem scan_quoted_append (noMark : '"' ∉ cs) (rest : List Char) :
    scan (.quoted word) (cs ++ '"' :: rest) =
      (scan .gap rest).map ((word.reverse ++ cs) :: ·) := by
  induction cs generalizing word with
  | nil => simp [scan]
  | cons c cs ih =>
    rw [List.mem_cons, not_or] at noMark
    obtain ⟨other, noMark⟩ := noMark
    rw [List.cons_append, scan, if_neg (Ne.symm other), ih noMark]
    simp

/-- A text in quotation marks is a word. -/
theorem scan_quoted (noMark : '"' ∉ cs) (alone : scan .gap rest = some words) :
    scan .gap ('"' :: (cs ++ '"' :: rest)) = some (cs :: words) := by
  have visible : ¬ Text.isBlank '"' = true := by decide
  rw [scan, if_neg visible, if_pos rfl, scan_quoted_append noMark, alone]
  rfl

end Token

/-! ### The words of a command -/

/-- The words that stand for an argument. -/
def Argument.Denoted : Argument → List Char → Prop
  | .name s, word => word = s.toList
  | .number x, word => ∃ y, Binary64.ofChars? word = some y ∧ x.Same y

theorem Argument.scan_written {a : Argument} {text rest : List Char} {words : List (List Char)}
    (written : a.Written text) (follows : Token.Follows rest words) :
    ∃ word, a.Denoted word ∧ Token.scan .gap (text ++ rest) = some (word :: words) := by
  cases written with
  | @name s noMark noLineFeed =>
    refine ⟨s.toList, rfl, ?_⟩
    have shape : '"' :: (s.toList ++ ['"']) ++ rest = '"' :: (s.toList ++ '"' :: rest) := by simp
    rw [shape, Token.scan_quoted noMark follows.alone]
  | number denotes same =>
    have nonempty : text ≠ [] := by
      rintro rfl
      cases denotes
    exact ⟨text, ⟨_, denotes, same⟩,
      Token.scan_bare nonempty (Binary64.isBare_of_ofChars? denotes) follows⟩

/-- The words of arguments stand for them, and a word in front of them ends there. -/
theorem Argument.follows_written {as : List Argument} {text : List Char}
    (written : AllWritten as text) :
    ∃ words, List.Forall₂ Denoted as words ∧ Token.Follows text words := by
  induction written with
  | nil => exact ⟨[], .nil, Token.follows_nil⟩
  | cons blanks first others ih =>
    obtain ⟨words, denoted, follows⟩ := ih
    obtain ⟨word, denotes, scanned⟩ := scan_written first follows
    exact ⟨word :: words, .cons denotes denoted, Token.follows_gap blanks scanned⟩

/-- The only word that stands for a name is the name. -/
theorem Argument.denoted_name {s : String} {words : List (List Char)}
    (denoted : List.Forall₂ Denoted [.name s] words) : words = [s.toList] := by
  cases denoted with
  | cons first others =>
    cases others
    rw [show _ = s.toList from first]

/-- The words that stand for a name and a number. -/
theorem Argument.denoted_name_number {s : String} {x : Binary64} {words : List (List Char)}
    (denoted : List.Forall₂ Denoted [.name s, .number x] words) :
    ∃ word y, words = [s.toList, word] ∧ Binary64.ofChars? word = some y ∧ x.Same y := by
  cases denoted with
  | cons first others =>
    cases others with
    | @cons _ word _ _ second others =>
      cases others
      obtain ⟨y, denotes, same⟩ := second
      exact ⟨word, y, by rw [show _ = s.toList from first], denotes, same⟩

namespace Keyword

theorem letters_of_mem_spellings {k : Keyword} {s : String} (mem : s ∈ k.spellings) :
    s ≠ "" ∧ s.toList.all Char.isAlpha = true := by
  have all : ∀ s ∈ k.spellings, s ≠ "" ∧ s.toList.all Char.isAlpha = true := by
    cases k <;> decide
  exact all s mem

variable {k : Keyword} {word : List Char}

/-- A word is for a keyword if it is one in lower case. -/
theorem ofWord?_of_spelled (spelled : String.ofList (word.map Char.toLower) ∈ k.spellings) :
    ofWord? word = some k := by
  have all : ∀ s ∈ k.spellings, ofLower? s = some k := by
    cases k <;> decide
  exact all _ spelled

theorem isBare_of_spelled (spelled : String.ofList (word.map Char.toLower) ∈ k.spellings) :
    word ≠ [] ∧ ∀ c ∈ word, Text.isBare c = true := by
  obtain ⟨nonempty, letters⟩ := letters_of_mem_spellings spelled
  rw [String.toList_ofList] at letters
  constructor
  · rintro rfl
    exact nonempty rfl
  · intro c mem
    exact Text.isBare_of_isAlpha_toLower (List.all_eq_true.mp letters _ (List.mem_map_of_mem mem))

end Keyword

namespace Command

/-- **The words of a written command** are its keyword and its arguments. -/
theorem words?_written {c : Command} {text : List Char} (written : c.Written text) :
    ∃ word words, Keyword.ofWord? word = some c.keyword ∧
      List.Forall₂ Argument.Denoted c.arguments words ∧
        Token.words? text = some (word :: words) := by
  obtain ⟨word, arguments, spelled, written, rfl⟩ := written
  obtain ⟨words, denoted, follows⟩ := Argument.follows_written written
  obtain ⟨nonempty, bare⟩ := Keyword.isBare_of_spelled spelled
  exact ⟨word, words, Keyword.ofWord?_of_spelled spelled, denoted,
    Token.scan_bare nonempty bare follows⟩

/-- A keyword with the arguments of a command makes the command. -/
theorem ofKeyword_of_denoted {c : Command} {words : List (List Char)}
    (denoted : List.Forall₂ Argument.Denoted c.arguments words) :
    ∃ d, ofKeyword c.keyword words = .ok d ∧ c.Same d := by
  cases c with
  | create name value =>
    obtain ⟨word, y, rfl, read, same⟩ := Argument.denoted_name_number denoted
    refine ⟨.create name y, ?_, rfl, same⟩
    simp only [keyword, ofKeyword, number, read, String.ofList_toList]
    rfl
  | set name value =>
    obtain ⟨word, y, rfl, read, same⟩ := Argument.denoted_name_number denoted
    refine ⟨.set name y, ?_, rfl, same⟩
    simp only [keyword, ofKeyword, number, read, String.ofList_toList]
    rfl
  | get name | inspect name | remove name | has name =>
    obtain rfl := Argument.denoted_name denoted
    simp only [keyword, ofKeyword, String.ofList_toList]
    exact ⟨_, rfl, rfl⟩
  | count | list | reset | error =>
    obtain rfl := List.forall₂_nil_left_iff.mp denoted
    exact ⟨_, rfl, rfl⟩

/-- **A written command is read as the command.** -/
theorem parse_written {c : Command} {text : List Char} (written : c.Written text) :
    ∃ d, parse (String.ofList text) = .ok d ∧ c.Same d := by
  obtain ⟨word, words, keyword, denoted, scanned⟩ := words?_written written
  obtain ⟨d, read, same⟩ := ofKeyword_of_denoted denoted
  refine ⟨d, ?_, same⟩
  rw [parse, String.toList_ofList, scanned]
  simp only [ofWords, keyword, read]

end Command

end NamedCells

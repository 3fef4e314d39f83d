import NamedCells.Channel

/-!
# What stands in messages

Messages quote names, characters and numbers.  Quoting escapes every control character, so a control
character stands in the message of an error only if the error has a free text that holds it.  NUL is
a control character, which makes the message of every other error one that the channel keeps as it
is.

## Main definitions

* `Text.Plain` — a text without control characters.
* `Text.withoutNul` — a text without its NULs.
* `EngineError.words`, `EngineError.freeText` — the two parts of a message.

## Main results

* `Text.plain_quote`, `Text.plain_quoteChar`, `Binary64.plain_text` — quoted texts, quoted
  characters and the texts of doubles are plain.
* `EngineError.mem_freeText_of_mem_message` — **a control character of a message is one of a free
  text.**
* `EngineError.withoutNul_message_ne_empty` — every error leaves something to read.
-/

namespace NamedCells

namespace Text

/-! ### Plain texts -/

/-- A text without control characters. -/
def Plain (cs : List Char) : Prop := ∀ c ∈ cs, Name.isControl c = false

instance (cs : List Char) : Decidable (Plain cs) := List.decidableBAll _ cs

variable {c d mark : Char} {cs ds : List Char}

@[simp] theorem plain_nil : Plain [] := by
  intro c mem
  cases mem

@[simp] theorem plain_cons : Plain (c :: cs) ↔ Name.isControl c = false ∧ Plain cs := by
  simp [Plain]

@[simp] theorem plain_append : Plain (cs ++ ds) ↔ Plain cs ∧ Plain ds := by
  simp [Plain, or_imp, forall_and]

theorem Plain.notMem (plain : Plain cs) (control : Name.isControl c = true) : c ∉ cs := by
  intro mem
  rw [plain c mem] at control
  cases control

/-- A text without the NULs in it. -/
def withoutNul (s : String) : String := String.ofList (s.toList.filter (· ≠ '\x00'))

theorem toList_withoutNul (s : String) :
    (withoutNul s).toList = s.toList.filter (· ≠ '\x00') := String.toList_ofList

theorem nul_notMem_withoutNul (s : String) : '\x00' ∉ (withoutNul s).toList := by
  rw [toList_withoutNul]
  intro mem
  obtain ⟨-, other⟩ := List.mem_filter.mp mem
  exact absurd rfl (of_decide_eq_true other)

theorem withoutNul_eq_self {s : String} (h : '\x00' ∉ s.toList) : withoutNul s = s := by
  have kept : s.toList.filter (· ≠ '\x00') = s.toList := by
    rw [List.filter_eq_self]
    intro c mem
    rw [decide_eq_true_eq]
    rintro rfl
    exact h mem
  rw [withoutNul, kept, String.ofList_toList]

/-- Something is left of a text that holds something else than NULs. -/
theorem withoutNul_ne_empty {s : String} (mem : c ∈ s.toList) (other : c ≠ '\x00') :
    withoutNul s ≠ "" := by
  intro empty
  have left : c ∈ (withoutNul s).toList := by
    rw [toList_withoutNul, List.mem_filter]
    exact ⟨mem, decide_eq_true other⟩
  rw [empty] at left
  cases left

/-! ### Quoted texts -/

theorem inRanges_of_mem {ranges : List (Nat × Nat)} {first last : Nat}
    (mem : (first, last) ∈ ranges) (least : first ≤ c.toNat) (greatest : c.toNat ≤ last) :
    inRanges ranges c = true := by
  rw [inRanges, List.any_eq_true]
  exact ⟨(first, last), mem, by simp [least, greatest]⟩

/-- Control characters have no printed form. -/
theorem isUnprintable_of_isControl (control : Name.isControl c = true) :
    isUnprintable c = true := by
  simp only [Name.isControl, Bool.or_eq_true, Bool.and_eq_true, decide_eq_true_eq] at control
  rcases control with low | ⟨least, below⟩
  · have mem : (0x0, 0x1f) ∈ unprintableRanges := List.Mem.head _
    exact inRanges_of_mem mem (Nat.zero_le _) (by omega)
  · have mem : (0x7f, 0xa0) ∈ unprintableRanges := List.Mem.tail _ (List.Mem.head _)
    exact inRanges_of_mem mem least (by omega)

/-- The characters of a numeral are digits of its base. -/
theorem exists_digit_of_mem_toDigits {b n : Nat} (base : 1 < b) (mem : c ∈ Nat.toDigits b n) :
    ∃ d < b, c = Nat.digitChar d := by
  -- by induction on the number: all digits but the last are those of the quotient
  induction n using Nat.strongRecOn with
  | ind n ih =>
    rw [Nat.toDigits_eq_if base] at mem
    split at mem
    · next small => exact ⟨n, small, List.mem_singleton.mp mem⟩
    · next large =>
      rcases List.mem_append.mp mem with front | last
      · have shorter : n / b < n := Nat.div_lt_self (by omega) base
        exact ih (n / b) shorter front
      · have below : n % b < b := Nat.mod_lt n (by omega)
        exact ⟨n % b, below, List.mem_singleton.mp last⟩

theorem plain_toDigits {b : Nat} (base : 1 < b) (hexadecimal : b ≤ 16) (n : Nat) :
    Plain (Nat.toDigits b n) := by
  have digits : ∀ d < 16, Name.isControl (Nat.digitChar d) = false := by decide
  intro c mem
  obtain ⟨d, below, rfl⟩ := exists_digit_of_mem_toDigits base mem
  exact digits d (by omega)

theorem plain_toString (n : Nat) : Plain (toString n).toList := by
  rw [Nat.toString_eq_repr, Nat.toList_repr]
  exact plain_toDigits (by decide) (by decide) n

theorem plain_escape (plainMark : Name.isControl mark = false) (c : Char) :
    Plain (escape mark c) := by
  unfold escape
  split
  · decide
  split
  · decide
  split
  · decide
  split
  · decide
  split
  · next marked =>
    -- a backslash or the mark follows a backslash
    rcases marked with rfl | rfl
    · decide
    · simp [plainMark, show Name.isControl '\\' = false by decide]
  split
  · have opening : Plain ['\\', 'u', '\x7b'] := by decide
    have closing : Plain ['\x7d'] := by decide
    have digits : Plain (Nat.toDigits 16 c.toNat) := plain_toDigits (by decide) (by decide) _
    rw [codePointEscape, plain_append, plain_append]
    exact ⟨⟨opening, digits⟩, closing⟩
  · next printed =>
    -- what is printed as it is has a printed form
    have noControl : Name.isControl c = false := by
      rw [← Bool.not_eq_true]
      intro control
      exact printed (by simp [isUnprintable_of_isControl control])
    simp [noControl]

theorem plain_between (plainMark : Name.isControl mark = false) (cs : List Char) :
    Plain (between mark cs) := by
  have inside : Plain (cs.flatMap (escape mark)) := by
    intro c mem
    obtain ⟨d, -, escaped⟩ := List.mem_flatMap.mp mem
    exact plain_escape plainMark d c escaped
  simp [between, plainMark, inside]

theorem plain_quote (s : String) : Plain (quote s).toList := by
  rw [quote, String.toList_ofList]
  exact plain_between (by decide) s.toList

theorem plain_quoteChar (c : Char) : Plain (quoteChar c).toList := by
  rw [quoteChar, String.toList_ofList]
  exact plain_between (by decide) [c]

end Text

/-! ### Numbers -/

theorem plain_numeral (n : Nat) : Text.Plain (numeral n) :=
  Text.plain_toDigits (by decide) (by decide) n

theorem plain_positional (n : Nat) (e : Int) : Text.Plain (positional n e) := by
  have zeros (k : Nat) : Text.Plain (List.replicate k '0') := by
    intro c mem
    obtain rfl := List.eq_of_mem_replicate mem
    decide
  cases e with
  | ofNat k => simp [positional, plain_numeral, zeros]
  | negSucc k =>
    have point : Name.isControl '.' = false := by decide
    simp [positional, pointed, List.leftpad, plain_numeral, zeros, point]

theorem Binary64.plain_text (x : Binary64) : Text.Plain x.text.toList := by
  unfold Binary64.text
  split
  · decide
  · rw [String.toList_ofList]
    have magnitude : Text.Plain
        (if x.isInfinite then "inf".toList
          else if x.units = 0 then ['0']
          else positional x.shortest.1 x.shortest.2) := by
      split
      · decide
      split
      · decide
      · exact plain_positional _ _
    have minus : Name.isControl '-' = false := by decide
    split
    · exact Text.plain_cons.mpr ⟨minus, magnitude⟩
    · exact magnitude

/-! ### Errors -/

theorem NameFault.plain_message (fault : NameFault) : Text.Plain fault.message.toList := by
  cases fault with
  | tooLong length limit =>
    have opening : Text.Plain "name is ".toList := by decide
    have middle : Text.Plain " bytes long (max ".toList := by decide
    have closing : Text.Plain ")".toList := by decide
    change Text.Plain ("name is " ++ toString length ++ " bytes long (max " ++ toString limit ++
      ")").toList
    simp only [String.toList_append, Text.plain_append]
    exact ⟨⟨⟨⟨opening, Text.plain_toString length⟩, middle⟩, Text.plain_toString limit⟩, closing⟩
  | control c =>
    have opening : Text.Plain "name contains control character ".toList := by decide
    change Text.Plain ("name contains control character " ++ Text.quoteChar c).toList
    rw [String.toList_append, Text.plain_append]
    exact ⟨opening, Text.plain_quoteChar c⟩
  | reserved c =>
    have opening : Text.Plain "name contains reserved character ".toList := by decide
    change Text.Plain ("name contains reserved character " ++ Text.quoteChar c).toList
    rw [String.toList_append, Text.plain_append]
    exact ⟨opening, Text.plain_quoteChar c⟩
  | empty | surroundingBlank | notUtf8 | missing => decide

namespace EngineError

/-- The text in an error that comes from outside and is shown as it is. -/
def freeText : EngineError → String
  | .invalidArgument text | .internal text => text
  | _ => ""

/-- The words of an error in front of its free text, or all of them if it has none. -/
def words : EngineError → String
  | .invalidArgument _ => "invalid argument: "
  | .internal _ => "internal error: "
  | e => e.message

theorem message_eq (e : EngineError) : e.message = e.words ++ e.freeText := by
  cases e with
  | invalidArgument text | internal text => rfl
  | _ => exact (String.append_empty).symm

/-- The words of an error are written with printed characters only. -/
theorem plain_words (e : EngineError) : Text.Plain e.words.toList := by
  cases e with
  | invalidName name fault =>
    have opening : Text.Plain "invalid cell name ".toList := by decide
    have colon : Text.Plain ": ".toList := by decide
    change Text.Plain ("invalid cell name " ++ Text.quote name ++ ": " ++ fault.message).toList
    simp only [String.toList_append, Text.plain_append]
    exact ⟨⟨⟨opening, Text.plain_quote name⟩, colon⟩, fault.plain_message⟩
  | nonFiniteValue name value =>
    have opening : Text.Plain "cell ".toList := by decide
    have middle : Text.Plain " cannot hold non-finite value ".toList := by decide
    change Text.Plain ("cell " ++ Text.quote name ++ " cannot hold non-finite value " ++
      value.text).toList
    simp only [String.toList_append, Text.plain_append]
    exact ⟨⟨⟨opening, Text.plain_quote name⟩, middle⟩, value.plain_text⟩
  | cellNotFound name =>
    have opening : Text.Plain "cell ".toList := by decide
    have closing : Text.Plain " does not exist".toList := by decide
    change Text.Plain ("cell " ++ Text.quote name ++ " does not exist").toList
    simp only [String.toList_append, Text.plain_append]
    exact ⟨⟨opening, Text.plain_quote name⟩, closing⟩
  | duplicateCellName name =>
    have opening : Text.Plain "cell ".toList := by decide
    have closing : Text.Plain " already exists".toList := by decide
    change Text.Plain ("cell " ++ Text.quote name ++ " already exists").toList
    simp only [String.toList_append, Text.plain_append]
    exact ⟨⟨opening, Text.plain_quote name⟩, closing⟩
  | capacityExceeded name limit =>
    have opening : Text.Plain "cell limit of ".toList := by decide
    have middle : Text.Plain " reached, cannot create ".toList := by decide
    change Text.Plain ("cell limit of " ++ toString limit ++ " reached, cannot create " ++
      Text.quote name).toList
    simp only [String.toList_append, Text.plain_append]
    exact ⟨⟨⟨opening, Text.plain_toString limit⟩, middle⟩, Text.plain_quote name⟩
  | allocationFailed name =>
    have opening : Text.Plain "out of memory while storing cell ".toList := by decide
    change Text.Plain ("out of memory while storing cell " ++ Text.quote name).toList
    simp only [String.toList_append, Text.plain_append]
    exact ⟨opening, Text.plain_quote name⟩
  | invalidArgument text =>
    change Text.Plain "invalid argument: ".toList
    decide
  | internal text =>
    change Text.Plain "internal error: ".toList
    decide

/-- The message of an error without free text is written with printed characters only. -/
theorem plain_message {e : EngineError} (fixed : e.freeText = "") :
    Text.Plain e.message.toList := by
  rw [message_eq, fixed, String.append_empty]
  exact e.plain_words

theorem words_ne_empty (e : EngineError) : e.words ≠ "" := by
  have longer {s t : String} (h : s ≠ "") : s ++ t ≠ "" := by
    intro empty
    exact h (String.append_eq_empty_iff.mp empty).1
  -- the words of every error begin with a fixed text
  cases e with
  | invalidName => exact longer (longer (longer (by decide)))
  | nonFiniteValue => exact longer (longer (longer (by decide)))
  | cellNotFound => exact longer (longer (by decide))
  | duplicateCellName => exact longer (longer (by decide))
  | capacityExceeded => exact longer (longer (longer (by decide)))
  | allocationFailed => exact longer (by decide)
  | invalidArgument text =>
    change "invalid argument: " ≠ ""
    decide
  | internal text =>
    change "internal error: " ≠ ""
    decide

/-- **A control character of a message is one of a free text.** -/
theorem mem_freeText_of_mem_message {e : EngineError} {c : Char}
    (control : Name.isControl c = true) (mem : c ∈ e.message.toList) :
    c ∈ e.freeText.toList := by
  rw [message_eq, String.toList_append, List.mem_append] at mem
  rcases mem with inWords | inText
  · exact absurd inWords (e.plain_words.notMem control)
  · exact inText

theorem withoutNul_message {e : EngineError} (h : '\x00' ∉ e.freeText.toList) :
    Text.withoutNul e.message = e.message := by
  refine Text.withoutNul_eq_self fun mem => h ?_
  exact mem_freeText_of_mem_message (by decide) mem

/-- **Every error leaves something to read.** -/
theorem withoutNul_message_ne_empty (e : EngineError) : Text.withoutNul e.message ≠ "" := by
  have some : e.words.toList ≠ [] := by
    intro none
    exact e.words_ne_empty (String.toList_eq_nil_iff.mp none)
  obtain ⟨c, mem⟩ := List.exists_mem_of_ne_nil _ some
  have inMessage : c ∈ e.message.toList := by
    rw [message_eq, String.toList_append]
    exact List.mem_append_left _ mem
  refine Text.withoutNul_ne_empty inMessage ?_
  rintro rfl
  exact e.plain_words.notMem (by decide) mem

end EngineError

end NamedCells

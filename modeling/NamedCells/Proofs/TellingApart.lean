import NamedCells.Engine
import NamedCells.Proofs.NumberText
import NamedCells.Proofs.Quoting

/-!
# Messages tell errors apart

A message is put together from fixed words and from data, and it can be taken apart again.  The
words at its front say what kind of message it is.  A name ends at the mark that closes it, whatever
is in the name, and a number ends at the first character that no number is written with.  So there
are no two errors with one message, and no error has the message that reports a redefinition.

## Main definitions

* `Text.kindOf?` — the kind of a text, by the words at its front.
* `EngineError.Same` — equality of errors up to identifying the NaNs.
* `Remark`, `Notice` — the messages, by what has to be told apart.

## Main results

* `NameFault.message_inj` — the message of a fault tells the fault.
* `Remark.text_eq_iff`, `Notice.text_eq_iff` — a notice tells what it reports.
* `messages_told_apart` — **the message of an error tells the error**, and that it is one.
-/

namespace NamedCells

namespace Text

/-! ### Taking texts apart -/

/-- The kind of a text, by the first of some openings that it begins with. -/
def kindOf? {κ : Type} (openings : List (String × κ)) (s : String) : Option κ :=
  (openings.find? fun o => o.1.toList.isPrefixOf s.toList).map Prod.snd

/-- Texts that are the same are of one kind. -/
theorem kind_eq {α κ : Type} {openings : List (String × κ)} {text : α → String} {kind : α → κ}
    (read : ∀ a, kindOf? openings (text a) = some (kind a)) {a b : α} (same : text a = text b) :
    kind a = kind b := by
  have kinds := read a
  rw [same, read b] at kinds
  exact (Option.some.inj kinds).symm

/-- A text without some character ends where the character stands. -/
theorem append_cons_inj {c : Char} {xs ys as bs : List Char} (left : c ∉ xs) (right : c ∉ ys) :
    xs ++ c :: as = ys ++ c :: bs ↔ xs = ys ∧ as = bs := by
  constructor
  · intro same
    have length : xs.length = ys.length := by
      have first := congrArg (List.idxOf c) same
      simpa [List.idxOf_append, left, right] using first
    obtain ⟨front, back⟩ := List.append_inj same length
    exact ⟨front, List.tail_eq_of_cons_eq back⟩
  · rintro ⟨rfl, rfl⟩
    rfl

/-- A bare word ends where a text stands that begins with no bare character. -/
theorem bare_append_inj {p q separator a b : String} {c : Char}
    (left : ∀ c ∈ p.toList, isBare c = true) (right : ∀ c ∈ q.toList, isBare c = true)
    (begins : separator.toList.head? = some c) (other : isBare c = false) :
    p ++ (separator ++ a) = q ++ (separator ++ b) ↔ p = q ∧ a = b := by
  obtain ⟨rest, separated⟩ := List.head?_eq_some_iff.mp begins
  have notBare {s : String} (bare : ∀ c ∈ s.toList, isBare c = true) : c ∉ s.toList :=
    fun mem => absurd rfl (ne_of_apply (bare c mem) other)
  simp only [← String.toList_inj, String.toList_append, separated, List.cons_append]
  rw [append_cons_inj (notBare left) (notBare right), List.append_cancel_left_eq]

theorem toList_toString (n : Nat) : (toString n).toList = numeral n := by
  rw [Nat.toString_eq_repr, Nat.toList_repr, numeral]

theorem isBare_of_toString (n : Nat) : ∀ c ∈ (toString n).toList, isBare c = true := by
  intro c mem
  rw [toList_toString] at mem
  exact isBare_of_isDigit (isDigit_of_mem_numeral mem)

theorem toString_inj {n m : Nat} : toString n = toString m ↔ n = m := by
  constructor
  · intro same
    have digits : numeral n = numeral m := by
      rw [← toList_toString, same, toList_toString]
    rw [← ofDigitChars_numeral n, digits, ofDigitChars_numeral]
  · rintro rfl
    rfl

end Text

/-! ### Faults of names -/

namespace NameFault

/-- What can be wrong with a name, without the particulars. -/
inductive Kind where
  | empty
  | tooLong
  | surroundingBlank
  | control
  | reserved
  | notUtf8
  | missing

def kind : NameFault → Kind
  | .empty => .empty
  | .tooLong .. => .tooLong
  | .surroundingBlank => .surroundingBlank
  | .control _ => .control
  | .reserved _ => .reserved
  | .notUtf8 => .notUtf8
  | .missing => .missing

/-- The openings of the messages.  That of a length comes after those that go on with a word. -/
def openings : List (String × Kind) :=
  [("name is empty", .empty), ("name is not", .notUtf8), ("name is missing", .missing),
    ("name is ", .tooLong), ("name has", .surroundingBlank), ("name contains control", .control),
    ("name contains reserved", .reserved)]

theorem kindOf?_message (fault : NameFault) :
    Text.kindOf? openings fault.message = some fault.kind := by
  cases fault with
  | tooLong length limit =>
    -- a digit begins none of the words that may stand there
    obtain ⟨c, cs, digits, digit⟩ := exists_numeral_eq_cons length
    have other (d : Char) (letter : d.isDigit = false) : (d == c) = false :=
      beq_eq_false_iff_ne.mpr (Text.ne_of_apply digit letter).symm
    have message : ∃ rest,
        (NameFault.tooLong length limit).message.toList = "name is ".toList ++ c :: rest := by
      change ∃ rest, ("name is " ++ toString length ++ " bytes long (max " ++ toString limit ++
        ")").toList = _
      simp only [String.toList_append, Text.toList_toString, digits, List.append_assoc,
        List.cons_append]
      exact ⟨_, rfl⟩
    obtain ⟨rest, message⟩ := message
    show _ = some Kind.tooLong
    simp [Text.kindOf?, message, openings, List.isPrefixOf, other]
  | control c =>
    have message : (NameFault.control c).message =
        "name contains control character " ++ Text.quoteChar c := rfl
    show _ = some Kind.control
    simp [Text.kindOf?, message, openings, List.isPrefixOf]
  | reserved c =>
    have message : (NameFault.reserved c).message =
        "name contains reserved character " ++ Text.quoteChar c := rfl
    show _ = some Kind.reserved
    simp [Text.kindOf?, message, openings, List.isPrefixOf]
  | empty | surroundingBlank | notUtf8 | missing => rfl

/-- The message of a fault tells the fault. -/
theorem message_inj {f g : NameFault} : f.message = g.message ↔ f = g := by
  constructor
  · intro same
    have kind : f.kind = g.kind := Text.kind_eq kindOf?_message same
    cases f <;> cases g <;> cases kind
    case tooLong.tooLong.refl length limit length' limit' =>
      have same : "name is " ++ toString length ++ " bytes long (max " ++ toString limit ++ ")" =
        "name is " ++ toString length' ++ " bytes long (max " ++ toString limit' ++ ")" := same
      simp only [String.append_assoc, String.append_right_inj] at same
      obtain ⟨lengths, limits⟩ := (Text.bare_append_inj (Text.isBare_of_toString length)
        (Text.isBare_of_toString length') rfl rfl).mp same
      rw [String.append_left_inj] at limits
      rw [Text.toString_inj.mp lengths, Text.toString_inj.mp limits]
    case control.control.refl c d =>
      rw [Text.quoteChar_inj.mp ((String.append_right_inj _).mp same)]
    case reserved.reserved.refl c d =>
      rw [Text.quoteChar_inj.mp ((String.append_right_inj _).mp same)]
    all_goals rfl
  · rintro rfl
    rfl

end NameFault

/-! ### Remarks about a cell -/

/-- What a message says of a cell after its name. -/
inductive Remark where
  /-- It cannot hold the value. -/
  | nonFinite (value : Binary64)
  /-- There is none. -/
  | absent
  /-- There is one already. -/
  | present
  /-- There was one already, and it was redefined. -/
  | redefined (previous value : Binary64)

namespace Remark

/-- The fixed words of a remark. -/
def words : Remark → String
  | .nonFinite _ => " cannot hold non-finite value "
  | .absent => " does not exist"
  | .present => " already exists"
  | .redefined .. => " already exists; value redefined from "

/-- The values of a remark. -/
def values : Remark → String
  | .nonFinite value => value.text
  | .absent | .present => ""
  | .redefined previous value => previous.text ++ (" to " ++ value.text)

def text (r : Remark) : String := r.words ++ r.values

/-- Equality up to identifying the NaNs. -/
def Same : Remark → Remark → Prop
  | .nonFinite value, .nonFinite value' => value.Same value'
  | .absent, .absent | .present, .present => True
  | .redefined previous value, .redefined previous' value' =>
    previous.Same previous' ∧ value.Same value'
  | _, _ => False

/-- The remarks without the values. -/
inductive Kind where
  | nonFinite
  | absent
  | present
  | redefined

def kind : Remark → Kind
  | .nonFinite _ => .nonFinite
  | .absent => .absent
  | .present => .present
  | .redefined .. => .redefined

/-- The openings of the remarks.  That of a redefinition goes on where another remark ends. -/
def openings : List (String × Kind) :=
  [(" cannot", .nonFinite), (" does not", .absent), (" already exists;", .redefined),
    (" already exists", .present)]

theorem kindOf?_text (r : Remark) : Text.kindOf? openings r.text = some r.kind := by
  cases r <;> simp [Text.kindOf?, text, words, values, kind, openings, List.isPrefixOf]

/-- A remark tells what it says. -/
theorem text_eq_iff {r s : Remark} : r.text = s.text ↔ r.Same s := by
  constructor
  · intro same
    have kind : r.kind = s.kind := Text.kind_eq kindOf?_text same
    cases r <;> cases s <;> cases kind
    case nonFinite.nonFinite.refl value value' =>
      exact Binary64.text_eq_iff.mp ((String.append_right_inj _).mp same)
    case redefined.redefined.refl previous value previous' value' =>
      obtain ⟨before, after⟩ := (Text.bare_append_inj Binary64.isBare_of_text
        Binary64.isBare_of_text rfl rfl).mp ((String.append_right_inj _).mp same)
      exact ⟨Binary64.text_eq_iff.mp before, Binary64.text_eq_iff.mp after⟩
    all_goals trivial
  · intro same
    cases r <;> cases s
    case nonFinite.nonFinite value value' =>
      rw [text, text, values, values, Binary64.text_eq_iff.mpr same]
      rfl
    case redefined.redefined previous value previous' value' =>
      rw [text, text, values, values, Binary64.text_eq_iff.mpr same.1,
        Binary64.text_eq_iff.mpr same.2]
      rfl
    all_goals first | rfl | exact same.elim

end Remark

/-! ### Notices -/

/-- What a message reports, where all remarks about a cell that is named first are one kind. -/
inductive Notice where
  /-- The name is not well formed. -/
  | invalidName (name : String) (fault : NameFault)
  /-- Something is remarked about the cell of a name. -/
  | cell (name : String) (remark : Remark)
  /-- There are as many cells as there may be. -/
  | cellLimit (name : String) (limit : Nat)
  /-- There is no memory for the cell. -/
  | outOfMemory (name : String)
  /-- An argument cannot be used. -/
  | invalidArgument (text : String)
  /-- The engine failed. -/
  | internal (text : String)

namespace Notice

/-- The words in front of a notice. -/
def words : Notice → String
  | .invalidName .. => "invalid cell name "
  | .cell .. => "cell "
  | .cellLimit .. => "cell limit of "
  | .outOfMemory _ => "out of memory while storing cell "
  | .invalidArgument _ => "invalid argument: "
  | .internal _ => "internal error: "

/-- What is reported. -/
def body : Notice → String
  | .invalidName name fault => Text.quote name ++ (": " ++ fault.message)
  | .cell name remark => Text.quote name ++ remark.text
  | .cellLimit name limit => toString limit ++ (" reached, cannot create " ++ Text.quote name)
  | .outOfMemory name => Text.quote name
  | .invalidArgument text | .internal text => text

def text (r : Notice) : String := r.words ++ r.body

/-- Equality up to identifying the NaNs. -/
def Same : Notice → Notice → Prop
  | .cell name remark, .cell name' remark' => name = name' ∧ remark.Same remark'
  | r, s => r = s

/-- The notices without what they are about. -/
inductive Kind where
  | invalidName
  | cell
  | cellLimit
  | outOfMemory
  | invalidArgument
  | internal

def kind : Notice → Kind
  | .invalidName .. => .invalidName
  | .cell .. => .cell
  | .cellLimit .. => .cellLimit
  | .outOfMemory _ => .outOfMemory
  | .invalidArgument _ => .invalidArgument
  | .internal _ => .internal

/-- The openings of the notices, where a name begins with its mark. -/
def openings : List (String × Kind) :=
  [("invalid cell name ", .invalidName), ("cell \"", .cell), ("cell limit of ", .cellLimit),
    ("out of memory ", .outOfMemory), ("invalid argument: ", .invalidArgument),
    ("internal error: ", .internal)]

theorem kindOf?_text (r : Notice) : Text.kindOf? openings r.text = some r.kind := by
  cases r <;>
    simp [Text.kindOf?, text, words, body, kind, openings, List.isPrefixOf, Text.quote,
      Text.between]

/-- A notice tells what it reports. -/
theorem text_eq_iff {r s : Notice} : r.text = s.text ↔ r.Same s := by
  constructor
  · intro same
    have kind : r.kind = s.kind := Text.kind_eq kindOf?_text same
    cases r <;> cases s <;> cases kind <;> replace same := (String.append_right_inj _).mp same
    case invalidName.invalidName.refl name fault name' fault' =>
      obtain ⟨rfl, after⟩ := Text.quote_append_inj.mp same
      rw [String.append_right_inj, NameFault.message_inj] at after
      exact congrArg _ after
    case cell.cell.refl name remark name' remark' =>
      obtain ⟨names, after⟩ := Text.quote_append_inj.mp same
      exact ⟨names, Remark.text_eq_iff.mp after⟩
    case cellLimit.cellLimit.refl name limit name' limit' =>
      obtain ⟨limits, after⟩ := (Text.bare_append_inj (Text.isBare_of_toString limit)
        (Text.isBare_of_toString limit') rfl rfl).mp same
      rw [Text.toString_inj.mp limits, Text.quote_inj.mp after]
      rfl
    case outOfMemory.outOfMemory.refl name name' => exact congrArg _ (Text.quote_inj.mp same)
    all_goals exact congrArg _ same
  · intro same
    cases r <;> cases s
    case cell.cell name remark name' remark' =>
      rw [text, text, body, body, same.1, Remark.text_eq_iff.mpr same.2]
      rfl
    all_goals exact congrArg text same

end Notice

/-! ### Errors -/

namespace EngineError

/-- Equality up to identifying the NaNs. -/
def Same : EngineError → EngineError → Prop
  | .nonFiniteValue name value, .nonFiniteValue name' value' => name = name' ∧ value.Same value'
  | e, f => e = f

def notice : EngineError → Notice
  | .invalidName name fault => .invalidName name fault
  | .nonFiniteValue name value => .cell name (.nonFinite value)
  | .cellNotFound name => .cell name .absent
  | .duplicateCellName name => .cell name .present
  | .capacityExceeded name limit => .cellLimit name limit
  | .allocationFailed name => .outOfMemory name
  | .invalidArgument text => .invalidArgument text
  | .internal text => .internal text

theorem notice_text (e : EngineError) : e.notice.text = e.message := by
  have assoc (a b c d : String) : a ++ (b ++ (c ++ d)) = a ++ b ++ c ++ d := by
    simp only [String.append_assoc]
  cases e with
  | invalidName name fault => exact assoc _ _ _ _
  | nonFiniteValue name value => exact assoc _ _ _ _
  | cellNotFound name => exact (assoc _ _ _ _).trans String.append_empty
  | duplicateCellName name => exact (assoc _ _ _ _).trans String.append_empty
  | capacityExceeded name limit => exact assoc _ _ _ _
  | allocationFailed | invalidArgument | internal => rfl

theorem notice_same_iff {e f : EngineError} : e.notice.Same f.notice ↔ e.Same f := by
  cases e <;> cases f <;> simp [notice, Notice.Same, Remark.Same, Same]

end EngineError

theorem redefinitionNotice_eq (name : String) (previous value : Binary64) :
    redefinitionNotice name previous value =
      (Notice.cell name (.redefined previous value)).text := by
  have joined : " already exists" ++ "; value redefined from " =
      " already exists; value redefined from " := by decide
  calc redefinitionNotice name previous value
      = "cell " ++ Text.quote name ++ " already exists" ++ "; value redefined from " ++
          previous.text ++ " to " ++ value.text := rfl
    _ = "cell " ++ (Text.quote name ++ ((" already exists" ++ "; value redefined from ") ++
          (previous.text ++ (" to " ++ value.text)))) := by simp only [String.append_assoc]
    _ = (Notice.cell name (.redefined previous value)).text := by
        rw [joined]
        rfl

/-- **The message of an error tells the error.**  Errors have one message only if they are the same
up to identifying the NaNs, whatever is in their names and texts.  The same holds of redefinitions,
and none of them has the message of an error. -/
theorem messages_told_apart :
    (∀ e f : EngineError, e.message = f.message ↔ e.Same f) ∧
    (∀ name name' previous previous' value value',
      redefinitionNotice name previous value = redefinitionNotice name' previous' value' ↔
        name = name' ∧ previous.Same previous' ∧ value.Same value') ∧
    (∀ name previous value (e : EngineError),
      redefinitionNotice name previous value ≠ e.message) := by
  refine ⟨fun e f => ?_, fun name name' previous previous' value value' => ?_,
    fun name previous value e same => ?_⟩
  · rw [← e.notice_text, ← f.notice_text, Notice.text_eq_iff, EngineError.notice_same_iff]
  · rw [redefinitionNotice_eq, redefinitionNotice_eq, Notice.text_eq_iff]
    rfl
  · rw [redefinitionNotice_eq, ← e.notice_text, Notice.text_eq_iff] at same
    -- no error makes the remark
    cases e with
    | nonFiniteValue | cellNotFound | duplicateCellName => exact same.2
    | _ => cases same

end NamedCells

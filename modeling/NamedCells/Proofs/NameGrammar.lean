import NamedCells.Name
import NamedCells.Proofs.Trim

/-!
# Which names are well formed

The check of a name asks four questions one after the other, about the number of bytes, about every
character, and about the two characters at the ends.  Here the answer is described without the
order of the questions: the names that pass are those of one grammar, and a name that does not pass
has exactly one first fault.  Some characters are controls and white space at the same time, such as
the tab, the line feed and the next-line control.  Wherever one of these stands it is the control
that is told about, as every character is looked at before the ends are.

## Main definitions

* `Name.Control`, `Name.WhiteSpace` — the two classes of characters, by their code points.
* `Name.WellFormed` — the grammar of names.
* `Name.FirstFault` — a fault of a name before which there is none.

## Main results

* `Name.wellFormed_or_firstFault` — every text belongs to the grammar or has a first fault.
* `Name.fault?_eq_none_iff`, `Name.fault?_eq_some_iff` — what the check finds.
* `fault_of_name` — **the check of a name accepts the grammar and reports first faults.**
-/

namespace NamedCells

namespace Name

/-! ### Characters -/

/-- The characters of the general category `Cc`: the controls of ASCII, of which DEL stands apart,
and the block of controls behind it. -/
def Control (c : Char) : Prop := c.toNat ≤ 0x1f ∨ (0x7f ≤ c.toNat ∧ c.toNat ≤ 0x9f)

instance (c : Char) : Decidable (Control c) := inferInstanceAs (Decidable (_ ∨ _))

/-- The characters with the property `White_Space`, one by one. -/
def WhiteSpace (c : Char) : Prop :=
  c.toNat ∈ [0x9, 0xa, 0xb, 0xc, 0xd, 0x20, 0x85, 0xa0, 0x1680, 0x2000, 0x2001, 0x2002, 0x2003,
    0x2004, 0x2005, 0x2006, 0x2007, 0x2008, 0x2009, 0x200a, 0x2028, 0x2029, 0x202f, 0x205f, 0x3000]

instance (c : Char) : Decidable (WhiteSpace c) := inferInstanceAs (Decidable (_ ∈ _))

/-- The characters that a name may hold. -/
def Allowed (c : Char) : Prop := c ≠ '<' ∧ c ≠ '>' ∧ ¬ Control c

instance (c : Char) : Decidable (Allowed c) := inferInstanceAs (Decidable (_ ∧ _))

variable {c : Char} {s : String}

theorem isControl_iff : isControl c = true ↔ Control c := by
  simp only [isControl, Control, Bool.or_eq_true, Bool.and_eq_true, decide_eq_true_eq]
  omega

theorem isBlank_iff : Text.isBlank c = true ↔ WhiteSpace c := by
  simp only [Text.isBlank, Text.inRanges, Text.blankRanges, WhiteSpace, List.any_cons, List.any_nil,
    Bool.or_false, Bool.or_eq_true, Bool.and_eq_true, decide_eq_true_eq, List.mem_cons,
    List.not_mem_nil, or_false]
  omega

theorem isBlank_eq_false_iff : Text.isBlank c = false ↔ ¬ WhiteSpace c := by
  rw [← isBlank_iff, Bool.not_eq_true]

theorem isForbidden_eq_false_iff : isForbidden c = false ↔ Allowed c := by
  rw [Allowed, ← isControl_iff]
  simp [isForbidden, isReserved, and_assoc]

/-! ### The grammar and the faults -/

/-- The grammar of names. -/
structure WellFormed (s : String) : Prop where
  nonempty : s ≠ ""
  fits : s.toUTF8.size ≤ 255
  allowed : ∀ c ∈ s.toList, Allowed c
  first : ∀ c ∈ s.toList.head?, ¬ WhiteSpace c
  last : ∀ c ∈ s.toList.getLast?, ¬ WhiteSpace c

/-- A fault of a name before which there is none. -/
inductive FirstFault (s : String) : NameFault → Prop
  /-- There are no characters. -/
  | empty (nothing : s = "") : FirstFault s .empty
  /-- There are too many bytes, whatever the characters. -/
  | tooLong (long : 255 < s.toUTF8.size) : FirstFault s (.tooLong s.toUTF8.size 255)
  /-- The leftmost of the characters that are not allowed is a control. -/
  | control {before after : List Char} {c : Char} (fits : s.toUTF8.size ≤ 255)
    (found : s.toList = before ++ c :: after) (leftmost : ∀ d ∈ before, Allowed d)
    (control : Control c) : FirstFault s (.control c)
  /-- The leftmost of the characters that are not allowed is an angle bracket. -/
  | reserved {before after : List Char} {c : Char} (fits : s.toUTF8.size ≤ 255)
    (found : s.toList = before ++ c :: after) (leftmost : ∀ d ∈ before, Allowed d)
    (bracket : c = '<' ∨ c = '>') : FirstFault s (.reserved c)
  /-- All characters are allowed, and one at an end is white space. -/
  | surroundingBlank (fits : s.toUTF8.size ≤ 255) (allowed : ∀ c ∈ s.toList, Allowed c)
    (blank : (∃ c ∈ s.toList.head?, WhiteSpace c) ∨ ∃ c ∈ s.toList.getLast?, WhiteSpace c) :
    FirstFault s .surroundingBlank

/-- The ends of a text are left alone iff neither is white space. -/
theorem trim_eq_self_iff_of_ends {cs : List Char} :
    Text.trim cs = cs ↔
      (∀ c ∈ cs.head?, ¬ WhiteSpace c) ∧ ∀ c ∈ cs.getLast?, ¬ WhiteSpace c := by
  simp only [Text.trim_eq_self_iff, isBlank_eq_false_iff]

/-- Some character is not allowed, or all are. -/
theorem find?_isForbidden_eq_none_iff {cs : List Char} :
    cs.find? isForbidden = none ↔ ∀ c ∈ cs, Allowed c := by
  simp only [List.find?_eq_none, Bool.not_eq_true, isForbidden_eq_false_iff]

theorem find?_isForbidden_eq_some_iff {cs : List Char} :
    cs.find? isForbidden = some c ↔
      ¬ Allowed c ∧ ∃ before after, cs = before ++ c :: after ∧ ∀ d ∈ before, Allowed d := by
  simp only [List.find?_eq_some_iff_append, Bool.not_eq_true', ← isForbidden_eq_false_iff,
    Bool.not_eq_false]

/-! ### What the check finds -/

/-- **Every text belongs to the grammar or has a first fault**, which the check finds. -/
theorem wellFormed_or_firstFault (s : String) :
    match fault? s with
    | none => WellFormed s
    | some fault => FirstFault s fault := by
  unfold fault?
  by_cases nothing : s = ""
  · rw [if_pos nothing]
    exact .empty nothing
  rw [if_neg nothing]
  by_cases long : maxBytes < s.utf8ByteSize
  · rw [if_pos long]
    exact .tooLong long
  rw [if_neg long]
  have fits : s.toUTF8.size ≤ 255 := Nat.le_of_not_lt long
  cases search : s.toList.find? isForbidden with
  | some c =>
    obtain ⟨forbidden, before, after, found, leftmost⟩ := find?_isForbidden_eq_some_iff.mp search
    by_cases control : Control c
    · have same : forbiddenFault c = .control c := if_pos (isControl_iff.mpr control)
      simp only [same]
      exact .control fits found leftmost control
    · have same : forbiddenFault c = .reserved c := if_neg (mt isControl_iff.mp control)
      have bracket : c = '<' ∨ c = '>' := by
        simp only [Allowed, control, not_false_eq_true, and_true, not_and_or, not_not] at forbidden
        exact forbidden
      simp only [same]
      exact .reserved fits found leftmost bracket
  | none =>
    have allowed := find?_isForbidden_eq_none_iff.mp search
    by_cases ends : Text.trim s.toList = s.toList
    · obtain ⟨first, last⟩ := trim_eq_self_iff_of_ends.mp ends
      simp only [if_pos ends]
      exact ⟨nothing, fits, allowed, first, last⟩
    · simp only [if_neg ends]
      refine .surroundingBlank fits allowed ?_
      rw [trim_eq_self_iff_of_ends, not_and_or] at ends
      simpa using ends

/-- A text with at most as many bytes as a name may have, and with some character in it. -/
theorem fault?_of_fits {s : String} (nonempty : s ≠ "") (fits : s.toUTF8.size ≤ 255) :
    fault? s =
      match s.toList.find? isForbidden with
      | some c => some (forbiddenFault c)
      | none => if Text.trim s.toList = s.toList then none else some .surroundingBlank := by
  have short : ¬ maxBytes < s.utf8ByteSize := Nat.not_lt_of_le fits
  exact (if_neg nonempty).trans (if_neg short)

theorem ne_empty_of_toList_eq {before after : List Char}
    (found : s.toList = before ++ c :: after) : s ≠ "" := by
  rintro rfl
  exact absurd found (by simp)

/-- The check finds the first fault. -/
theorem FirstFault.fault?_eq {fault : NameFault} (first : FirstFault s fault) :
    fault? s = some fault := by
  cases first with
  | empty nothing => rw [fault?, if_pos nothing]
  | tooLong long =>
    have nonempty : s ≠ "" := by
      rintro rfl
      exact absurd long (by decide)
    rw [fault?, if_neg nonempty, if_pos (show maxBytes < s.utf8ByteSize from long)]
    rfl
  | @control before after c fits found leftmost control =>
    have forbidden : ¬ Allowed c := fun allowed => allowed.2.2 control
    have search := find?_isForbidden_eq_some_iff.mpr ⟨forbidden, before, after, found, leftmost⟩
    rw [fault?_of_fits (ne_empty_of_toList_eq found) fits, search]
    exact congrArg some (if_pos (isControl_iff.mpr control))
  | @reserved before after c fits found leftmost bracket =>
    have forbidden : ¬ Allowed c := fun allowed => bracket.elim allowed.1 allowed.2.1
    have search := find?_isForbidden_eq_some_iff.mpr ⟨forbidden, before, after, found, leftmost⟩
    have noControl : ¬ isControl c = true := by rcases bracket with rfl | rfl <;> decide
    rw [fault?_of_fits (ne_empty_of_toList_eq found) fits, search]
    exact congrArg some (if_neg noControl)
  | surroundingBlank fits allowed blank =>
    have nonempty : s ≠ "" := by
      rintro rfl
      simp at blank
    have ends : ¬ Text.trim s.toList = s.toList := by
      rw [trim_eq_self_iff_of_ends, not_and_or]
      simpa using blank
    rw [fault?_of_fits nonempty fits, find?_isForbidden_eq_none_iff.mpr allowed]
    exact if_neg ends

theorem WellFormed.fault?_eq (wellFormed : WellFormed s) : fault? s = none := by
  have ends := trim_eq_self_iff_of_ends.mpr ⟨wellFormed.first, wellFormed.last⟩
  rw [fault?_of_fits wellFormed.nonempty wellFormed.fits,
    find?_isForbidden_eq_none_iff.mpr wellFormed.allowed]
  exact if_pos ends

theorem fault?_eq_none_iff : fault? s = none ↔ WellFormed s := by
  constructor
  · intro good
    have outcome := wellFormed_or_firstFault s
    rwa [good] at outcome
  · exact WellFormed.fault?_eq

theorem fault?_eq_some_iff {fault : NameFault} : fault? s = some fault ↔ FirstFault s fault := by
  constructor
  · intro bad
    have outcome := wellFormed_or_firstFault s
    rwa [bad] at outcome
  · exact FirstFault.fault?_eq

end Name

/-- **The check of a name accepts the grammar and reports first faults.**  A text that begins with a
control is told to hold that control, be it white space or not. -/
theorem fault_of_name (s : String) :
    (Name.fault? s = none ↔ Name.WellFormed s) ∧
    (∀ fault, Name.fault? s = some fault ↔ Name.FirstFault s fault) ∧
    ∀ c ∈ s.toList.head?, Name.Control c → s.toUTF8.size ≤ 255 →
      Name.fault? s = some (.control c) := by
  refine ⟨Name.fault?_eq_none_iff, fun fault => Name.fault?_eq_some_iff, ?_⟩
  intro c first control fits
  obtain ⟨rest, whole⟩ := List.head?_eq_some_iff.mp first
  have leftmost : ∀ d ∈ ([] : List Char), Name.Allowed d := by simp
  exact (Name.FirstFault.control fits whole leftmost control).fault?_eq

/-- The next-line control in front is white space, and behind it there are an angle bracket and a
blank at the end: the control is reported.  Without it the bracket would be. -/
theorem fault_of_name_next_line :
    Name.WhiteSpace '\x85' ∧ Name.fault? "\x85<net> " = some (.control '\x85') ∧
      Name.fault? "net<\x85 " = some (.reserved '<') := by
  have control : Name.Control '\x85' := by decide
  obtain ⟨-, -, leading⟩ := fault_of_name "\x85<net> "
  obtain ⟨-, reports, -⟩ := fault_of_name "net<\x85 "
  have found : "net<\x85 ".toList = ['n', 'e', 't'] ++ '<' :: ['\x85', ' '] := rfl
  have leftmost : ∀ d ∈ ['n', 'e', 't'], Name.Allowed d := by simp [Name.Allowed, Name.Control]
  have bracket : Name.FirstFault "net<\x85 " (.reserved '<') :=
    .reserved (by decide) found leftmost (.inl rfl)
  exact ⟨by decide, leading '\x85' rfl control (by decide), (reports _).mpr bracket⟩

end NamedCells

import NamedCells.Proofs.Joining

/-!
# Comments

A piece that begins with `#` is no command.  But a text is cut before anything is known about
comments: in a line that begins with `#` a semicolon outside of quotes ends the comment, and what
stands behind it is read like any other text.  So only a comment without such a semicolon, or with
nothing but blanks and more comments behind it, can be taken out of a script without changing what
is carried out.

## Main definitions

* `Script.IsComment` — the first character that is no blank is `#`.

## Main results

* `Script.exists_cut` — a line is one piece, or the first semicolon outside of quotes cuts it.
* `Script.segmentsOf_comment_semicolon` — what stands behind the first cut is read.
* `comment_removable_iff` — **when a comment line can be taken out of a script.**
* `not_forall_comment_ignored` — not always.
-/

namespace NamedCells

namespace Script

/-- A text whose first character that is no blank is `#`. -/
def IsComment (cs : List Char) : Prop := cs.find? (fun c => !Text.isBlank c) = some '#'

instance (cs : List Char) : Decidable (IsComment cs) := inferInstanceAs (Decidable (_ = _))

variable {line xs ys : List Char}

/-! ### Where a line is cut -/

/-- A line, be it read from within quotes, is a single piece, or it is cut at a semicolon before
which there is a single piece. -/
theorem exists_cut (oneLine : '\n' ∉ line) (quoted : Bool) :
    piecesFrom quoted line = [line] ∨
      ∃ xs ys, line = xs ++ ';' :: ys ∧ piecesFrom quoted xs = [xs] ∧
        quotedAfter quoted xs = false := by
  induction line generalizing quoted with
  | nil => exact .inl rfl
  | cons c cs ih =>
    rw [List.mem_cons, not_or] at oneLine
    by_cases cuts : Cuts quoted c
    · -- a line has no line end, so this is the semicolon
      obtain lineFeed | ⟨rfl, rfl⟩ := cuts
      · exact absurd lineFeed.symm oneLine.1
      · exact .inr ⟨[], cs, rfl, rfl, rfl⟩
    · rcases ih oneLine.2 (toggle quoted c) with whole | ⟨xs, ys, rfl, piece, after⟩
      · refine .inl ?_
        rw [piecesFrom_cons, if_neg cuts, whole, List.modifyHead_cons]
      · refine .inr ⟨c :: xs, ys, rfl, ?_, ?_⟩
        · rw [piecesFrom_cons, if_neg cuts, piece, List.modifyHead_cons]
        · rw [quotedAfter_cons, if_neg cuts, after]

/-! ### What is read of a comment -/

/-- The part of a comment before a semicolon is a comment. -/
theorem IsComment.of_append_semicolon (comment : IsComment (xs ++ ';' :: ys)) : IsComment xs := by
  unfold IsComment at comment ⊢
  rw [List.find?_append] at comment
  cases first : xs.find? (fun c => !Text.isBlank c) with
  | some c => rwa [first] at comment
  | none =>
    -- then the semicolon would be the first character that is no blank
    rw [first, Option.none_or, List.find?_cons_of_pos (by decide)] at comment
    exact absurd comment (by decide)

/-- A piece that is a comment is no command. -/
theorem IsComment.commands_singleton (comment : IsComment xs) : commands [xs] = [] := by
  have start : (Text.trimStart xs).head? = some '#' := by
    rw [IsComment, List.find?_eq_head?_dropWhile_not] at comment
    simpa [Text.trimStart] using comment
  have first : (Text.trim xs).head? = some '#' := by
    rcases Text.trimStart_cases xs with blank | ⟨c, rest, visible, begins, longer⟩
    · rw [Text.trimStart_eq_nil blank] at start
      cases start
    · rw [(Text.trim_append_cons visible begins longer).1, List.head?_cons]
      rwa [begins, List.head?_cons] at start
  have skipped : ¬ isCommand (Text.trim xs) = true := by simp [isCommand, first]
  rw [commands_cons, if_neg skipped]
  rfl

/-- A comment that is not cut is ignored as a whole. -/
theorem IsComment.segmentsOf_eq_nil (comment : IsComment xs) (piece : piecesFrom false xs = [xs]) :
    segmentsOf xs = [] := by
  rw [segmentsOf_eq_commands, piece, comment.commands_singleton]

/-- **What stands behind the first cut in a comment is read.** -/
theorem segmentsOf_comment_semicolon (comment : IsComment (xs ++ ';' :: ys))
    (piece : piecesFrom false xs = [xs]) (after : quotedAfter false xs = false) :
    segmentsOf (xs ++ ';' :: ys) = segmentsOf ys := by
  rw [segmentsOf_append_semicolon after, comment.of_append_semicolon.segmentsOf_eq_nil piece,
    List.nil_append]

/-- A comment line has no segment iff there is none behind any of its semicolons outside of
quotes. -/
theorem segmentsOf_comment_eq_nil_iff (oneLine : '\n' ∉ line) (comment : IsComment line) :
    segmentsOf line = [] ↔
      ∀ xs ys, line = xs ++ ';' :: ys → Even (xs.count '"') → segmentsOf ys = [] := by
  constructor
  · rintro none xs ys rfl even
    have before : '\n' ∉ xs := fun mem => oneLine (List.mem_append_left _ mem)
    have outside : quotedAfter false xs = false := by simp [quotedAfter_eq_decide before, even]
    rw [segmentsOf_append_semicolon outside, List.append_eq_nil_iff] at none
    exact none.2
  · intro behind
    rcases exists_cut oneLine false with whole | ⟨xs, ys, rfl, piece, after⟩
    · exact comment.segmentsOf_eq_nil whole
    · have before : '\n' ∉ xs := fun mem => oneLine (List.mem_append_left _ mem)
      have even : Even (xs.count '"') := by simpa [quotedAfter_eq_decide before] using after
      rw [segmentsOf_comment_semicolon comment piece after]
      exact behind xs ys rfl even

end Script

/-- **When a comment line can be taken out of a script.**  A line whose first character that is no
blank is `#` contributes no segment, and taking it out of any script leaves the segments of the
script as they are, iff there is no segment behind any semicolon in the line with an even number of
quotes before it. -/
theorem comment_removable_iff {line : String} (oneLine : '\n' ∉ line.toList)
    (comment : Script.IsComment line.toList) :
    let silent := ∀ xs ys, line.toList = xs ++ ';' :: ys → Even (xs.count '"') →
      Script.segmentsOf ys = []
    (Script.segments line = [] ↔ silent) ∧
    ∀ before after : List String,
      Script.segments ("\n".intercalate (before ++ line :: after)) =
        Script.segments ("\n".intercalate (before ++ after)) ↔ silent := by
  intro silent
  have none_iff : Script.segments line = [] ↔ silent := by
    rw [Script.segments, List.map_eq_nil_iff]
    exact Script.segmentsOf_comment_eq_nil_iff oneLine comment
  refine ⟨none_iff, fun before after => ?_⟩
  rw [← none_iff, Script.segments_intercalate, Script.segments_intercalate, List.flatMap_append,
    List.flatMap_append, List.flatMap_cons, List.append_cancel_left_eq, List.append_left_eq_self]

/-- A comment with a semicolon in quotes, and behind its last semicolon another comment. -/
theorem comment_removable_quoted :
    let line := " # set \"a;b\" 1 ; # get \"a;b\""
    '\n' ∉ line.toList ∧ Script.IsComment line.toList ∧
      Script.segments ("\n".intercalate ["count", line, "list"]) = ["count", "list"] := by
  intro line
  have oneLine : '\n' ∉ line.toList := by decide
  have comment : Script.IsComment line.toList := by decide
  obtain ⟨none_iff, removable⟩ := comment_removable_iff oneLine comment
  have none : Script.segments line = [] := by decide
  have silent := none_iff.mp none
  exact ⟨oneLine, comment, (removable ["count"] ["list"]).mpr silent⟩

/-- **A comment line is not always ignored.**  What stands behind its semicolon is a command. -/
theorem not_forall_comment_ignored : ¬ ∀ line : String, '\n' ∉ line.toList →
    Script.IsComment line.toList → Script.segments line = [] := by
  intro ignored
  have none := ignored "# create a 1; create b 2" (by decide) (by decide)
  have found : Script.segments "# create a 1; create b 2" = ["create b 2"] := rfl
  rw [found] at none
  cases none

end NamedCells

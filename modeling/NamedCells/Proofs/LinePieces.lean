import NamedCells.Proofs.PieceSpans
import NamedCells.Proofs.WholeSegments
import NamedCells.Proofs.WordForms

/-!
# The segments of a script, line by line

A script is cut in one pass, which carries along whether it stands in quotes.  The same pieces can
be had without a state: the script is taken apart into its lines, and each line is cut at every
semicolon that has an even number of quotes in front of it in the line.  That the pass agrees is a
matter of what has been read of a line already: the pass stands in quotes iff there is an odd number
of them in it.

A segment can be taken for a script of its own, and then it is the only segment of it.  It begins
outside of quotes, as it did in the script, and trimming takes off neither quotes nor semicolons.
So segments that are written on lines of their own are found again.

## Main definitions

* `Script.cutLine` — a line, cut at the semicolons with an even number of quotes before them.
* `Script.segmentsByLine` — the segments of the lines of a script.

## Main results

* `Script.pieces_eq_flatMap_cutLine` — **the pieces of a script are those of its lines.**
* `Script.segmentsOf_of_mem` — **a segment is its own only segment.**
* `Script.parse_ne_empty` — no segment is refused for being empty.
* `segments_line_by_line` — **the segments of a script, and where they stand in it.**
-/

namespace NamedCells

namespace Script

/-! ### Cutting lines -/

/-- Whether a line is cut at one of its characters, given with its place in the line: this has to be
a semicolon, with an even number of quotes in front of it. -/
def cutsAt (line : List Char) (x : Char × Nat) : Bool :=
  decide (x.1 = ';' ∧ Even ((line.take x.2).count '"'))

/-- A line, cut at the semicolons with an even number of quotes before them. -/
def cutLine (line : List Char) : List (List Char) :=
  (line.zipIdx.splitOnP (cutsAt line)).map (List.map Prod.fst)

/-- The segments of the lines of a script: what the lines are cut into, trimmed, without what is
empty or begins with `#`. -/
def segmentsByLine (script : String) : List String :=
  let found := ((script.toList.splitOn '\n').flatMap cutLine).map Text.trim
  (found.filter fun piece => piece ≠ [] ∧ piece.head? ≠ some '#').map String.ofList

variable {cs before line : List Char} {c : Char}

/-- The pass cuts at a character of a line iff the line is cut there. -/
theorem cutsAt_iff (oneLine : '\n' ∉ before ++ c :: cs) :
    cutsAt (before ++ c :: cs) (c, before.length) = true ↔ Cuts (quotedAfter false before) c := by
  rw [List.mem_append, List.mem_cons, not_or, not_or] at oneLine
  obtain ⟨noLineFeed, other, -⟩ := oneLine
  rw [cutsAt, decide_eq_true_iff, List.take_left, Cuts, quotedAfter_eq_decide noLineFeed]
  simp [Ne.symm other]

theorem map_modifyHead_cons {α β : Type} (f : α → β) (x : α) (xss : List (List α)) :
    (xss.modifyHead (x :: ·)).map (List.map f) =
      (xss.map (List.map f)).modifyHead (f x :: ·) := by
  cases xss <;> rfl

/-- What has been read of a line decides how the rest of it is cut. -/
theorem piecesFrom_rest (oneLine : '\n' ∉ before ++ cs) :
    piecesFrom (quotedAfter false before) cs =
      ((cs.zipIdx before.length).splitOnP (cutsAt (before ++ cs))).map (List.map Prod.fst) := by
  induction cs generalizing before with
  | nil => simp
  | cons c cs ih =>
    have next : before ++ c :: cs = (before ++ [c]) ++ cs := by simp
    have rest := @ih (before ++ [c]) (next ▸ oneLine)
    rw [← next, List.length_append, List.length_singleton, quotedAfter_append, quotedAfter_cons,
      quotedAfter_nil] at rest
    rw [List.zipIdx_cons, List.splitOnP_cons_eq_if_modifyHead, piecesFrom_cons]
    by_cases cuts : Cuts (quotedAfter false before) c
    · rw [if_pos cuts] at rest
      rw [if_pos cuts, if_pos ((cutsAt_iff oneLine).mpr cuts), rest]
      rfl
    · rw [if_neg cuts] at rest
      rw [if_neg cuts, if_neg (mt (cutsAt_iff oneLine).mp cuts), rest, map_modifyHead_cons]

/-- The pass cuts a line at the semicolons with an even number of quotes before them. -/
theorem pieces_eq_cutLine (oneLine : '\n' ∉ line) : pieces line = cutLine line :=
  @piecesFrom_rest line [] oneLine

/-- **The pieces of a script are those of its lines.** -/
theorem pieces_eq_flatMap_cutLine (cs : List Char) :
    pieces cs = (cs.splitOn '\n').flatMap cutLine := by
  -- by induction on the number of characters: what follows the first line is shorter
  induction size : cs.length using Nat.strongRecOn generalizing cs with
  | ind n ih =>
    subst size
    by_cases more : '\n' ∈ cs
    · obtain ⟨line, rest, rfl, oneLine⟩ := List.eq_append_cons_of_mem more
      have shorter : rest.length < (line ++ '\n' :: rest).length := by
        rw [List.length_append, List.length_cons]
        omega
      rw [List.splitOn_append_cons_self, List.splitOn_eq_singleton oneLine, List.flatMap_append,
        List.flatMap_singleton, ← ih _ shorter rest rfl, ← pieces_eq_cutLine oneLine]
      exact piecesFrom_append_lineFeed false line rest
    · rw [List.splitOn_eq_singleton more, List.flatMap_singleton, pieces_eq_cutLine more]

theorem segments_eq_segmentsByLine (script : String) :
    segments script = segmentsByLine script := by
  have same : isCommand = fun piece => decide (piece ≠ [] ∧ piece.head? ≠ some '#') := by
    funext piece
    cases piece with
    | nil => rfl
    | cons c rest =>
      rw [Bool.eq_iff_iff, isCommand_cons]
      simp
  rw [segments, segmentsOf, pieces_eq_flatMap_cutLine, same, segmentsByLine]

/-! ### Segments as scripts -/

variable {segment script : String} {p : List Char}

/-- A segment is trimmed, and it is a command. -/
theorem trim_of_mem_segmentsOf (mem : p ∈ segmentsOf cs) :
    Text.trim p = p ∧ isCommand p = true := by
  obtain ⟨⟨piece, -, rfl⟩, command⟩ := mem_segmentsOf_iff.mp mem
  exact ⟨Text.trim_trim piece, command⟩

/-- **A segment is its own only segment.** -/
theorem segmentsOf_of_mem (mem : p ∈ segmentsOf cs) : segmentsOf p = [p] := by
  obtain ⟨trimmed, command⟩ := trim_of_mem_segmentsOf mem
  exact segmentsOf_of_whole (piecesFrom_of_mem_segmentsOf mem) trimmed command

theorem segments_of_mem (mem : segment ∈ segments script) : segments segment = [segment] := by
  obtain ⟨p, found, rfl⟩ := List.mem_map.mp mem
  rw [segments, String.toList_ofList, segmentsOf_of_mem found, List.map_singleton]

end Script

/-! ### Segments without words -/

/-- A text without words has nothing but blanks in it. -/
theorem Token.blank_of_words?_eq_nil {cs : List Char} (read : words? cs = some []) :
    ∀ c ∈ cs, Text.isBlank c = true := by
  unfold words? at read
  induction cs with
  | nil => exact fun c mem => absurd mem List.not_mem_nil
  | cons c cs ih =>
    rw [scan] at read
    by_cases blank : Text.isBlank c = true
    · rw [if_pos blank] at read
      exact List.forall_mem_cons.mpr ⟨blank, ih read⟩
    · -- any other character begins a word
      rw [if_neg blank] at read
      by_cases mark : c = '"'
      · rw [if_pos mark] at read
        obtain ⟨_, _, _, -, -, -, absent⟩ := exists_of_scan_quoted read
        cases absent
      · rw [if_neg mark] at read
        obtain ⟨_, _, _, -, -, -, absent⟩ := exists_of_scan_bare read
        cases absent

/-- Only a text without words is refused for being empty. -/
theorem Command.words?_of_parse_empty {segment : String}
    (refused : parse segment = .error (.usage "empty command")) :
    Token.words? segment.toList = some [] := by
  unfold parse at refused
  split at refused
  · next words read =>
    cases words with
    | nil => exact read
    | cons head arguments =>
      rw [ofWords] at refused
      split at refused
      · next k keyword =>
        have other : k.synopsis ≠ "empty command" := by cases k <;> decide
        rcases error_of_ofKeyword refused with usage | ⟨word, -, badNumber⟩
        · exact absurd (CommandError.usage.inj usage).symm other
        · cases badNumber
      · cases refused
  · cases refused

/-- **No segment is refused for being empty.** -/
theorem Script.parse_ne_empty {segment script : String} (mem : segment ∈ segments script) :
    Command.parse segment ≠ .error (.usage "empty command") := by
  intro refused
  obtain ⟨p, found, rfl⟩ := List.mem_map.mp mem
  obtain ⟨trimmed, command⟩ := trim_of_mem_segmentsOf found
  have blank := Token.blank_of_words?_eq_nil (Command.words?_of_parse_empty refused)
  rw [String.toList_ofList] at blank
  rw [← trimmed, Text.trim_eq_nil blank] at command
  cases command

/-- **The segments of a script, line by line.**  They are what the lines are cut into at the
semicolons with an even number of quotes before them, trimmed, and without the empty ones and the
comments.  The pieces stand in the script where a scan that counts bytes says, always from one
boundary of characters to another, and the segments stand so within them.  Each segment is a script
of its own with no other segment in it, and it is never refused for being empty; so segments that
are put on lines of their own are found again. -/
theorem segments_line_by_line (script : String) :
    Script.segments script = Script.segmentsByLine script ∧
    List.Forall₂ (Script.Span.Covers script) (Script.spans script) (Script.pieces script.toList) ∧
    List.SublistForall₂ (Script.Span.Contains script) (Script.segments script)
      (Script.spans script) ∧
    (∀ segment ∈ Script.segments script, Script.segments segment = [segment] ∧
      Command.parse segment ≠ .error (.usage "empty command")) ∧
    Script.segments ("\n".intercalate (Script.segments script)) = Script.segments script := by
  refine ⟨Script.segments_eq_segmentsByLine script, Script.covers_spans script,
    Script.contains_spans script, ?_, ?_⟩
  · intro segment mem
    exact ⟨Script.segments_of_mem mem, Script.parse_ne_empty mem⟩
  · have again : (Script.segments script).map Script.segments =
        (Script.segments script).map fun segment => [segment] :=
      List.map_congr_left fun segment mem => Script.segments_of_mem mem
    rw [Script.segments_intercalate, List.flatMap_def, again, ← List.flatMap_def]
    simp

/-- Characters of two bytes in quotes, in a comment and in a name.  The name holds a mark, behind
which the semicolon does not cut; and what stands behind the comment is a command. -/
theorem segments_line_by_line_wide :
    let script := "get \"ü;b\"; # ü;count\nhas é\";x\n list"
    let segment := "has é\";x"
    Script.segments script = ["get \"ü;b\"", "count", segment, "list"] ∧
      Script.segmentsByLine script = ["get \"ü;b\"", "count", segment, "list"] ∧
      Script.spans script = [⟨0, 10⟩, ⟨11, 16⟩, ⟨17, 22⟩, ⟨23, 32⟩, ⟨33, 38⟩] ∧
      Script.Span.Covers script ⟨11, 16⟩ " # ü".toList ∧
      segment ∈ Script.segments script ∧ Script.segments segment = [segment] ∧
      Command.parse segment ≠ .error (.usage "empty command") := by
  intro script segment
  obtain ⟨byLine, covered, -, alone, -⟩ := segments_line_by_line script
  have found : Script.segments script = ["get \"ü;b\"", "count", segment, "list"] := by decide
  have mem : segment ∈ Script.segments script := by
    rw [found]
    decide
  have spans : Script.spans script = [⟨0, 10⟩, ⟨11, 16⟩, ⟨17, 22⟩, ⟨23, 32⟩, ⟨33, 38⟩] := by
    decide
  have pieces : Script.pieces script.toList = ["get \"ü;b\"".toList, " # ü".toList,
    "count".toList, segment.toList, " list".toList] := by decide
  rw [spans, pieces] at covered
  simp only [List.forall₂_cons] at covered
  exact ⟨found, byLine ▸ found, spans, covered.2.1, mem, alone segment mem⟩

end NamedCells

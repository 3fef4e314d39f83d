import NamedCells.Command.Segment
import NamedCells.Proofs.Trim

/-!
# Cutting a script

The scan that cuts a script into pieces carries one bit, whether it stands in quotes.  So the pieces
of a text that goes on are those before, but for the last one, which goes on with the first piece of
the rest as it is read from where the scan stands.  Everything about cutting a joined text follows
from this one equation, `piecesFrom_append`.

## Main definitions

* `Script.piecesFrom q cs` — the pieces of `cs`, read from within quotes if `q` holds.
* `Script.quotedAfter q cs` — where the scan stands after `cs`.
* `Script.commands ps` — the pieces that are commands, trimmed.

## Main results

* `Script.piecesFrom_cons` — what one character does.
* `Script.piecesFrom_append` — the pieces of a text that goes on.
* `Script.segments_append_lineFeed` — **a line end separates two scripts.**
* `Script.segments_intercalate` — the segments of a script are those of its lines.
* `Script.segmentsOf_append_return` — a carriage return at the end of a text does not matter.
-/

namespace NamedCells.Script

/-- The pieces of a text, the beginning of which stands in quotes if `quoted` holds. -/
def piecesFrom (quoted : Bool) (cs : List Char) : List (List Char) :=
  (cs.foldl Scan.step ⟨quoted, [], []⟩).finish

/-- Whether what follows a text stands in quotes. -/
def quotedAfter (quoted : Bool) (cs : List Char) : Bool :=
  (cs.foldl Scan.step ⟨quoted, [], []⟩).quoted

/-- The pieces that are commands, trimmed. -/
def commands (ps : List (List Char)) : List (List Char) := (ps.map Text.trim).filter isCommand

theorem pieces_eq_piecesFrom (cs : List Char) : pieces cs = piecesFrom false cs := rfl

theorem segmentsOf_eq_commands (cs : List Char) :
    segmentsOf cs = commands (piecesFrom false cs) := rfl

/-! ### The scan from any state -/

/-- A character that ends a piece. -/
def Cuts (quoted : Bool) (c : Char) : Prop := c = '\n' ∨ (c = ';' ∧ quoted = false)

instance (quoted : Bool) (c : Char) : Decidable (Cuts quoted c) :=
  inferInstanceAs (Decidable (_ ∨ _))

/-- Whether what follows a character that ends no piece stands in quotes. -/
def toggle (quoted : Bool) (c : Char) : Bool := if c = '"' then !quoted else quoted

theorem Scan.step_of_cuts {s : Scan} {c : Char} (h : Cuts s.quoted c) :
    s.step c = ⟨false, [], s.piece.reverse :: s.done⟩ := by
  unfold Scan.step
  rcases h with lineFeed | semicolon
  · rw [if_pos lineFeed]
  · have other : c ≠ '\n' := by rw [semicolon.1]; decide
    rw [if_neg other, if_pos semicolon]

theorem Scan.step_of_not_cuts {s : Scan} {c : Char} (h : ¬ Cuts s.quoted c) :
    s.step c = ⟨toggle s.quoted c, c :: s.piece, s.done⟩ := by
  unfold Scan.step
  rw [if_neg fun lineFeed => h (.inl lineFeed), if_neg fun semicolon => h (.inr semicolon)]
  rfl

/-- What stands before a scan comes before what it finds, and the characters since the last cut
belong to the first piece found. -/
theorem finish_foldl_step (cs : List Char) (s : Scan) :
    (cs.foldl Scan.step s).finish =
      s.done.reverse ++ (piecesFrom s.quoted cs).modifyHead (s.piece.reverse ++ ·) := by
  induction cs generalizing s with
  | nil => simp [piecesFrom, Scan.finish]
  | cons c cs ih =>
    rw [piecesFrom, List.foldl_cons, List.foldl_cons, ih, ih]
    by_cases h : Cuts s.quoted c
    · rw [Scan.step_of_cuts h, Scan.step_of_cuts (s := ⟨s.quoted, [], []⟩) h]
      simp
    · rw [Scan.step_of_not_cuts h, Scan.step_of_not_cuts (s := ⟨s.quoted, [], []⟩) h]
      simp [Function.comp_def]

/-- Whether a text ends in quotes depends on nothing but whether it begins in quotes. -/
theorem quoted_foldl_step (cs : List Char) (s : Scan) :
    (cs.foldl Scan.step s).quoted = quotedAfter s.quoted cs := by
  induction cs generalizing s with
  | nil => rfl
  | cons c cs ih =>
    rw [quotedAfter, List.foldl_cons, List.foldl_cons, ih, ih]
    by_cases h : Cuts s.quoted c
    · rw [Scan.step_of_cuts h, Scan.step_of_cuts (s := ⟨s.quoted, [], []⟩) h]
    · rw [Scan.step_of_not_cuts h, Scan.step_of_not_cuts (s := ⟨s.quoted, [], []⟩) h]

/-! ### Character by character -/

@[simp] theorem piecesFrom_nil (quoted : Bool) : piecesFrom quoted [] = [[]] := rfl

theorem piecesFrom_cons (quoted : Bool) (c : Char) (cs : List Char) :
    piecesFrom quoted (c :: cs) =
      if Cuts quoted c then [] :: piecesFrom false cs
      else (piecesFrom (toggle quoted c) cs).modifyHead (c :: ·) := by
  rw [piecesFrom, List.foldl_cons, finish_foldl_step]
  by_cases h : Cuts quoted c
  · rw [Scan.step_of_cuts (s := ⟨quoted, [], []⟩) h, if_pos h]
    cases piecesFrom false cs <;> simp
  · rw [Scan.step_of_not_cuts (s := ⟨quoted, [], []⟩) h, if_neg h]
    simp

@[simp] theorem quotedAfter_nil (quoted : Bool) : quotedAfter quoted [] = quoted := rfl

theorem quotedAfter_cons (quoted : Bool) (c : Char) (cs : List Char) :
    quotedAfter quoted (c :: cs) =
      quotedAfter (if Cuts quoted c then false else toggle quoted c) cs := by
  rw [quotedAfter, List.foldl_cons, quoted_foldl_step]
  by_cases h : Cuts quoted c
  · rw [Scan.step_of_cuts (s := ⟨quoted, [], []⟩) h, if_pos h]
  · rw [Scan.step_of_not_cuts (s := ⟨quoted, [], []⟩) h, if_neg h]

theorem piecesFrom_lineFeed (quoted : Bool) (cs : List Char) :
    piecesFrom quoted ('\n' :: cs) = [] :: piecesFrom false cs := by
  rw [piecesFrom_cons, if_pos (.inl rfl)]

theorem piecesFrom_semicolon (cs : List Char) :
    piecesFrom false (';' :: cs) = [] :: piecesFrom false cs := by
  rw [piecesFrom_cons, if_pos (.inr ⟨rfl, rfl⟩)]

/-! ### Texts that go on -/

/-- **The pieces of a text that goes on.**  Only the last piece is affected. -/
theorem piecesFrom_append (quoted : Bool) (xs : List Char) :
    ∃ complete last, piecesFrom quoted xs = complete ++ [last] ∧ ∀ ys,
      piecesFrom quoted (xs ++ ys) =
        complete ++ (piecesFrom (quotedAfter quoted xs) ys).modifyHead (last ++ ·) := by
  let s := xs.foldl Scan.step ⟨quoted, [], []⟩
  refine ⟨s.done.reverse, s.piece.reverse, ?_, fun ys => ?_⟩
  · simp [piecesFrom, Scan.finish, s]
  · rw [piecesFrom, List.foldl_append, finish_foldl_step, quotedAfter]

theorem quotedAfter_append (quoted : Bool) (xs ys : List Char) :
    quotedAfter quoted (xs ++ ys) = quotedAfter (quotedAfter quoted xs) ys := by
  rw [quotedAfter, List.foldl_append, quoted_foldl_step]
  rfl

/-- A line end separates two texts, whatever quotes stand before it. -/
theorem piecesFrom_append_lineFeed (quoted : Bool) (xs ys : List Char) :
    piecesFrom quoted (xs ++ '\n' :: ys) = piecesFrom quoted xs ++ piecesFrom false ys := by
  obtain ⟨complete, last, before, goesOn⟩ := piecesFrom_append quoted xs
  rw [goesOn, before, piecesFrom_lineFeed]
  simp

/-- A semicolon that does not stand in quotes separates two texts. -/
theorem piecesFrom_append_semicolon {quoted : Bool} {xs : List Char}
    (h : quotedAfter quoted xs = false) (ys : List Char) :
    piecesFrom quoted (xs ++ ';' :: ys) = piecesFrom quoted xs ++ piecesFrom false ys := by
  obtain ⟨complete, last, before, goesOn⟩ := piecesFrom_append quoted xs
  rw [goesOn, before, h, piecesFrom_semicolon]
  simp

/-! ### Commands -/

@[simp] theorem commands_append (ps qs : List (List Char)) :
    commands (ps ++ qs) = commands ps ++ commands qs := by
  simp [commands]

theorem commands_cons (p : List Char) (ps : List (List Char)) :
    commands (p :: ps) =
      if isCommand (Text.trim p) then Text.trim p :: commands ps else commands ps := by
  rw [commands, List.map_cons, List.filter_cons, commands]

/-- The segments of a text are those of its trimmed pieces that are commands. -/
theorem mem_segmentsOf_iff {cs p : List Char} :
    p ∈ segmentsOf cs ↔ (∃ piece ∈ pieces cs, Text.trim piece = p) ∧ isCommand p = true := by
  rw [segmentsOf, List.mem_filter, List.mem_map]

/-- **A line end separates two scripts.** -/
theorem segmentsOf_append_lineFeed (xs ys : List Char) :
    segmentsOf (xs ++ '\n' :: ys) = segmentsOf xs ++ segmentsOf ys := by
  rw [segmentsOf_eq_commands, piecesFrom_append_lineFeed, commands_append, segmentsOf_eq_commands,
    segmentsOf_eq_commands]

/-- A semicolon that does not stand in quotes separates two scripts. -/
theorem segmentsOf_append_semicolon {xs : List Char} (h : quotedAfter false xs = false)
    (ys : List Char) : segmentsOf (xs ++ ';' :: ys) = segmentsOf xs ++ segmentsOf ys := by
  rw [segmentsOf_eq_commands, piecesFrom_append_semicolon h, commands_append,
    segmentsOf_eq_commands, segmentsOf_eq_commands]

/-- A carriage return at the end of a text does not matter: it belongs to the last piece, which is
trimmed. -/
theorem segmentsOf_append_return (xs : List Char) : segmentsOf (xs ++ ['\r']) = segmentsOf xs := by
  obtain ⟨complete, last, before, goesOn⟩ := piecesFrom_append false xs
  have noCut : ¬ Cuts (quotedAfter false xs) '\r' := by simp [Cuts]
  have blank : ∀ c ∈ ['\r'], Text.isBlank c = true := List.forall_mem_singleton.mpr rfl
  rw [segmentsOf_eq_commands, segmentsOf_eq_commands, goesOn, before, piecesFrom_cons,
    if_neg noCut, piecesFrom_nil, List.modifyHead_cons, List.modifyHead_cons, commands_append,
    commands_append, commands_cons, commands_cons, Text.trim_append_of_blank _ blank]

/-- Segments are known by their characters. -/
theorem segments_eq_iff {script : String} {found : List String} :
    segments script = found ↔ segmentsOf script.toList = found.map String.toList := by
  rw [segments]
  constructor
  · rintro rfl
    simp [Function.comp_def]
  · intro same
    simp [same, Function.comp_def]

theorem segments_append_lineFeed (first second : String) :
    segments (first ++ "\n" ++ second) = segments first ++ segments second := by
  have characters : (first ++ "\n" ++ second).toList = first.toList ++ '\n' :: second.toList := by
    simp
  rw [segments, characters, segmentsOf_append_lineFeed, List.map_append, segments, segments]

/-- The segments of a script are those of its lines. -/
theorem segments_intercalate (lines : List String) :
    segments ("\n".intercalate lines) = lines.flatMap segments := by
  induction lines with
  | nil => rfl
  | cons line rest ih =>
    cases rest with
    | nil => simp
    | cons next rest =>
      rw [String.intercalate_cons_cons, segments_append_lineFeed, ih]
      exact List.flatMap_cons.symm

end NamedCells.Script

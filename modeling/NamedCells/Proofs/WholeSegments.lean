import Mathlib.Algebra.Ring.Parity
import NamedCells.Proofs.Comments
import NamedCells.Proofs.SegmentErrors

/-!
# A segment is not cut again

A piece of a script begins outside of quotes, wherever in the script it stands: it begins with the
script or behind a cut, and the scan cuts at line ends and outside of quotes only.  So the scan goes
through a piece as it would through the same text by itself, and as it did not cut the piece then,
it does not now.  This says of every semicolon in a segment that an odd number of quotes stands
before it in the segment.

## Main results

* `Script.piecesFrom_eq_singleton_iff`, `Script.whole_iff_odd` — which texts are not cut.
* `Script.piecesFrom_of_mem_pieces`, `Script.piecesFrom_of_mem_segmentsOf` — **pieces and segments
  are not cut again.**
* `Script.segmentsOf_of_whole` — a text that is not cut is its own segment.
-/

namespace NamedCells.Script

variable {cs p : List Char} {quoted : Bool}

/-- A text is not cut iff it is a line and every semicolon in it stands in quotes. -/
theorem piecesFrom_eq_singleton_iff :
    piecesFrom quoted p = [p] ↔
      '\n' ∉ p ∧ ∀ xs ys, p = xs ++ ';' :: ys → quotedAfter quoted xs = true := by
  constructor
  · intro whole
    have mem : p ∈ piecesFrom quoted p := by simp [whole]
    refine ⟨lineFeed_notMem_of_mem_piecesFrom mem, ?_⟩
    rintro xs ys rfl
    rw [← Bool.not_eq_false]
    intro outside
    -- a semicolon outside of quotes would make a piece more
    obtain ⟨first, rest, before⟩ := exists_piecesFrom_eq_cons quoted xs
    obtain ⟨next, others, behind⟩ := exists_piecesFrom_eq_cons false ys
    rw [piecesFrom_append_semicolon outside, before, behind] at whole
    simpa using congrArg List.length whole
  · rintro ⟨oneLine, within⟩
    rcases exists_cut oneLine quoted with whole | ⟨xs, ys, split, -, outside⟩
    · exact whole
    · rw [within xs ys split] at outside
      cases outside

/-- The first piece of a text is not cut again where it begins, and no other is by itself. -/
theorem piecesFrom_of_eq_cons {first : List Char} {rest : List (List Char)}
    (cut : piecesFrom quoted cs = first :: rest) :
    piecesFrom quoted first = [first] ∧ ∀ p ∈ rest, piecesFrom false p = [p] := by
  induction cs generalizing quoted first rest with
  | nil =>
    rw [piecesFrom_nil] at cut
    obtain ⟨rfl, rfl⟩ := List.cons.inj cut
    simp
  | cons c cs ih =>
    rw [piecesFrom_cons] at cut
    by_cases cuts : Cuts quoted c
    · obtain ⟨next, others, behind⟩ := exists_piecesFrom_eq_cons false cs
      rw [if_pos cuts] at cut
      obtain ⟨rfl, rfl⟩ := List.cons.inj cut
      rw [behind]
      exact ⟨rfl, List.forall_mem_cons.mpr (ih behind)⟩
    · obtain ⟨next, others, behind⟩ := exists_piecesFrom_eq_cons (toggle quoted c) cs
      rw [if_neg cuts, behind, List.modifyHead_cons] at cut
      obtain ⟨rfl, rfl⟩ := List.cons.inj cut
      obtain ⟨whole, wholeOthers⟩ := ih behind
      refine ⟨?_, wholeOthers⟩
      rw [piecesFrom_cons, if_neg cuts, whole, List.modifyHead_cons]

/-- **A piece is not cut again.** -/
theorem piecesFrom_of_mem_pieces (mem : p ∈ pieces cs) : piecesFrom false p = [p] := by
  obtain ⟨first, rest, cut⟩ := exists_piecesFrom_eq_cons false cs
  rw [pieces_eq_piecesFrom, cut] at mem
  obtain ⟨whole, wholeOthers⟩ := piecesFrom_of_eq_cons cut
  rcases List.mem_cons.mp mem with rfl | mem
  · exact whole
  · exact wholeOthers p mem

theorem count_quote_of_blank {gap : List Char} (blank : ∀ c ∈ gap, Text.isBlank c = true) :
    gap.count '"' = 0 := by
  rw [List.count_eq_zero]
  intro mem
  exact absurd (blank _ mem) (by decide)

/-- Counting quotes, a line is not cut iff an odd number of them stands before every semicolon. -/
theorem whole_iff_odd :
    piecesFrom false p = [p] ↔
      '\n' ∉ p ∧ ∀ xs ys, p = xs ++ ';' :: ys → Odd (xs.count '"') := by
  rw [piecesFrom_eq_singleton_iff]
  refine and_congr_right fun oneLine => forall₂_congr fun xs ys => imp_congr_right fun split => ?_
  have before : '\n' ∉ xs := by
    intro mem
    exact oneLine (split ▸ List.mem_append_left _ mem)
  rw [quotedAfter_eq_decide before, decide_eq_true_iff, Nat.not_even_iff_odd]

/-- Trimming takes no quotes off, so that a line that is not cut is not cut when it is trimmed. -/
theorem piecesFrom_trim (whole : piecesFrom false p = [p]) :
    piecesFrom false (Text.trim p) = [Text.trim p] := by
  obtain ⟨front, back, shape, blank, -⟩ := Text.exists_trim p
  obtain ⟨oneLine, odd⟩ := whole_iff_odd.mp whole
  refine whole_iff_odd.mpr ⟨fun mem => oneLine (mem_of_mem_trim mem), ?_⟩
  intro xs ys split
  have split' : p = (front ++ xs) ++ ';' :: (ys ++ back) := by
    rw [split] at shape
    simpa using shape
  have odd := odd _ _ split'
  rwa [List.count_append, count_quote_of_blank blank, Nat.zero_add] at odd

/-- **A segment is not cut again.** -/
theorem piecesFrom_of_mem_segmentsOf (mem : p ∈ segmentsOf cs) : piecesFrom false p = [p] := by
  obtain ⟨⟨piece, found, rfl⟩, -⟩ := mem_segmentsOf_iff.mp mem
  exact piecesFrom_trim (piecesFrom_of_mem_pieces found)

/-- A command that is not cut is the only segment of itself. -/
theorem segmentsOf_of_whole (whole : piecesFrom false p = [p]) (trimmed : Text.trim p = p)
    (command : isCommand p = true) : segmentsOf p = [p] := by
  rw [segmentsOf_eq_commands, whole, commands_cons, trimmed, if_pos command]
  rfl

end NamedCells.Script

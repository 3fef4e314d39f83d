import Mathlib.Algebra.Group.Nat.Even
import NamedCells.Command
import NamedCells.Proofs.Segments

/-!
# Joining two commands by a semicolon

The scan that cuts a script toggles at every quote, while a word of a command is quoted only if it
begins with a quote.  So a bare word that holds a single quote, such as `a"b`, is read in one way by
the scan and in another by the reader of commands, and a semicolon behind it does not cut.  Two
one-line texts with one segment each can be joined iff the quotes of the first are even in number;
only a comment at its end, which takes what follows with it, leaves another way.

## Main definitions

* `Script.EndsInComment` — the last piece of a text is a comment.
* `Script.segmentsResumed` — the segments that come after the first cut of a text that begins in
  quotes.

## Main results

* `Script.quotedAfter_eq_decide` — the scan counts quotes.
* `segments_join_iff` — **when two commands joined by a semicolon are both found.**
* `not_forall_segments_join` — not always.
-/

namespace NamedCells

namespace Script

/-- Within a line each quote leads from one state of the scan to the other. -/
theorem quotedAfter_eq_xor {cs : List Char} (oneLine : '\n' ∉ cs) (quoted : Bool) :
    quotedAfter quoted cs = (quoted ^^ decide (¬ Even (cs.count '"'))) := by
  induction cs generalizing quoted with
  | nil => simp
  | cons c cs ih =>
    rw [List.mem_cons, not_or] at oneLine
    -- a semicolon outside quotes cuts, but leaves the scan outside quotes
    have next : (if Cuts quoted c then false else toggle quoted c) = toggle quoted c := by
      split
      · next cut =>
        obtain lineFeed | ⟨rfl, rfl⟩ := cut
        · exact absurd lineFeed.symm oneLine.1
        · rfl
      · rfl
    rw [quotedAfter_cons, next, ih oneLine.2, toggle]
    by_cases quote : c = '"'
    · subst quote
      rw [if_pos rfl, List.count_cons_self]
      by_cases even : Even (cs.count '"')
      · cases quoted <;> simp [Nat.even_add_one, even]
      · cases quoted <;> simp [Nat.even_add_one, even]
    · rw [if_neg quote, List.count_cons_of_ne quote]

/-- Within a line the scan stands in quotes iff it has met an odd number of them. -/
theorem quotedAfter_eq_decide {cs : List Char} (oneLine : '\n' ∉ cs) :
    quotedAfter false cs = decide (¬ Even (cs.count '"')) := by
  rw [quotedAfter_eq_xor oneLine, Bool.false_xor]

/-- Whenever the scan stands in quotes, the piece that it collects holds one. -/
theorem quote_mem_piece (cs : List Char) {s : Scan} (h : s.quoted = true → '"' ∈ s.piece) :
    (cs.foldl Scan.step s).quoted = true → '"' ∈ (cs.foldl Scan.step s).piece := by
  induction cs generalizing s with
  | nil => exact h
  | cons c cs ih =>
    refine ih (s := s.step c) fun stays => ?_
    by_cases cuts : Cuts s.quoted c
    · rw [Scan.step_of_cuts cuts] at stays
      cases stays
    · rw [Scan.step_of_not_cuts cuts] at stays ⊢
      by_cases quote : c = '"'
      · exact List.mem_cons.mpr (.inl quote.symm)
      · rw [toggle, if_neg quote] at stays
        exact List.mem_cons_of_mem c (h stays)

/-- A scan that stands in quotes met one of them after the last cut. -/
theorem quote_mem_of_quotedAfter {xs last : List Char} {complete : List (List Char)}
    (cut : piecesFrom false xs = complete ++ [last]) (quoted : quotedAfter false xs = true) :
    '"' ∈ last := by
  let s := xs.foldl Scan.step ⟨false, [], []⟩
  have found : '"' ∈ s.piece := quote_mem_piece xs (by simp) quoted
  have whole : s.done.reverse ++ [s.piece.reverse] = complete ++ [last] := by
    rw [← cut]
    simp [piecesFrom, Scan.finish, s]
  have last_eq := List.append_inj_right' whole rfl
  rw [← List.singleton_inj.mp last_eq]
  exact List.mem_reverse.mpr found

/-- The last piece of a text is a comment. -/
def EndsInComment (cs : List Char) : Prop :=
  ∃ last ∈ (pieces cs).getLast?, (Text.trim last).head? = some '#'

/-- The segments that come after the first cut of a text that begins in quotes. -/
def segmentsResumed (cs : List Char) : List (List Char) := commands (piecesFrom true cs).tail

theorem isCommand_cons (c : Char) (cs : List Char) :
    isCommand (c :: cs) = true ↔ c ≠ '#' := by
  simp [isCommand]

/-- There is always a first piece. -/
theorem exists_piecesFrom_eq_cons (quoted : Bool) (cs : List Char) :
    ∃ first rest, piecesFrom quoted cs = first :: rest := by
  obtain ⟨complete, last, cut, -⟩ := piecesFrom_append quoted cs
  cases complete with
  | nil => exact ⟨last, [], cut⟩
  | cons p ps => exact ⟨p, ps ++ [last], cut⟩

/-- A semicolon in quotes, and what stands before the next cut, go on the last piece. -/
theorem segmentsOf_join_of_quoted {xs ys last first : List Char} {complete rest : List (List Char)}
    (quoted : quotedAfter false xs = true) (cut : piecesFrom false xs = complete ++ [last])
    (within : piecesFrom true ys = first :: rest) :
    segmentsOf (xs ++ ';' :: ys) =
      commands complete ++ commands ((last ++ ';' :: first) :: rest) := by
  obtain ⟨complete', last', cut', goesOn⟩ := piecesFrom_append false xs
  obtain ⟨rfl, same⟩ := List.append_inj' (cut'.symm.trans cut) rfl
  obtain rfl := List.singleton_inj.mp same
  have noCut : ¬ Cuts true ';' := by decide
  have stays : toggle true ';' = true := rfl
  rw [segmentsOf_eq_commands, goesOn, quoted, piecesFrom_cons, if_neg noCut, stays, within,
    commands_append]
  rfl

/-- When two texts with one segment each are joined by a semicolon, both segments are found iff the
semicolon does not stand in quotes, or it stands in a comment and the second text has its segment
also after the cut that ends the comment. -/
theorem segmentsOf_join_iff {xs ys a b : List Char} (hx : segmentsOf xs = [a])
    (hy : segmentsOf ys = [b]) :
    segmentsOf (xs ++ ';' :: ys) = [a, b] ↔
      quotedAfter false xs = false ∨ (EndsInComment xs ∧ segmentsResumed ys = [b]) := by
  cases quoted : quotedAfter false xs with
  | false =>
    rw [segmentsOf_eq_commands, piecesFrom_append_semicolon quoted, commands_append,
      ← segmentsOf_eq_commands, ← segmentsOf_eq_commands, hx, hy]
    simp
  | true =>
    obtain ⟨complete, last, cut, -⟩ := piecesFrom_append false xs
    obtain ⟨first, rest, within⟩ := exists_piecesFrom_eq_cons true ys
    have joined := segmentsOf_join_of_quoted quoted cut within
    have resumed : segmentsResumed ys = commands rest := by rw [segmentsResumed, within]; rfl
    have before : commands complete ++ commands [last] = [a] := by
      rw [← commands_append, ← cut, ← segmentsOf_eq_commands, hx]
    have comment_iff : EndsInComment xs ↔ (Text.trim last).head? = some '#' := by
      rw [EndsInComment, pieces_eq_piecesFrom, cut, List.getLast?_concat]
      simp
    -- the last piece is not blank, as it holds a quote
    rcases Text.trimStart_cases last with blank | ⟨c, tail, visible, start, longer⟩
    · have := blank '"' (quote_mem_of_quotedAfter cut quoted)
      exact absurd this (by decide)
    obtain ⟨alone, longer'⟩ := Text.trim_append_cons visible start longer
    have semicolon := longer' (d := ';') (by decide) first
    rw [joined, comment_iff, resumed, alone, commands_cons, semicolon]
    rw [commands_cons, alone] at before
    by_cases comment : c = '#'
    · -- the first text has its segment before the comment, and the comment grows
      have skipped (cs : List Char) : ¬ isCommand (c :: cs) = true := by
        rw [isCommand_cons]; exact fun h => h comment
      rw [if_neg (skipped _)] at before
      rw [List.cons_append, if_neg (skipped _)]
      have head : commands complete = [a] := by simpa [commands] using before
      rw [head]
      simp [comment]
    · -- the last piece is the segment of the first text, and the segment grows
      have kept (cs : List Char) : isCommand (c :: cs) = true := (isCommand_cons c cs).mpr comment
      rw [if_pos (kept _)] at before
      rw [List.cons_append, if_pos (kept _)]
      obtain ⟨none, one⟩ : commands complete = [] ∧ c :: Text.trimEnd tail = a := by
        rw [show commands [] = [] from rfl] at before
        have := List.append_eq_singleton_iff.mp before
        simpa using this
      rw [none, List.nil_append]
      constructor
      · intro both
        -- the first segment is longer than the segment of the first text
        have heads := (List.cons.inj both).1
        rw [← one] at heads
        have lengths := congrArg List.length heads
        have trimmed := Text.length_trimEnd_le tail
        simp only [List.length_cons, List.length_append] at lengths
        omega
      · simp [comment]

end Script

/-- **When two commands joined by a semicolon are both found.**  For two texts of one segment each,
the first of which is a single line, this is so iff the first holds an even number of quotes.
Otherwise the semicolon stands in quotes for the scan.  Then the join is right only if the first
text ends in a comment, and the second has its segment once more behind the end of that comment. -/
theorem segments_join_iff {first second a b : String} (oneLine : '\n' ∉ first.toList)
    (hfirst : Script.segments first = [a]) (hsecond : Script.segments second = [b]) :
    Script.segments (first ++ ";" ++ second) = [a, b] ↔
      Even (first.toList.count '"') ∨
        (Script.EndsInComment first.toList ∧
          Script.segmentsResumed second.toList = [b.toList]) := by
  have characters : (first ++ ";" ++ second).toList = first.toList ++ ';' :: second.toList := by
    simp
  rw [Script.segments_eq_iff] at hfirst hsecond
  rw [Script.segments_eq_iff, characters]
  refine (Script.segmentsOf_join_iff hfirst hsecond).trans ?_
  rw [Script.quotedAfter_eq_decide oneLine]
  simp

/-- Two commands with quoted names, which hold semicolons themselves: their join is right. -/
theorem segments_join_quoted :
    '\n' ∉ "create \"x;1\" 105".toList ∧
      Script.segments "create \"x;1\" 105" = ["create \"x;1\" 105"] ∧
      Script.segments "get \"a;b\"" = ["get \"a;b\""] ∧
      Script.segments ("create \"x;1\" 105" ++ ";" ++ "get \"a;b\"") =
        ["create \"x;1\" 105", "get \"a;b\""] := by
  have oneLine : '\n' ∉ "create \"x;1\" 105".toList := by decide
  have hfirst : Script.segments "create \"x;1\" 105" = ["create \"x;1\" 105"] := rfl
  have hsecond : Script.segments "get \"a;b\"" = ["get \"a;b\""] := rfl
  have even : Even ("create \"x;1\" 105".toList.count '"') := by decide
  exact ⟨oneLine, hfirst, hsecond, (segments_join_iff oneLine hfirst hsecond).mpr (.inl even)⟩

/-- **Two commands joined by a semicolon are not always both found.**  Here the first is a name that
merely contains a quote. -/
theorem not_forall_segments_join : ¬ ∀ (first second a b : String) (c d : Command),
    '\n' ∉ first.toList → '\n' ∉ second.toList →
    Script.segments first = [a] → Command.parse a = .ok c →
    Script.segments second = [b] → Command.parse b = .ok d →
    Script.segments (first ++ ";" ++ second) = [a, b] := by
  intro h
  have joined := h "get a\"b" "count" "get a\"b" "count" (.get "a\"b") .count (by decide)
    (by decide) rfl rfl rfl rfl
  have lost : Script.segments ("get a\"b" ++ ";" ++ "count") = ["get a\"b;count"] := rfl
  rw [lost] at joined
  exact absurd joined (by decide)

end NamedCells

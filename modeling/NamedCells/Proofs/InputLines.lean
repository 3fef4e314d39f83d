import NamedCells.CommandLine
import NamedCells.Proofs.Segments
import NamedCells.Proofs.Utf8

/-!
# The lines of an encoded text

Input comes as bytes and is cut at the bytes of line ends before anything is decoded.  For the
bytes of a text this is cutting the text at its line ends, because the byte of a line end stands in
no other character.  A carriage return that the reader of lines takes away would have been trimmed,
and a last line that is missing because it is empty has no segments, so line by line the text has
the segments that it has as a whole.

## Main definitions

* `CommandLine.withoutReturn` — a line without the carriage return at its end.
* `CommandLine.EncodesLines lines cs` — the lines encode texts that have the segments of `cs`.

## Main results

* `CommandLine.inputLines_append_lineFeed`, `CommandLine.inputLines_of_notMem` — the lines of an
  input, from the left.
* `CommandLine.encodesLines_inputLines` — **line by line a text has the segments of the whole.**
-/

namespace NamedCells.CommandLine

/-- A line without the carriage return at its end, if it has one. -/
def withoutReturn (line : List UInt8) : List UInt8 :=
  if line.getLast? = some 13 then line.dropLast else line

/-! ### The lines of an input -/

/-- A byte of an input after the bytes of a line, which are in reverse order like the lines
before. -/
def lineStep : List UInt8 × List (List UInt8) → UInt8 → List UInt8 × List (List UInt8) :=
  fun (line, done) byte =>
    if byte = 10 then ([], (if line.head? = some 13 then line.drop 1 else line).reverse :: done)
    else (byte :: line, done)

/-- The lines when the input is at its end. -/
def lineFinish : List UInt8 × List (List UInt8) → List (List UInt8) :=
  fun (line, done) => (if line.isEmpty then done else line.reverse :: done).reverse

theorem inputLines_eq_lineFinish (input : List UInt8) :
    inputLines input = lineFinish (input.foldl lineStep ([], [])) := rfl

theorem foldl_lineStep_of_notMem {line : List UInt8} (h : 10 ∉ line)
    (s : List UInt8 × List (List UInt8)) :
    line.foldl lineStep s = (line.reverse ++ s.1, s.2) := by
  induction line generalizing s with
  | nil => rfl
  | cons byte line ih =>
    rw [List.mem_cons, not_or] at h
    rw [List.foldl_cons, ih h.2, lineStep, if_neg (Ne.symm h.1)]
    simp

/-- The lines before stay where they are. -/
theorem lineFinish_foldl_lineStep (input : List UInt8) (line : List UInt8)
    (done : List (List UInt8)) :
    lineFinish (input.foldl lineStep (line, done)) =
      done.reverse ++ lineFinish (input.foldl lineStep (line, [])) := by
  induction input generalizing line done with
  | nil =>
    rw [List.foldl_nil, List.foldl_nil, lineFinish, lineFinish]
    split <;> simp
  | cons byte input ih =>
    rw [List.foldl_cons, List.foldl_cons, lineStep, lineStep]
    by_cases lineFeed : byte = 10
    · rw [if_pos lineFeed, if_pos lineFeed, ih, ih [] [_]]
      simp
    · rw [if_neg lineFeed, if_neg lineFeed, ih]

theorem reverse_drop_head (line : List UInt8) :
    (if line.reverse.head? = some 13 then line.reverse.drop 1 else line.reverse).reverse =
      withoutReturn line := by
  rw [List.head?_reverse, withoutReturn]
  split
  · rw [List.drop_one, List.tail_reverse, List.reverse_reverse]
  · exact List.reverse_reverse line

/-- A line ends at the first line end. -/
theorem inputLines_append_lineFeed {line : List UInt8} (h : 10 ∉ line) (rest : List UInt8) :
    inputLines (line ++ 10 :: rest) = withoutReturn line :: inputLines rest := by
  rw [inputLines_eq_lineFinish, List.foldl_append, foldl_lineStep_of_notMem h, List.foldl_cons,
    List.append_nil, lineStep, if_pos rfl, reverse_drop_head, lineFinish_foldl_lineStep,
    ← inputLines_eq_lineFinish]
  rfl

/-- An input without line ends is a line if it is not empty. -/
theorem inputLines_of_notMem {line : List UInt8} (h : 10 ∉ line) :
    inputLines line = if line = [] then [] else [line] := by
  rw [inputLines_eq_lineFinish, foldl_lineStep_of_notMem h, List.append_nil, lineFinish]
  cases line <;> simp

/-! ### Encoded texts -/

/-- The lines are the bytes of texts that together have the segments of `cs`. -/
inductive EncodesLines : List (List UInt8) → List (List Char) → Prop
  | nil : EncodesLines [] []
  | cons (text : List Char) {lines : List (List UInt8)} {segments : List (List Char)}
    (rest : EncodesLines lines segments) :
    EncodesLines (Utf8.encode text :: lines) (Script.segmentsOf text ++ segments)

/-- The bytes of a text hold the byte of a line end iff the text holds a line end. -/
theorem notMem_encode {cs : List Char} (h : '\n' ∉ cs) : (10 : UInt8) ∉ Utf8.encode cs := by
  intro mem
  obtain ⟨c, here, byte⟩ := List.mem_flatMap.mp mem
  rw [Utf8.eq_of_mem_encodeChar (c := c) (d := '\n') (by decide) byte] at here
  exact h here

theorem encode_append_lineFeed (xs ys : List Char) :
    Utf8.encode (xs ++ '\n' :: ys) = Utf8.encode xs ++ 10 :: Utf8.encode ys := by
  rw [Utf8.encode_append, Utf8.encode_cons]
  rfl

/-- A carriage return is taken away from the text of a line, where it does not matter. -/
theorem withoutReturn_encode (cs : List Char) :
    ∃ text, withoutReturn (Utf8.encode cs) = Utf8.encode text ∧
      Script.segmentsOf text = Script.segmentsOf cs := by
  by_cases last : (Utf8.encode cs).getLast? = some 13
  · rcases List.eq_nil_or_concat' cs with rfl | ⟨front, c, rfl⟩
    · cases last
    · -- the last byte is one of the last character, so that character is a carriage return
      have byte : (13 : UInt8) ∈ String.utf8EncodeChar c := by
        rw [Utf8.encode_append] at last
        refine List.mem_of_getLast? ?_
        rw [← last]
        have bytes : Utf8.encode [c] = String.utf8EncodeChar c := by simp [Utf8.encode]
        rw [bytes, List.getLast?_append_of_ne_nil _ (by simp)]
      have return_eq : c = '\r' := Utf8.eq_of_mem_encodeChar (d := '\r') (by decide) byte
      subst return_eq
      refine ⟨front, ?_, (Script.segmentsOf_append_return front).symm⟩
      rw [withoutReturn, if_pos last, Utf8.encode_append]
      exact List.dropLast_concat
  · exact ⟨cs, by rw [withoutReturn, if_neg last], rfl⟩

/-- **Line by line a text has the segments of the whole.** -/
theorem encodesLines_inputLines (cs : List Char) :
    EncodesLines (inputLines (Utf8.encode cs)) (Script.segmentsOf cs) := by
  -- by induction on the length: the rest after the first line is shorter
  induction n : cs.length using Nat.strong_induction_on generalizing cs with
  | _ n ih =>
    by_cases mem : '\n' ∈ cs
    · -- the first line, without its carriage return, and the lines of the rest
      obtain ⟨line, rest, rfl, notMem⟩ := List.eq_append_cons_of_mem mem
      obtain ⟨text, bytes, same⟩ := withoutReturn_encode line
      rw [encode_append_lineFeed, inputLines_append_lineFeed (notMem_encode notMem), bytes,
        Script.segmentsOf_append_lineFeed, ← same]
      refine .cons text (ih rest.length ?_ rest rfl)
      rw [← n, List.length_append, List.length_cons]
      omega
    · -- one line, or none if it is empty
      rw [inputLines_of_notMem (notMem_encode mem)]
      by_cases empty : Utf8.encode cs = []
      · cases cs with
        | nil => exact .nil
        | cons c cs =>
          rw [Utf8.encode_cons, List.append_eq_nil_iff] at empty
          exact absurd empty.1 (by simp)
      · rw [if_neg empty, ← List.append_nil (Script.segmentsOf cs)]
        exact .cons cs .nil

end NamedCells.CommandLine

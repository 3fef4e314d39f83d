import Mathlib.Data.List.Forall2
import NamedCells.Proofs.Segments

/-!
# Where the pieces of a script stand

A script is stored as bytes, so a piece of it can be given by two places: that of its first byte and
that of the byte behind it.  The places are found by a second scan, which counts bytes and takes it
that a piece begins one byte behind the cut before it.  The two scans stand at the same character
all the time.  Both characters that cut are a single byte long, so what is taken for the beginning
of a character is always one, however long the characters around it are.

## Main definitions

* `Script.Span` — two places in a script.
* `Script.spans` — the places of the pieces, by a scan that counts bytes.
* `Script.Span.Covers` — both places are boundaries of characters, and between them is the piece.
* `Script.Span.Contains` — a segment stands between two such boundaries within a span.

## Main results

* `Script.Cursor.Tracks.step` — one character keeps the two scans together.
* `Script.covers_spans` — **the places that are found are those of the pieces.**
* `Script.contains_spans` — the segments stand within them, in the same order.
-/

namespace NamedCells

/-! ### Texts and their bytes -/

namespace Text

/-- The number of bytes of a text. -/
def byteSize (cs : List Char) : Nat := (String.ofList cs).utf8ByteSize

theorem byteSize_append (xs ys : List Char) :
    byteSize (xs ++ ys) = byteSize xs + byteSize ys := by
  simp only [byteSize, String.ofList_append, String.utf8ByteSize_append]

theorem byteSize_concat (cs : List Char) (c : Char) :
    byteSize (cs ++ [c]) = byteSize cs + c.utf8Size := by
  rw [byteSize_append]
  exact congrArg (byteSize cs + ·) String.utf8ByteSize_singleton

/-- What stands between two boundaries is what the one has behind it and the other in front. -/
theorem extract_of_splits {s before piece after : String} {lower upper : s.Pos}
    (first : lower.Splits before (piece ++ after)) (second : upper.Splits (before ++ piece) after) :
    s.extract lower upper = piece := by
  -- the bytes of the text are those of its three parts
  have parts : s.toByteArray =
      before.toByteArray ++ (piece.toByteArray ++ after.toByteArray) := by
    rw [first.eq_append, String.toByteArray_append, String.toByteArray_append]
  have start : lower.offset.byteIdx = before.toByteArray.size + 0 := by
    rw [first.offset_eq_rawEndPos]
    rfl
  have stop : upper.offset.byteIdx = before.toByteArray.size + piece.toByteArray.size := by
    rw [second.offset_eq_rawEndPos]
    exact String.utf8ByteSize_append
  rw [← String.toByteArray_inj, String.toByteArray_extract, parts, start, stop,
    ByteArray.extract_append_size_add, ByteArray.extract_append_eq_left rfl]

end Text

namespace Script

/-! ### Counting bytes -/

/-- Two places in a script, each as the number of bytes in front of it. -/
structure Span where
  start : Nat
  stop : Nat
  deriving DecidableEq, Repr

/-- The state of a scan that counts bytes. -/
structure Cursor where
  /-- The place of the next character. -/
  offset : Nat
  /-- The place where the piece begins that the next character belongs to. -/
  start : Nat
  /-- Whether an odd number of quotes stands between the last line end and here. -/
  quoted : Bool
  /-- The places of the pieces before the last cut, the latest first. -/
  done : List Span
  deriving DecidableEq, Repr

/-- Scan a character.  What comes next begins one byte behind a cut. -/
def Cursor.step (k : Cursor) (c : Char) : Cursor :=
  let next := k.offset + c.utf8Size
  if c = '"' then ⟨next, k.start, !k.quoted, k.done⟩
  else if c = ';' ∧ k.quoted = false then
    ⟨next, k.offset + 1, k.quoted, ⟨k.start, k.offset⟩ :: k.done⟩
  else if c = '\n' then ⟨next, k.offset + 1, false, ⟨k.start, k.offset⟩ :: k.done⟩
  else ⟨next, k.start, k.quoted, k.done⟩

/-- The places of the pieces of a script, in order.  The last piece goes on to the end. -/
def spans (script : String) : List Span :=
  let k := script.toList.foldl Cursor.step ⟨0, 0, false, []⟩
  (⟨k.start, script.utf8ByteSize⟩ :: k.done).reverse

/-- A span covers a piece of a script: its two places are boundaries of characters, and what stands
between them is the piece. -/
def Span.Covers (script : String) (span : Span) (piece : List Char) : Prop :=
  ∃ lower upper : script.Pos, lower ≤ upper ∧ lower.offset.byteIdx = span.start ∧
    upper.offset.byteIdx = span.stop ∧ script.extract lower upper = String.ofList piece

/-- A span contains a segment: what is left of a piece between two boundaries of characters. -/
def Span.Contains (script segment : String) (span : Span) : Prop :=
  ∃ inner : Span, span.start ≤ inner.start ∧ inner.stop ≤ span.stop ∧
    inner.Covers script segment.toList

/-! ### Places between characters -/

/-- A text holds a piece at a span: the characters in front of it and its own characters are as many
bytes as the span says. -/
def Span.Holds (text : List Char) (span : Span) (piece : List Char) : Prop :=
  ∃ before after, text = before ++ (piece ++ after) ∧ span.start = Text.byteSize before ∧
    span.stop = Text.byteSize (before ++ piece)

variable {text piece : List Char} {span : Span}

/-- A text that goes on holds its pieces where it held them. -/
theorem Span.Holds.append (holds : span.Holds text piece) (more : List Char) :
    span.Holds (text ++ more) piece := by
  obtain ⟨before, after, rfl, start, stop⟩ := holds
  exact ⟨before, after ++ more, by simp, start, stop⟩

/-- Where a text holds a piece, the span covers it. -/
theorem Span.Holds.covers {script : String} (holds : span.Holds script.toList piece) :
    span.Covers script piece := by
  obtain ⟨before, after, whole, start, stop⟩ := holds
  have behind : script = String.ofList before ++ (String.ofList piece ++ String.ofList after) := by
    rw [← String.ofList_append, ← String.ofList_append, ← whole, String.ofList_toList]
  have front : script = String.ofList before ++ String.ofList piece ++ String.ofList after := by
    rw [behind, String.append_assoc]
  have first := String.Pos.splits_ofEqAppend behind
  have second := String.Pos.splits_ofEqAppend front
  refine ⟨_, _, ?_, ?_, ?_, Text.extract_of_splits first second⟩
  · exact (first.le_iff_exists_eq_append second).mpr ⟨_, rfl, rfl⟩
  · rw [start, first.offset_eq_rawEndPos]
    rfl
  · rw [stop, second.offset_eq_rawEndPos, ← String.ofList_append]
    rfl

/-- Where a text holds a piece, it holds within the span what is left of the piece by trimming. -/
theorem Span.Holds.trim (holds : span.Holds text piece) :
    ∃ inner : Span, span.start ≤ inner.start ∧ inner.stop ≤ span.stop ∧
      inner.Holds text (Text.trim piece) := by
  obtain ⟨before, after, rfl, start, stop⟩ := holds
  obtain ⟨front, back, shape, -, -⟩ := Text.exists_trim piece
  generalize Text.trim piece = kept at shape
  subst shape
  simp only [Text.byteSize_append] at stop
  refine ⟨⟨Text.byteSize (before ++ front), Text.byteSize (before ++ front ++ kept)⟩, ?_, ?_,
    before ++ front, back ++ after, by simp, rfl, rfl⟩
  · rw [start, Text.byteSize_append]
    exact Nat.le_add_right _ _
  · simp only [stop, Text.byteSize_append]
    omega

theorem Span.Holds.contains_trim {script : String} (holds : span.Holds script.toList piece) :
    span.Contains script (String.ofList (Text.trim piece)) := by
  obtain ⟨inner, start, stop, within⟩ := holds.trim
  refine ⟨inner, start, stop, ?_⟩
  rw [String.toList_ofList]
  exact within.covers

/-! ### The two scans -/

namespace Cursor

variable {k : Cursor} {s : Scan} {c : Char}

theorem step_of_cuts (cuts : Cuts k.quoted c) :
    k.step c = ⟨k.offset + c.utf8Size, k.offset + c.utf8Size, false,
      ⟨k.start, k.offset⟩ :: k.done⟩ := by
  -- both characters that cut are one byte long
  rcases cuts with rfl | ⟨rfl, outside⟩
  · have size : '\n'.utf8Size = 1 := rfl
    simp [step, size]
  · have size : ';'.utf8Size = 1 := rfl
    simp [step, outside, size]

theorem step_of_not_cuts (keeps : ¬ Cuts k.quoted c) :
    k.step c = ⟨k.offset + c.utf8Size, k.start, toggle k.quoted c, k.done⟩ := by
  obtain ⟨noLineFeed, noSemicolon⟩ := not_or.mp keeps
  by_cases quote : c = '"'
  · simp [step, toggle, quote]
  · simp [step, toggle, quote, noLineFeed, noSemicolon]

/-- A scan that counts bytes stands where a scan of characters does, behind the same text: it is in
quotes iff the other is, and it has the places of the pieces that the other has. -/
structure Tracks (text : List Char) (k : Cursor) (s : Scan) : Prop where
  offset : k.offset = Text.byteSize text
  quoted : k.quoted = s.quoted
  piece : ∃ before, text = before ++ s.piece.reverse ∧ k.start = Text.byteSize before
  done : List.Forall₂ (Span.Holds text) k.done s.done

/-- The piece that the two scans are in ends where they stand. -/
theorem Tracks.holds (tracks : k.Tracks text s) :
    Span.Holds text ⟨k.start, Text.byteSize text⟩ s.piece.reverse := by
  obtain ⟨before, rfl, start⟩ := tracks.piece
  exact ⟨before, [], by simp, start, rfl⟩

/-- **One character keeps the two scans together.** -/
theorem Tracks.step (tracks : k.Tracks text s) (c : Char) :
    (k.step c).Tracks (text ++ [c]) (s.step c) := by
  have offset : k.offset + c.utf8Size = Text.byteSize (text ++ [c]) := by
    rw [Text.byteSize_concat, tracks.offset]
  have done : List.Forall₂ (Span.Holds (text ++ [c])) k.done s.done :=
    tracks.done.imp fun _ _ holds => holds.append [c]
  by_cases cuts : Cuts s.quoted c
  · have cuts' : Cuts k.quoted c := tracks.quoted ▸ cuts
    rw [step_of_cuts cuts', Scan.step_of_cuts cuts]
    have ended : Span.Holds (text ++ [c]) ⟨k.start, k.offset⟩ s.piece.reverse := by
      rw [tracks.offset]
      exact tracks.holds.append [c]
    exact ⟨offset, rfl, ⟨text ++ [c], by simp, offset⟩, .cons ended done⟩
  · have keeps : ¬ Cuts k.quoted c := tracks.quoted ▸ cuts
    rw [step_of_not_cuts keeps, Scan.step_of_not_cuts cuts]
    obtain ⟨before, rfl, start⟩ := tracks.piece
    exact ⟨offset, congrArg (toggle · c) tracks.quoted, ⟨before, by simp, start⟩, done⟩

/-- The two scans stay together over a whole text. -/
theorem Tracks.foldl (tracks : k.Tracks text s) (cs : List Char) :
    (cs.foldl Cursor.step k).Tracks (text ++ cs) (cs.foldl Scan.step s) := by
  induction cs generalizing text k s with
  | nil => rwa [List.append_nil]
  | cons c cs ih =>
    have next := ih (tracks.step c)
    rwa [List.append_assoc, List.singleton_append] at next

end Cursor

/-- The places that are found are those at which the script holds its pieces. -/
theorem holds_spans (script : String) :
    List.Forall₂ (Span.Holds script.toList) (spans script) (pieces script.toList) := by
  have begin : Cursor.Tracks [] ⟨0, 0, false, []⟩ ⟨false, [], []⟩ :=
    ⟨rfl, rfl, ⟨[], rfl, rfl⟩, .nil⟩
  have tracks := begin.foldl script.toList
  have size : Text.byteSize script.toList = script.utf8ByteSize := by
    rw [Text.byteSize, String.ofList_toList]
  have last := tracks.holds
  rw [List.nil_append, size] at last
  exact List.forall₂_reverse_iff.mpr (.cons last tracks.done)

/-- **The places that are found are those of the pieces**, all of them boundaries of characters. -/
theorem covers_spans (script : String) :
    List.Forall₂ (Span.Covers script) (spans script) (pieces script.toList) :=
  (holds_spans script).imp fun _ _ holds => holds.covers

/-- Where a script holds pieces, it has the commands among them within their spans. -/
theorem contains_of_holds {script : String} {found : List Span} {ps : List (List Char)}
    (holds : List.Forall₂ (Span.Holds script.toList) found ps) :
    List.SublistForall₂ (Span.Contains script) ((commands ps).map String.ofList) found := by
  induction holds with
  | nil => exact .nil
  | cons first others ih =>
    rw [commands_cons]
    split
    · exact .cons first.contains_trim ih
    · exact .cons_right ih

/-- **The segments of a script stand in it in their order**, each within the span of a piece. -/
theorem contains_spans (script : String) :
    List.SublistForall₂ (Span.Contains script) (segments script) (spans script) :=
  contains_of_holds (holds_spans script)

end Script

end NamedCells

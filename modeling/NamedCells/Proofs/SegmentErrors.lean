import NamedCells.Proofs.Joining
import NamedCells.Proofs.Messages
import NamedCells.Proofs.WordForms

/-!
# What is said about a segment that is no command

A segment that cannot be read is told about in its own words.  Neither the unknown keyword nor what
should have been a number is quoted, so whatever stands in the segment is printed as it is, apart
from line ends: a segment holds none, as every line end cuts.

## Main definitions

* `CommandError.QuotedFrom` — the errors that show nothing from outside but a word of a text.

## Main results

* `Script.lineFeed_notMem_of_mem_segments` — a segment holds no line end.
* `Token.mem_of_mem_words?` — a word of a text holds nothing but what is in the text.
* `Command.quotedFrom_of_parse` — **an error about a segment shows nothing but what is in it.**
-/

namespace NamedCells

/-! ### Segments -/

namespace Script

variable {cs p : List Char} {quoted : Bool}

/-- A piece holds no line end, as every line end cuts. -/
theorem lineFeed_notMem_of_mem_piecesFrom (mem : p ∈ piecesFrom quoted cs) : '\n' ∉ p := by
  induction cs generalizing quoted p with
  | nil =>
    rw [piecesFrom_nil, List.mem_singleton] at mem
    simp [mem]
  | cons c cs ih =>
    rw [piecesFrom_cons] at mem
    by_cases cuts : Cuts quoted c
    · rw [if_pos cuts, List.mem_cons] at mem
      rcases mem with rfl | mem
      · exact List.not_mem_nil
      · exact ih mem
    · obtain ⟨first, rest, cut⟩ := exists_piecesFrom_eq_cons (toggle quoted c) cs
      rw [if_neg cuts, cut, List.modifyHead_cons, List.mem_cons] at mem
      rcases mem with rfl | mem
      · have other : '\n' ≠ c := fun same => cuts (.inl same.symm)
        have behind : '\n' ∉ first := ih (cut ▸ List.mem_cons_self)
        simp [other, behind]
      · exact ih (cut ▸ List.mem_cons_of_mem first mem)

/-- What is left of a text that is trimmed was in it. -/
theorem mem_of_mem_trim {c : Char} (mem : c ∈ Text.trim cs) : c ∈ cs := by
  have start : c ∈ Text.trimStart cs := (List.rdropWhile_prefix Text.isBlank _).mem mem
  exact (List.dropWhile_suffix Text.isBlank).mem start

/-- A segment holds no line end. -/
theorem lineFeed_notMem_of_mem_segments {segment text : String} (mem : segment ∈ segments text) :
    '\n' ∉ segment.toList := by
  obtain ⟨cs, found, rfl⟩ := List.mem_map.mp mem
  obtain ⟨⟨piece, cut, rfl⟩, -⟩ := mem_segmentsOf_iff.mp found
  rw [String.toList_ofList]
  exact fun lineFeed => lineFeed_notMem_of_mem_piecesFrom cut (mem_of_mem_trim lineFeed)

end Script

/-! ### Errors about segments -/

namespace Token

/-- Every character of a word of a text comes from the text. -/
theorem mem_of_mem_words? {cs : List Char} {words : List (List Char)}
    (read : words? cs = some words) {word : List Char} (mem : word ∈ words) {c : Char}
    (within : c ∈ word) : c ∈ cs := by
  rw [words?] at read
  -- the first word is spelled in the text, and the others are those of what is left of it
  induction words generalizing cs with
  | nil => cases mem
  | cons first words ih =>
    obtain ⟨gap, text, rest, rfl, -, spelled, behind⟩ := exists_spelled read
    rw [List.mem_append, List.mem_append]
    rcases List.mem_cons.mp mem with rfl | mem
    · exact .inr (.inl (spelled.subset within))
    · exact .inr (.inr (ih behind mem))

end Token

/-- The errors that show nothing from outside but a word of a text. -/
inductive CommandError.QuotedFrom (cs : List Char) : CommandError → Prop
  | unknown {word : List Char} (within : ∀ c ∈ word, c ∈ cs) :
    QuotedFrom cs (.unknown (String.ofList word))
  | usage {synopsis : String} (plain : Text.Plain synopsis.toList) : QuotedFrom cs (.usage synopsis)
  | invalidNumber {word : List Char} (within : ∀ c ∈ word, c ∈ cs) :
    QuotedFrom cs (.invalidNumber (String.ofList word))
  | unterminatedQuote : QuotedFrom cs .unterminatedQuote

namespace Command

theorem plain_synopsis (k : Keyword) : Text.Plain k.synopsis.toList := by
  cases k <;> decide

/-- The arguments of a keyword are refused because of one of them, or because of how it is used. -/
theorem quotedFrom_of_ofKeyword {cs : List Char} {k : Keyword} {arguments : List (List Char)}
    {e : CommandError} (refused : ofKeyword k arguments = .error e)
    (within : ∀ word ∈ arguments, ∀ c ∈ word, c ∈ cs) : e.QuotedFrom cs := by
  rcases error_of_ofKeyword refused with rfl | ⟨word, mem, rfl⟩
  · exact .usage (plain_synopsis k)
  · exact .invalidNumber (within word mem)

/-- **An error about a segment shows nothing but what is in it.** -/
theorem quotedFrom_of_parse {segment : String} {e : CommandError}
    (refused : parse segment = .error e) : e.QuotedFrom segment.toList := by
  unfold parse at refused
  split at refused
  · next words read =>
    have within : ∀ word ∈ words, ∀ c ∈ word, c ∈ segment.toList :=
      fun word mem c => Token.mem_of_mem_words? read mem
    cases words with
    | nil =>
      obtain rfl := Except.error.inj refused
      exact .usage (by decide)
    | cons head arguments =>
      obtain ⟨inHead, inArguments⟩ := List.forall_mem_cons.mp within
      rw [ofWords] at refused
      split at refused
      · exact quotedFrom_of_ofKeyword refused inArguments
      · obtain rfl := Except.error.inj refused
        exact .unknown inHead
  · obtain rfl := Except.error.inj refused
    exact .unterminatedQuote

end Command

/-- The message about a text without line ends has none. -/
theorem CommandError.QuotedFrom.lineFeed_notMem {cs : List Char} {e : CommandError}
    (quoted : e.QuotedFrom cs) (oneLine : '\n' ∉ cs) : '\n' ∉ e.message.toList := by
  have behind {opening : String} {word : List Char} (plain : '\n' ∉ opening.toList)
      (within : ∀ c ∈ word, c ∈ cs) : '\n' ∉ (opening ++ String.ofList word).toList := by
    rw [String.toList_append, String.toList_ofList, List.mem_append, not_or]
    exact ⟨plain, fun mem => oneLine (within _ mem)⟩
  cases quoted with
  | unknown within => exact behind (by decide) within
  | invalidNumber within => exact behind (by decide) within
  | @usage synopsis plain =>
    change '\n' ∉ ("usage: " ++ synopsis).toList
    rw [String.toList_append, List.mem_append, not_or]
    exact ⟨by decide, plain.notMem (by decide)⟩
  | unterminatedQuote => decide

end NamedCells

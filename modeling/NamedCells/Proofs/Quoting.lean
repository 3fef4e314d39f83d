import Mathlib.Data.List.TakeWhile
import NamedCells.Proofs.Messages
import NamedCells.Toml.Scalar

/-!
# Quoted texts can be told

Every character is written between quotation marks in such a way that it can be read back, and none
is written with a mark at its front.  So the mark that closes a quoted text is the first one that
can, whatever follows: a quoted text is known, and so is what stands behind it.

## Main definitions

* `Text.readQuoted?` — the character at the front of what stands between two marks.

## Main results

* `Text.readQuoted?_escape` — a character is read as it was written.
* `Text.between_append_inj`, `Text.quote_append_inj` — **a quoted text ends where it was closed.**
-/

namespace NamedCells

/-! ### Hexadecimal numerals -/

theorem hexValue?_digitChar {d : Nat} (digit : d < 16) : hexValue? (Nat.digitChar d) = some d := by
  have digits : ∀ d < 16, hexValue? (Nat.digitChar d) = some d := by decide
  exact digits d digit

/-- A hexadecimal numeral reads back as its number. -/
theorem ofDigits_toDigits (n : Nat) : Toml.ofDigits 16 (Nat.toDigits 16 n) = n := by
  -- by induction on the number: all digits but the last are those of the quotient
  induction n using Nat.strongRecOn with
  | ind n ih =>
    rw [Nat.toDigits_eq_if (by decide)]
    split
    · next small => simp [Toml.ofDigits, hexValue?_digitChar small]
    · next large =>
      have quotient : Toml.ofDigits 16 (Nat.toDigits 16 (n / 16)) = n / 16 := ih _ (by omega)
      have last : n % 16 < 16 := Nat.mod_lt n (by decide)
      unfold Toml.ofDigits at quotient ⊢
      rw [List.foldl_append, quotient]
      simp only [List.foldl_cons, List.foldl_nil, hexValue?_digitChar last, Option.getD_some]
      omega

namespace Text

variable {mark c : Char} {cs ds xs ys : List Char}

/-! ### One character -/

/-- The character whose escape follows a backslash, and what follows the escape. -/
def readEscape? : List Char → Option (Char × List Char)
  | [] => none
  | '0' :: rest => some ('\x00', rest)
  | 't' :: rest => some ('\t', rest)
  | 'n' :: rest => some ('\n', rest)
  | 'r' :: rest => some ('\r', rest)
  | 'u' :: rest =>
    let digits := (rest.drop 1).takeWhile (· ≠ '\x7d')
    some (Char.ofNat (Toml.ofDigits 16 digits), rest.drop (digits.length + 2))
  | c :: rest => some (c, rest)

/-- The character that stands at the front of what is between two marks, and what follows it.  At
the mark that closes there is none. -/
def readQuoted? (mark : Char) : List Char → Option (Char × List Char)
  | [] => none
  | c :: rest => if c = mark then none else if c = '\\' then readEscape? rest else some (c, rest)

theorem readQuoted?_mark : readQuoted? mark (mark :: xs) = none := if_pos rfl

theorem readQuoted?_codePoint (other : '\\' ≠ mark) :
    readQuoted? mark (codePointEscape c ++ xs) = some (c, xs) := by
  have digits : ∀ d ∈ Nat.toDigits 16 c.toNat, decide (d ≠ '\x7d') = true := by
    intro d mem
    have noBrace : ∀ d < 16, decide (Nat.digitChar d ≠ '\x7d') = true := by decide
    obtain ⟨k, below, rfl⟩ := exists_digit_of_mem_toDigits (by decide) mem
    exact noBrace k below
  have code : (Nat.toDigits 16 c.toNat ++ '\x7d' :: xs).takeWhile (· ≠ '\x7d') =
      Nat.toDigits 16 c.toNat := by
    rw [List.takeWhile_append_of_pos digits]
    simp
  have shape : codePointEscape c ++ xs =
      '\\' :: 'u' :: '\x7b' :: (Nat.toDigits 16 c.toNat ++ '\x7d' :: xs) := by
    simp [codePointEscape]
  rw [shape, readQuoted?, if_neg other, if_pos rfl]
  simp only [readEscape?, List.drop_succ_cons, List.drop_zero]
  rw [code, ofDigits_toDigits, Char.ofNat_toNat]
  simp [List.drop_append]

/-- **A character is read as it was written.** -/
theorem readQuoted?_escape (quotation : mark = '"' ∨ mark = '\'') :
    readQuoted? mark (escape mark c ++ xs) = some (c, xs) := by
  have other : '\\' ≠ mark := by rcases quotation with rfl | rfl <;> decide
  have named (d : Char) (read : readEscape? (d :: xs) = some (c, xs)) :
      readQuoted? mark (['\\', d] ++ xs) = some (c, xs) := by
    rw [List.cons_append, readQuoted?, if_neg other, if_pos rfl]
    exact read
  unfold escape
  split
  · next nul => exact named '0' (nul ▸ rfl)
  split
  · next tab => exact named 't' (tab ▸ rfl)
  split
  · next feed => exact named 'n' (feed ▸ rfl)
  split
  · next feed => exact named 'r' (feed ▸ rfl)
  split
  · next marked =>
    refine named c ?_
    rcases marked with rfl | rfl
    · rfl
    · rcases quotation with rfl | rfl <;> rfl
  split
  · exact readQuoted?_codePoint other
  · next unmarked _ =>
    obtain ⟨noBackslash, noMark⟩ := not_or.mp unmarked
    rw [List.singleton_append, readQuoted?, if_neg noMark, if_neg noBackslash]

/-! ### Whole texts -/

/-- What stands between two marks ends at the mark that closes it. -/
theorem eq_of_closed (quotation : mark = '"' ∨ mark = '\'')
    (same : cs.flatMap (escape mark) ++ mark :: xs = ds.flatMap (escape mark) ++ mark :: ys) :
    cs = ds ∧ xs = ys := by
  have read (e : Char) (es zs : List Char) :
      readQuoted? mark ((e :: es).flatMap (escape mark) ++ zs) =
        some (e, es.flatMap (escape mark) ++ zs) := by
    rw [List.flatMap_cons, List.append_assoc, readQuoted?_escape quotation]
  -- on both sides the reader finds the next character, or the closing mark
  induction cs generalizing ds with
  | nil =>
    cases ds with
    | nil => exact ⟨rfl, List.tail_eq_of_cons_eq same⟩
    | cons d ds =>
      have found := congrArg (readQuoted? mark) same
      rw [read] at found
      exact absurd (readQuoted?_mark.symm.trans found) nofun
  | cons c cs ih =>
    have found := congrArg (readQuoted? mark) same
    rw [read] at found
    cases ds with
    | nil => exact absurd (found.trans readQuoted?_mark) nofun
    | cons d ds =>
      rw [read] at found
      obtain ⟨rfl, rest⟩ := Prod.mk.inj (Option.some.inj found)
      obtain ⟨rfl, after⟩ := ih rest
      exact ⟨rfl, after⟩

/-- **A quoted text ends where it was closed**, so that both it and what follows it are known. -/
theorem between_append_inj (quotation : mark = '"' ∨ mark = '\'') :
    between mark cs ++ xs = between mark ds ++ ys ↔ cs = ds ∧ xs = ys := by
  constructor
  · intro same
    refine eq_of_closed quotation ?_
    simpa [between] using same
  · rintro ⟨rfl, rfl⟩
    rfl

theorem quote_append_inj {s t a b : String} :
    quote s ++ a = quote t ++ b ↔ s = t ∧ a = b := by
  rw [← String.toList_inj, String.toList_append, String.toList_append, quote, quote,
    String.toList_ofList, String.toList_ofList, between_append_inj (.inl rfl), String.toList_inj,
    String.toList_inj]

theorem quote_inj {s t : String} : quote s = quote t ↔ s = t := by
  have whole := @quote_append_inj s t "" ""
  simpa using whole

theorem quoteChar_inj {c d : Char} : quoteChar c = quoteChar d ↔ c = d := by
  have whole := @between_append_inj '\'' [c] [d] [] [] (.inr rfl)
  rw [← String.toList_inj, quoteChar, quoteChar, String.toList_ofList, String.toList_ofList]
  simpa using whole

end Text

end NamedCells

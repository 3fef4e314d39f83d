/-!
# Decimal numerals

Numbers as lists of decimal digits, most significant first, with or without a point.  A numeral
is a list of characters here and becomes a `String` only where a whole text is put together.

## Main definitions

* `numeral n` — the digits of a natural number, without leading zeros.
* `pointed n p` — `n / 10ᵖ` with exactly `p` digits after the point.
* `positional n e` — `n · 10ᵉ`, with a point only if `e` is negative.
* `hexValue? c` — the value of a hexadecimal digit.
-/

namespace NamedCells

/-- The decimal digits of `n`, most significant first; zero has the one digit `0`. -/
def numeral (n : Nat) : List Char := Nat.toDigits 10 n

/-- `n / 10ᵖ` with exactly `p` digits after the point and, before it, no leading zero that is not
the only digit. -/
def pointed (n p : Nat) : List Char :=
  numeral (n / Nat.pow 10 p) ++ '.' :: (numeral (n % Nat.pow 10 p)).leftpad p '0'

/-- `n · 10ᵉ` written out, never with an exponent: zeros follow the digits of `n`, or a point
stands among them. -/
def positional (n : Nat) : Int → List Char
  | .ofNat k => numeral n ++ List.replicate k '0'
  | .negSucc k => pointed n (k + 1)

/-- The value of a hexadecimal digit, of which those of smaller bases are some. -/
def hexValue? (c : Char) : Option Nat :=
  if c.isDigit then some (c.toNat - '0'.toNat)
  else if 'a' ≤ c ∧ c ≤ 'f' then some (c.toNat - 'a'.toNat + 10)
  else if 'A' ≤ c ∧ c ≤ 'F' then some (c.toNat - 'A'.toNat + 10)
  else none

/-- A numeral has a digit. -/
theorem numeral_ne_nil (n : Nat) : numeral n ≠ [] :=
  List.ne_nil_of_length_pos Nat.length_toDigits_pos

/-- A numeral holds digits only. -/
theorem isDigit_of_mem_numeral {n : Nat} {c : Char} (h : c ∈ numeral n) : c.isDigit = true :=
  Nat.isDigit_of_mem_toDigits (by decide) (by decide) h

/-- A numeral begins with a digit. -/
theorem exists_numeral_eq_cons (n : Nat) : ∃ c cs, numeral n = c :: cs ∧ c.isDigit = true := by
  obtain ⟨c, cs, digits⟩ := List.exists_cons_of_ne_nil (numeral_ne_nil n)
  refine ⟨c, cs, digits, isDigit_of_mem_numeral (n := n) ?_⟩
  rw [digits]
  exact List.mem_cons_self

/-- A numeral reads back as its number. -/
theorem ofDigitChars_numeral (n : Nat) : Nat.ofDigitChars 10 (numeral n) 0 = n :=
  Nat.ofDigitChars_toDigits (by decide) (by decide)

end NamedCells

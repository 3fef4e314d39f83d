import NamedCells.Proofs.Utf8

/-!
# The order of texts and of their bytes

Texts that are compared character by character, by code points, come in the same order as their
encodings that are compared byte by byte.  The first byte of a character grows with the number of
bytes, so characters of different lengths are told apart by it; among characters of one length the
bytes hold the code point with its most significant bits first.

## Main results

* `Utf8.encodeChar_append_lt` — the smaller character has the smaller bytes, whatever follows.
* `Utf8.encode_lt_encode`, `Utf8.toUTF8_lt_toUTF8` — **texts are in the order of their
  encodings.**
-/

namespace NamedCells.Utf8

/-! ### Bytes -/

/-- A smaller first byte decides. -/
theorem cons_lt_cons_of_lt {m n : Nat} (less : m < n) (byte : n < 256) (xs ys : List UInt8) :
    UInt8.ofNat m :: xs < UInt8.ofNat n :: ys := by
  have first : UInt8.ofNat m < UInt8.ofNat n := by
    rw [UInt8.lt_iff_toNat_lt, toNat_byte byte, toNat_byte (Nat.lt_trans less byte)]
    exact less
  exact List.cons_lt_cons_iff.mpr (.inl first)

/-- A first byte that is not greater decides, or is the same and leaves it to the rest. -/
theorem cons_lt_cons_of_le {m n : Nat} (le : m ≤ n) (byte : n < 256) {xs ys : List UInt8}
    (rest : m = n → xs < ys) : UInt8.ofNat m :: xs < UInt8.ofNat n :: ys := by
  rcases Nat.lt_or_eq_of_le le with less | same
  · exact cons_lt_cons_of_lt less byte xs ys
  · rw [same]
    exact List.cons_lt_cons_iff.mpr (.inr ⟨rfl, rest same⟩)

/-! ### Characters -/

/-- **The smaller character has the smaller bytes**, whatever follows them. -/
theorem encodeChar_append_lt {c d : Char} (h : c < d) (xs ys : List UInt8) :
    String.utf8EncodeChar c ++ xs < String.utf8EncodeChar d ++ ys := by
  have valid := toNat_valid d
  have less : c.toNat < d.toNat := h
  have codeC : c.val.toNat = c.toNat := rfl
  have codeD : d.val.toNat = d.toNat := rfl
  unfold String.utf8EncodeChar
  simp only [codeC, codeD]
  generalize c.toNat = v at less
  generalize d.toNat = w at valid less
  -- in each case the greater character comes first with as many bytes, then with more
  by_cases one : v ≤ 0x7f
  · rw [if_pos one]
    split
    · exact cons_lt_cons_of_lt less (by omega) _ _
    · split
      · exact cons_lt_cons_of_lt (by omega) (by omega) _ _
      · split <;> exact cons_lt_cons_of_lt (by omega) (by omega) _ _
  have notOne : ¬ w ≤ 0x7f := by omega
  by_cases two : v ≤ 0x7ff
  · rw [if_neg one, if_pos two, if_neg notOne]
    split
    · refine cons_lt_cons_of_le (by omega) (by omega) fun _ => ?_
      exact cons_lt_cons_of_lt (by omega) (by omega) _ _
    · split <;> exact cons_lt_cons_of_lt (by omega) (by omega) _ _
  have notTwo : ¬ w ≤ 0x7ff := by omega
  by_cases three : v ≤ 0xffff
  · rw [if_neg one, if_neg two, if_pos three, if_neg notOne, if_neg notTwo]
    split
    · refine cons_lt_cons_of_le (by omega) (by omega) fun _ => ?_
      refine cons_lt_cons_of_le (by omega) (by omega) fun _ => ?_
      exact cons_lt_cons_of_lt (by omega) (by omega) _ _
    · exact cons_lt_cons_of_lt (by omega) (by omega) _ _
  · have notThree : ¬ w ≤ 0xffff := by omega
    rw [if_neg one, if_neg two, if_neg three, if_neg notOne, if_neg notTwo, if_neg notThree]
    refine cons_lt_cons_of_le (by omega) (by omega) fun _ => ?_
    refine cons_lt_cons_of_le (by omega) (by omega) fun _ => ?_
    refine cons_lt_cons_of_le (by omega) (by omega) fun _ => ?_
    exact cons_lt_cons_of_lt (by omega) (by omega) _ _

/-! ### Texts -/

/-- **Texts are in the order of their encodings.** -/
theorem encode_lt_encode {xs ys : List Char} (h : xs < ys) : encode xs < encode ys := by
  induction h with
  | @nil d ys =>
    -- a text that ends is followed by one that goes on, and every character has a byte
    rw [encode_cons]
    cases bytes : String.utf8EncodeChar d with
    | nil => exact absurd bytes String.utf8EncodeChar_ne_nil
    | cons b bs => exact List.nil_lt_cons b _
  | rel less =>
    rw [encode_cons, encode_cons]
    exact encodeChar_append_lt less _ _
  | cons _ ih =>
    rw [encode_cons, encode_cons]
    exact List.append_left_lt ih

/-- The same for strings and the bytes by which they are stored. -/
theorem toUTF8_lt_toUTF8 {s t : String} (h : s < t) :
    s.toUTF8.data.toList < t.toUTF8.data.toList := by
  rw [encode_eq_toUTF8, encode_eq_toUTF8]
  exact encode_lt_encode (String.lt_iff.mp h)

end NamedCells.Utf8

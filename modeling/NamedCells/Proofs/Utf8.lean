import NamedCells.Text.Utf8

/-!
# Encoded texts are read back

The pieces of an encoded text are its characters: reading the bytes of a character from between two
characters completes the character, whatever follows.  There is one case for each number of bytes,
in which the first byte promises as many bytes as follow and the bounds of the second byte hold
because the character is neither a surrogate nor encoded longer than necessary.

## Main definitions

* `Utf8.encode cs` — the bytes of a text.

## Main results

* `Utf8.decode?_encode` — **an encoded text is read back.**
* `Utf8.encode_eq_toUTF8` — these are the bytes by which a string is stored.
* `Utf8.eq_of_mem_encodeChar` — no other character has the byte of an ASCII character.
-/

namespace NamedCells.Utf8

/-- The bytes of a text. -/
def encode (cs : List Char) : List UInt8 := cs.flatMap String.utf8EncodeChar

theorem encode_cons (c : Char) (cs : List Char) :
    encode (c :: cs) = String.utf8EncodeChar c ++ encode cs := rfl

theorem encode_append (xs ys : List Char) : encode (xs ++ ys) = encode xs ++ encode ys := by
  simp [encode]

/-- The bytes of a string are those of its characters. -/
theorem encode_eq_toUTF8 (s : String) : s.toUTF8.data.toList = encode s.toList := by
  rw [String.toUTF8_eq_toByteArray, ← String.utf8Encode_toList, List.utf8Encode, encode,
    List.toList_data_toByteArray]

/-! ### First bytes -/

theorem lead?_one {b : Nat} (h : b ≤ 0x7f) : lead? b = some ⟨0, 0x80, 0xbf, b⟩ := by
  simp [lead?, h]

theorem lead?_two {b : Nat} (least : 0xc2 ≤ b) (greatest : b ≤ 0xdf) :
    lead? b = some ⟨1, 0x80, 0xbf, b - 0xc0⟩ := by
  have notOne : ¬ b ≤ 0x7f := by omega
  have notBelow : ¬ b < 0xc2 := by omega
  simp [lead?, notOne, notBelow, greatest]

theorem lead?_three {b : Nat} (least : 0xe0 ≤ b) (greatest : b ≤ 0xef) :
    lead? b = some ⟨2, if b = 0xe0 then 0xa0 else 0x80, if b = 0xed then 0x9f else 0xbf,
      b - 0xe0⟩ := by
  have notOne : ¬ b ≤ 0x7f := by omega
  have notBelow : ¬ b < 0xc2 := by omega
  have notTwo : ¬ b ≤ 0xdf := by omega
  rw [lead?, if_neg notOne, if_neg notBelow, if_neg notTwo]
  by_cases low : b = 0xe0
  · simp [low]
  · by_cases high : b = 0xed
    · simp [high]
    · simp [low, high, greatest]

theorem lead?_four {b : Nat} (least : 0xf0 ≤ b) (greatest : b ≤ 0xf4) :
    lead? b = some ⟨3, if b = 0xf0 then 0x90 else 0x80, if b = 0xf4 then 0x8f else 0xbf,
      b - 0xf0⟩ := by
  have notOne : ¬ b ≤ 0x7f := by omega
  have notBelow : ¬ b < 0xc2 := by omega
  have notTwo : ¬ b ≤ 0xdf := by omega
  have notThree : ¬ b ≤ 0xef := by omega
  have notLow : b ≠ 0xe0 := by omega
  have notHigh : b ≠ 0xed := by omega
  rw [lead?, if_neg notOne, if_neg notBelow, if_neg notTwo, if_neg notLow, if_neg notHigh,
    if_neg notThree]
  by_cases low : b = 0xf0
  · simp [low]
  · by_cases high : b = 0xf4
    · simp [high]
    · have middle : b ≤ 0xf3 := by omega
      simp [low, high, middle]

/-! ### Reading on -/

variable (done : List (Option Char)) (rest : List UInt8)

/-- A first byte that other bytes follow. -/
theorem piecesFrom_lead {b : UInt8} {following low high payload : Nat}
    (h : lead? b.toNat = some ⟨following, low, high, payload⟩) (more : following ≠ 0) :
    piecesFrom .between done (b :: rest) =
      piecesFrom (.within following low high payload) done rest := by
  simp [piecesFrom, start, h, more]

/-- A byte after which more are owed. -/
theorem piecesFrom_within {owed low high bits : Nat} {b : UInt8} (least : low ≤ b.toNat)
    (greatest : b.toNat ≤ high) (more : owed ≠ 1) :
    piecesFrom (.within owed low high bits) done (b :: rest) =
      piecesFrom (.within (owed - 1) 0x80 0xbf (bits * 64 + (b.toNat - 0x80))) done rest := by
  simp [piecesFrom, least, greatest, more]

/-- The last byte of a character. -/
theorem piecesFrom_last {low high bits : Nat} {b : UInt8} (least : low ≤ b.toNat)
    (greatest : b.toNat ≤ high) :
    piecesFrom (.within 1 low high bits) done (b :: rest) =
      piecesFrom .between (some (Char.ofNat (bits * 64 + (b.toNat - 0x80))) :: done) rest := by
  simp [piecesFrom, least, greatest]

/-! ### Characters -/

/-- A code point is no surrogate and is not beyond the last one. -/
theorem toNat_valid (c : Char) : c.toNat < 0xd800 ∨ (0xdfff < c.toNat ∧ c.toNat < 0x110000) :=
  c.valid

/-- A byte by its number. -/
theorem toNat_byte {n : Nat} (h : n < 256) : (UInt8.ofNat n).toNat = n :=
  UInt8.toNat_ofNat_of_lt h

/-- **The bytes of a character complete the character.** -/
theorem piecesFrom_encodeChar (c : Char) :
    piecesFrom .between done (String.utf8EncodeChar c ++ rest) =
      piecesFrom .between (some c :: done) rest := by
  have valid := toNat_valid c
  have same : Char.ofNat c.toNat = c := Char.ofNat_toNat c
  have code : c.val.toNat = c.toNat := rfl
  unfold String.utf8EncodeChar
  simp only [code]
  generalize c.toNat = v at valid same
  by_cases one : v ≤ 0x7f
  · -- the byte is the code point
    have byte := toNat_byte (n := v) (by omega)
    rw [if_pos one, List.cons_append, List.nil_append, piecesFrom, start, byte, lead?_one one]
    simp [same]
  by_cases two : v ≤ 0x7ff
  · -- the first byte is not below 0xc2, as the code point does not fit in seven bits
    have first := toNat_byte (n := v / 64 % 0x20 + 0xc0) (by omega)
    have second := toNat_byte (n := v % 0x40 + 0x80) (by omega)
    rw [if_neg one, if_pos two, List.cons_append, List.cons_append, List.nil_append,
      piecesFrom_lead done _ (by rw [first]; exact lead?_two (by omega) (by omega)) (by decide),
      piecesFrom_last done _ (by rw [second]; omega) (by rw [second]; omega), second]
    have bits : (v / 64 % 0x20 + 0xc0 - 0xc0) * 64 + (v % 0x40 + 0x80 - 0x80) = v := by omega
    rw [bits, same]
  by_cases three : v ≤ 0xffff
  · -- after 0xe0 the second byte is not too low, and after 0xed it leaves out the surrogates
    have first := toNat_byte (n := v / 4096 % 0x10 + 0xe0) (by omega)
    have second := toNat_byte (n := v / 64 % 0x40 + 0x80) (by omega)
    have third := toNat_byte (n := v % 0x40 + 0x80) (by omega)
    rw [if_neg one, if_neg two, if_pos three, List.cons_append, List.cons_append,
      List.cons_append, List.nil_append,
      piecesFrom_lead done _ (by rw [first]; exact lead?_three (by omega) (by omega)) (by decide),
      piecesFrom_within done _ (by rw [second]; split <;> omega)
        (by rw [second]; split <;> omega) (by decide),
      piecesFrom_last done _ (by rw [third]; omega) (by rw [third]; omega), second, third]
    have bits : ((v / 4096 % 0x10 + 0xe0 - 0xe0) * 64 + (v / 64 % 0x40 + 0x80 - 0x80)) * 64 +
        (v % 0x40 + 0x80 - 0x80) = v := by omega
    rw [bits, same]
  · -- after 0xf0 the second byte is not too low, and after 0xf4 the code point is not too great
    have first := toNat_byte (n := v / 262144 % 0x08 + 0xf0) (by omega)
    have second := toNat_byte (n := v / 4096 % 0x40 + 0x80) (by omega)
    have third := toNat_byte (n := v / 64 % 0x40 + 0x80) (by omega)
    have fourth := toNat_byte (n := v % 0x40 + 0x80) (by omega)
    rw [if_neg one, if_neg two, if_neg three, List.cons_append, List.cons_append,
      List.cons_append, List.cons_append, List.nil_append,
      piecesFrom_lead done _ (by rw [first]; exact lead?_four (by omega) (by omega)) (by decide),
      piecesFrom_within done _ (by rw [second]; split <;> omega)
        (by rw [second]; split <;> omega) (by decide),
      piecesFrom_within done _ (by rw [third]; omega) (by rw [third]; omega) (by decide),
      piecesFrom_last done _ (by rw [fourth]; omega) (by rw [fourth]; omega), second, third,
      fourth]
    have bits : (((v / 262144 % 0x08 + 0xf0 - 0xf0) * 64 + (v / 4096 % 0x40 + 0x80 - 0x80)) * 64 +
        (v / 64 % 0x40 + 0x80 - 0x80)) * 64 + (v % 0x40 + 0x80 - 0x80) = v := by omega
    rw [bits, same]

/-- The bytes of a text complete its characters. -/
theorem piecesFrom_encode (cs : List Char) :
    piecesFrom .between done (encode cs ++ rest) =
      piecesFrom .between ((cs.map some).reverse ++ done) rest := by
  induction cs generalizing done with
  | nil => rfl
  | cons c cs ih =>
    rw [encode_cons, List.append_assoc, piecesFrom_encodeChar, ih]
    simp

/-- **An encoded text is read back.** -/
theorem decode?_encode (cs : List Char) : decode? (encode cs) = some cs := by
  have pieces_eq : pieces (encode cs) = cs.map some := by
    have h := piecesFrom_encode [] [] cs
    rw [List.append_nil] at h
    rw [pieces, h]
    simp [piecesFrom]
  rw [decode?, pieces_eq]
  simp

/-- The bytes of an encoding of several bytes have their top bit set. -/
theorem le_toNat_of_mem_encodeChar {c : Char} (long : 0x7f < c.toNat) {b : UInt8}
    (h : b ∈ String.utf8EncodeChar c) : 0x80 ≤ b.toNat := by
  have high {n : Nat} (small : n < 256) (large : 0x80 ≤ n) (byte : b = UInt8.ofNat n) :
      0x80 ≤ b.toNat := by
    rw [byte, toNat_byte small]
    exact large
  have valid := toNat_valid c
  have code : c.val.toNat = c.toNat := rfl
  have notOne : ¬ c.toNat ≤ 0x7f := by omega
  unfold String.utf8EncodeChar at h
  simp only [code, if_neg notOne] at h
  split at h
  · simp only [List.mem_cons, List.not_mem_nil, or_false] at h
    rcases h with byte | byte <;> exact high (by omega) (by omega) byte
  · split at h
    · simp only [List.mem_cons, List.not_mem_nil, or_false] at h
      rcases h with byte | byte | byte <;> exact high (by omega) (by omega) byte
    · simp only [List.mem_cons, List.not_mem_nil, or_false] at h
      rcases h with byte | byte | byte | byte <;> exact high (by omega) (by omega) byte

/-- The encoding of an ASCII character is its code point. -/
theorem encodeChar_of_le {c : Char} (short : c.toNat ≤ 0x7f) :
    String.utf8EncodeChar c = [UInt8.ofNat c.toNat] := by
  have code : c.val.toNat = c.toNat := rfl
  unfold String.utf8EncodeChar
  simp only [code, if_pos short]

/-- An ASCII character is the only one that has its byte in its encoding. -/
theorem eq_of_mem_encodeChar {c d : Char} (ascii : d.toNat ≤ 0x7f)
    (h : UInt8.ofNat d.toNat ∈ String.utf8EncodeChar c) : c = d := by
  have byte := toNat_byte (n := d.toNat) (by omega)
  by_cases short : c.toNat ≤ 0x7f
  · -- both characters are single bytes
    rw [encodeChar_of_le short, List.mem_singleton] at h
    have codes : c.toNat = d.toNat := by
      rw [← toNat_byte (n := c.toNat) (by omega), ← h, byte]
    rw [← Char.ofNat_toNat c, codes, Char.ofNat_toNat]
  · -- a longer encoding has no byte below 0x80
    have large := le_toNat_of_mem_encodeChar (by omega) h
    omega

end NamedCells.Utf8

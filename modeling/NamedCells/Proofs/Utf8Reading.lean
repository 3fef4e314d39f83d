import NamedCells.Proofs.Utf8

/-!
# Which bytes are texts

The reader accepts exactly the bytes of texts.  That it reads back the bytes of a text is known;
here is the other half.  Where all pieces are well formed each first byte is followed by as many
bytes as it promises, and the bounds of the second byte make them the bytes that the character is
encoded by, which are the fewest possible.

## Main results

* `Utf8.exists_encodeChar` — well-formed bytes begin with the bytes of a character.
* `Utf8.decode?_eq_some_iff` — **bytes are read as a text iff they are its bytes.**
* `Utf8.fromUTF8?_toByteArray` — the reader agrees with the one of the core library.
-/

namespace NamedCells.Utf8

/-! ### First bytes -/

theorem lead?_none {b : Nat} (h : (0x7f < b ∧ b < 0xc2) ∨ 0xf4 < b) : lead? b = none := by
  have notOne : ¬ b ≤ 0x7f := by omega
  rw [lead?, if_neg notOne]
  rcases h with ⟨-, below⟩ | beyond
  · rw [if_pos below]
  · rw [if_neg (by omega), if_neg (by omega), if_neg (by omega), if_neg (by omega),
      if_neg (by omega), if_neg (by omega), if_neg (by omega), if_neg (by omega)]

/-- What a first byte promises, by the number of bytes that follow it. -/
theorem lead?_cases {b following low high payload : Nat}
    (h : lead? b = some ⟨following, low, high, payload⟩) :
    (following = 0 ∧ b ≤ 0x7f ∧ payload = b) ∨
      (following = 1 ∧ 0xc2 ≤ b ∧ b ≤ 0xdf ∧ payload = b - 0xc0 ∧ low = 0x80 ∧ high = 0xbf) ∨
      (following = 2 ∧ 0xe0 ≤ b ∧ b ≤ 0xef ∧ payload = b - 0xe0 ∧
        low = (if b = 0xe0 then 0xa0 else 0x80) ∧ high = (if b = 0xed then 0x9f else 0xbf)) ∨
      (following = 3 ∧ 0xf0 ≤ b ∧ b ≤ 0xf4 ∧ payload = b - 0xf0 ∧
        low = (if b = 0xf0 then 0x90 else 0x80) ∧ high = (if b = 0xf4 then 0x8f else 0xbf)) := by
  have ranges : b ≤ 0x7f ∨ (0xc2 ≤ b ∧ b ≤ 0xdf) ∨ (0xe0 ≤ b ∧ b ≤ 0xef) ∨
      (0xf0 ≤ b ∧ b ≤ 0xf4) ∨ ((0x7f < b ∧ b < 0xc2) ∨ 0xf4 < b) := by omega
  rcases ranges with one | ⟨least, greatest⟩ | ⟨least, greatest⟩ | ⟨least, greatest⟩ | no
  · rw [lead?_one one] at h
    cases h
    exact .inl ⟨rfl, one, rfl⟩
  · rw [lead?_two least greatest] at h
    cases h
    exact .inr (.inl ⟨rfl, least, greatest, rfl, rfl, rfl⟩)
  · rw [lead?_three least greatest] at h
    cases h
    exact .inr (.inr (.inl ⟨rfl, least, greatest, rfl, rfl, rfl⟩))
  · rw [lead?_four least greatest] at h
    cases h
    exact .inr (.inr (.inr ⟨rfl, least, greatest, rfl, rfl, rfl⟩))
  · rw [lead?_none no] at h
    cases h

/-- The number of a character that is given by its number. -/
theorem toNat_ofNat {n : Nat} (h : n < 0xd800 ∨ (0xdfff < n ∧ n < 0x110000)) :
    (Char.ofNat n).toNat = n := by
  have valid : n.isValidChar := h
  rw [Char.ofNat, dif_pos valid]
  rfl

/-- A byte with the number of a byte is that byte. -/
theorem ofNat_eq {n : Nat} {b : UInt8} (h : n = b.toNat) : UInt8.ofNat n = b := by
  rw [h, UInt8.ofNat_toNat]

/-! ### Characters of several bytes -/

variable {v : Nat} {b b₁ b₂ b₃ : UInt8}

theorem encodeChar_ofNat_two (long : 0x7f < v) (short : v ≤ 0x7ff)
    (first : v / 64 % 0x20 + 0xc0 = b.toNat) (second : v % 0x40 + 0x80 = b₁.toNat) :
    String.utf8EncodeChar (Char.ofNat v) = [b, b₁] := by
  have code : (Char.ofNat v).val.toNat = v := toNat_ofNat (.inl (by omega))
  have notOne : ¬ v ≤ 0x7f := by omega
  rw [String.utf8EncodeChar]
  simp only [code, if_neg notOne, if_pos short]
  rw [ofNat_eq first, ofNat_eq second]

theorem encodeChar_ofNat_three (valid : v < 0xd800 ∨ (0xdfff < v ∧ v < 0x110000))
    (long : 0x7ff < v) (short : v ≤ 0xffff) (first : v / 4096 % 0x10 + 0xe0 = b.toNat)
    (second : v / 64 % 0x40 + 0x80 = b₁.toNat) (third : v % 0x40 + 0x80 = b₂.toNat) :
    String.utf8EncodeChar (Char.ofNat v) = [b, b₁, b₂] := by
  have code : (Char.ofNat v).val.toNat = v := toNat_ofNat valid
  have notOne : ¬ v ≤ 0x7f := by omega
  have notTwo : ¬ v ≤ 0x7ff := by omega
  rw [String.utf8EncodeChar]
  simp only [code, if_neg notOne, if_neg notTwo, if_pos short]
  rw [ofNat_eq first, ofNat_eq second, ofNat_eq third]

theorem encodeChar_ofNat_four (long : 0xffff < v) (short : v < 0x110000)
    (first : v / 262144 % 0x08 + 0xf0 = b.toNat) (second : v / 4096 % 0x40 + 0x80 = b₁.toNat)
    (third : v / 64 % 0x40 + 0x80 = b₂.toNat) (fourth : v % 0x40 + 0x80 = b₃.toNat) :
    String.utf8EncodeChar (Char.ofNat v) = [b, b₁, b₂, b₃] := by
  have code : (Char.ofNat v).val.toNat = v := toNat_ofNat (.inr (by omega))
  have notOne : ¬ v ≤ 0x7f := by omega
  have notTwo : ¬ v ≤ 0x7ff := by omega
  have notThree : ¬ v ≤ 0xffff := by omega
  rw [String.utf8EncodeChar]
  simp only [code, if_neg notOne, if_neg notTwo, if_neg notThree]
  rw [ofNat_eq first, ofNat_eq second, ofNat_eq third, ofNat_eq fourth]

/-! ### Well-formed pieces -/

/-- What is found before an ill-formed piece is of no use if all pieces are to be well formed. -/
theorem all_isSome_done {bs : List UInt8} {s : State} {done : List (Option Char)}
    (h : (piecesFrom s done bs).all Option.isSome = true) : done.all Option.isSome = true := by
  induction bs generalizing s done with
  | nil =>
    cases s with
    | between => simpa [piecesFrom] using h
    | within => simp [piecesFrom] at h
  | cons b bs ih =>
    have tail (piece : Option Char) {rest : List (Option Char)}
        (h : (piece :: rest).all Option.isSome = true) : rest.all Option.isSome = true := by
      rw [List.all_cons, Bool.and_eq_true] at h
      exact h.2
    cases s with
    | between =>
      rw [piecesFrom] at h
      split at h
      · exact tail _ (ih h)
      · exact ih h
    | within owed low high bits =>
      rw [piecesFrom] at h
      split at h
      · split at h
        · exact tail _ (ih h)
        · exact ih h
      · split at h
        · exact tail _ (tail _ (ih h))
        · exact tail _ (ih h)

/-- Where bytes are owed they come, if all pieces are well formed. -/
theorem exists_of_within {owed low high bits : Nat} {done : List (Option Char)} {bs : List UInt8}
    (h : (piecesFrom (.within owed low high bits) done bs).all Option.isSome = true) :
    ∃ b rest, bs = b :: rest ∧ low ≤ b.toNat ∧ b.toNat ≤ high := by
  cases bs with
  | nil => simp [piecesFrom] at h
  | cons b rest =>
    refine ⟨b, rest, rfl, ?_⟩
    rw [piecesFrom] at h
    split at h
    · next within => exact within
    · -- the piece that ends here is ill formed
      split at h
      · have both := all_isSome_done h
        simp at both
      · have both := all_isSome_done h
        simp at both

/-- **Well-formed bytes begin with the bytes of a character.** -/
theorem exists_encodeChar {bs : List UInt8} {done : List (Option Char)}
    (h : (piecesFrom .between done (b :: bs)).all Option.isSome = true) :
    ∃ c rest, b :: bs = String.utf8EncodeChar c ++ rest := by
  rcases promise : lead? b.toNat with _ | ⟨following, low, high, payload⟩
  · -- no character begins with this byte
    rw [piecesFrom, start, promise] at h
    have ill := all_isSome_done h
    simp at ill
  rcases lead?_cases promise with one | two | three | four
  · obtain ⟨rfl, ascii, rfl⟩ := one
    have code : (Char.ofNat b.toNat).toNat = b.toNat := toNat_ofNat (.inl (by omega))
    refine ⟨Char.ofNat b.toNat, bs, ?_⟩
    rw [encodeChar_of_le (by omega), code, UInt8.ofNat_toNat]
    rfl
  · obtain ⟨rfl, least, greatest, bits, rfl, rfl⟩ := two
    rw [piecesFrom_lead done bs promise (by decide)] at h
    obtain ⟨b₁, rest, rfl, least₁, greatest₁⟩ := exists_of_within h
    have bytes : String.utf8EncodeChar (Char.ofNat (payload * 64 + (b₁.toNat - 0x80))) =
        [b, b₁] := encodeChar_ofNat_two (by omega) (by omega) (by omega) (by omega)
    exact ⟨_, rest, by rw [bytes]; rfl⟩
  · obtain ⟨rfl, least, greatest, bits, lower, upper⟩ := three
    rw [piecesFrom_lead done bs promise (by decide)] at h
    obtain ⟨b₁, rest₁, rfl, least₁, greatest₁⟩ := exists_of_within h
    rw [piecesFrom_within done rest₁ least₁ greatest₁ (by decide)] at h
    obtain ⟨b₂, rest, rfl, least₂, greatest₂⟩ := exists_of_within h
    -- the bounds of the second byte say that the character needs three bytes and is no surrogate
    have low_le : 0x80 ≤ low ∧ (b.toNat = 0xe0 → 0xa0 ≤ low) := by split at lower <;> omega
    have le_high : high ≤ 0xbf ∧ (b.toNat = 0xed → high ≤ 0x9f) := by split at upper <;> omega
    clear lower upper
    have bytes : String.utf8EncodeChar
        (Char.ofNat ((payload * 64 + (b₁.toNat - 0x80)) * 64 + (b₂.toNat - 0x80))) =
          [b, b₁, b₂] :=
      encodeChar_ofNat_three (by omega) (by omega) (by omega) (by omega) (by omega) (by omega)
    exact ⟨_, rest, by rw [bytes]; rfl⟩
  · obtain ⟨rfl, least, greatest, bits, lower, upper⟩ := four
    rw [piecesFrom_lead done bs promise (by decide)] at h
    obtain ⟨b₁, rest₁, rfl, least₁, greatest₁⟩ := exists_of_within h
    rw [piecesFrom_within done rest₁ least₁ greatest₁ (by decide)] at h
    obtain ⟨b₂, rest₂, rfl, least₂, greatest₂⟩ := exists_of_within h
    rw [piecesFrom_within done rest₂ least₂ greatest₂ (by decide)] at h
    obtain ⟨b₃, rest, rfl, least₃, greatest₃⟩ := exists_of_within h
    -- the bounds of the second byte say that the character needs four bytes and is a code point
    have low_le : 0x80 ≤ low ∧ (b.toNat = 0xf0 → 0x90 ≤ low) := by split at lower <;> omega
    have le_high : high ≤ 0xbf ∧ (b.toNat = 0xf4 → high ≤ 0x8f) := by split at upper <;> omega
    clear lower upper
    have bytes : String.utf8EncodeChar
        (Char.ofNat (((payload * 64 + (b₁.toNat - 0x80)) * 64 + (b₂.toNat - 0x80)) * 64 +
          (b₃.toNat - 0x80))) = [b, b₁, b₂, b₃] :=
      encodeChar_ofNat_four (by omega) (by omega) (by omega) (by omega) (by omega) (by omega)
    exact ⟨_, rest, by rw [bytes]; rfl⟩

/-- Well-formed bytes are the bytes of a text. -/
theorem exists_encode {bs : List UInt8} {done : List (Option Char)}
    (h : (piecesFrom .between done bs).all Option.isSome = true) : ∃ cs, encode cs = bs := by
  -- by induction on the number of bytes: what follows the first character is shorter
  induction size : bs.length using Nat.strongRecOn generalizing bs done with
  | ind n ih =>
    cases bs with
    | nil => exact ⟨[], rfl⟩
    | cons b bs =>
      obtain ⟨c, rest, cut⟩ := exists_encodeChar h
      rw [cut, piecesFrom_encodeChar] at h
      have shorter : rest.length < n := by
        have positive := c.utf8Size_pos
        have lengths := congrArg List.length cut
        rw [size, List.length_append, String.length_utf8EncodeChar] at lengths
        omega
      obtain ⟨cs, same⟩ := ih rest.length shorter h rfl
      exact ⟨c :: cs, by rw [encode_cons, same, cut]⟩

/-- **Bytes are read as a text iff they are its bytes.** -/
theorem decode?_eq_some_iff {bs : List UInt8} {cs : List Char} :
    decode? bs = some cs ↔ encode cs = bs := by
  constructor
  · intro h
    have wellFormed : (pieces bs).all Option.isSome = true := by
      rw [decode?] at h
      exact (Option.ite_none_right_eq_some.mp h).1
    obtain ⟨cs', same⟩ := exists_encode wellFormed
    rw [← same, decode?_encode] at h
    rw [← same, Option.some.inj h]
  · rintro rfl
    exact decode?_encode cs

/-- The reader agrees with the one of the core library. -/
theorem fromUTF8?_toByteArray (bs : List UInt8) :
    String.fromUTF8? bs.toByteArray = (decode? bs).map String.ofList := by
  unfold String.fromUTF8?
  split
  · next valid =>
    obtain ⟨cs, bytes⟩ := valid
    have same : encode cs = bs := by
      have lists := congrArg (fun bytes => bytes.data.toList) bytes
      simpa [List.utf8Encode, encode] using lists.symm
    rw [decode?_eq_some_iff.mpr same, Option.map_some, Option.some.injEq, ← String.toByteArray_inj]
    rw [String.toByteArray_ofList, ← bytes]
    rfl
  · next invalid =>
    cases found : decode? bs with
    | none => rfl
    | some cs =>
      refine absurd ⟨cs, ?_⟩ invalid
      rw [← decode?_eq_some_iff.mp found]
      rfl

end NamedCells.Utf8

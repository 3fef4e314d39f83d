/-!
# UTF-8

A sequence of bytes is cut into pieces: a piece is either the encoding of a character or a maximal
sequence of bytes that begins like an encoding but is none.  A text is well encoded iff it has no
piece of the second kind; in messages each such piece is shown as one replacement character.

The first byte of an encoding says how many bytes follow it and, for four of the first bytes,
which values the second may have: these bounds exclude encodings that are longer than necessary,
surrogates, and numbers beyond the last code point.

## Main definitions

* `Utf8.Lead` — what the first byte of an encoding promises.
* `Utf8.pieces` — the characters of a sequence of bytes, `none` for each ill-formed piece.
* `Utf8.decode?` — the text that bytes encode, if they are well formed.
* `Utf8.decodeLossy` — the text with a replacement character for each ill-formed piece.
-/

namespace NamedCells.Utf8

/-- What the first byte of an encoding promises about the rest of it. -/
structure Lead where
  /-- How many bytes follow. -/
  following : Nat
  /-- The least value the second byte may have. -/
  low : Nat
  /-- The greatest value the second byte may have. -/
  high : Nat
  /-- The bits of the code point that the first byte holds. -/
  payload : Nat
  deriving DecidableEq, Repr

/-- The promise of a first byte, if a byte may stand first. -/
def lead? (b : Nat) : Option Lead :=
  if b ≤ 0x7f then some ⟨0, 0x80, 0xbf, b⟩
  else if b < 0xc2 then none
  else if b ≤ 0xdf then some ⟨1, 0x80, 0xbf, b - 0xc0⟩
  else if b = 0xe0 then some ⟨2, 0xa0, 0xbf, 0⟩
  else if b = 0xed then some ⟨2, 0x80, 0x9f, 0xd⟩
  else if b ≤ 0xef then some ⟨2, 0x80, 0xbf, b - 0xe0⟩
  else if b = 0xf0 then some ⟨3, 0x90, 0xbf, 0⟩
  else if b ≤ 0xf3 then some ⟨3, 0x80, 0xbf, b - 0xf0⟩
  else if b = 0xf4 then some ⟨3, 0x80, 0x8f, 4⟩
  else none

/-- Where the reader stands: between two characters, or within one that still owes bytes. -/
inductive State where
  /-- Between two characters. -/
  | between
  /-- Within a character: how many bytes it still owes, the least and greatest value of the next
  one, and the bits read so far. -/
  | within (owed low high bits : Nat)
  deriving DecidableEq, Repr

/-- Read a byte between two characters: what it completes, if anything, and the next state. -/
def start (b : Nat) : Option (Option Char) × State :=
  match lead? b with
  | none => (some none, .between)
  | some lead =>
    if lead.following = 0 then (some (some (Char.ofNat lead.payload)), .between)
    else (none, .within lead.following lead.low lead.high lead.payload)

/-- The pieces of a sequence of bytes, after those of `done`, which are in reverse order.  A byte
that cannot go on the character before it ends that piece and is read as a first byte. -/
def piecesFrom : State → List (Option Char) → List UInt8 → List (Option Char)
  | .between, done, [] => done.reverse
  | .within .., done, [] => (none :: done).reverse
  | .between, done, b :: bs =>
    match start b.toNat with
    | (some piece, state) => piecesFrom state (piece :: done) bs
    | (none, state) => piecesFrom state done bs
  | .within owed low high bits, done, b :: bs =>
    if low ≤ b.toNat ∧ b.toNat ≤ high then
      let bits := bits * 64 + (b.toNat - 0x80)
      if owed = 1 then piecesFrom .between (some (Char.ofNat bits) :: done) bs
      else piecesFrom (.within (owed - 1) 0x80 0xbf bits) done bs
    else
      match start b.toNat with
      | (some piece, state) => piecesFrom state (piece :: none :: done) bs
      | (none, state) => piecesFrom state (none :: done) bs

/-- The characters that a sequence of bytes encodes, with `none` for each maximal ill-formed
piece. -/
def pieces (bs : List UInt8) : List (Option Char) := piecesFrom .between [] bs

/-- The text that bytes encode, if all of it is well formed. -/
def decode? (bs : List UInt8) : Option (List Char) :=
  let ps := pieces bs
  if ps.all Option.isSome then some (ps.filterMap id) else none

/-- The text that bytes encode, with U+FFFD for each maximal ill-formed piece. -/
def decodeLossy (bs : List UInt8) : List Char :=
  (pieces bs).map fun piece => piece.getD '\ufffd'

end NamedCells.Utf8

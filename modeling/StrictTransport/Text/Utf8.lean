namespace StrictTransport

abbrev Bytes := List UInt8

namespace Text.Utf8

-- What a leading byte asks for: how many bytes have to follow, the bounds of the first of them, and
-- the bits that the leading byte brings itself.
structure Lead where
  following : Nat
  low : UInt8
  high : UInt8
  bits : Nat

-- The bounds keep out overlong forms, surrogates and values beyond the last character.
def lead? (b : UInt8) : Option Lead :=
  if 0xC2 ≤ b && b ≤ 0xDF then some ⟨1, 0x80, 0xBF, b.toNat - 0xC0⟩
  else if b == 0xE0 then some ⟨2, 0xA0, 0xBF, 0⟩
  else if b == 0xED then some ⟨2, 0x80, 0x9F, 0xD⟩
  else if 0xE1 ≤ b && b ≤ 0xEF then some ⟨2, 0x80, 0xBF, b.toNat - 0xE0⟩
  else if b == 0xF0 then some ⟨3, 0x90, 0xBF, 0⟩
  else if 0xF1 ≤ b && b ≤ 0xF3 then some ⟨3, 0x80, 0xBF, b.toNat - 0xF0⟩
  else if b == 0xF4 then some ⟨3, 0x80, 0x8F, 4⟩
  else none

structure Piece where
  char? : Option Char
  more : Nat

-- Reads the bytes that have to follow a leading byte; `value` holds the bits read so far and
-- `taken` counts the bytes.
def follow : (following : Nat) → (low high : UInt8) → (value taken : Nat) → Bytes → Piece
  | 0, _, _, value, taken, _ => ⟨some (Char.ofNat value), taken⟩
  | _ + 1, _, _, _, taken, [] => ⟨none, taken⟩
  | n + 1, low, high, value, taken, b :: rest =>
    if low ≤ b && b ≤ high then
      follow n 0x80 0xBF (value * 64 + (b.toNat - 0x80)) (taken + 1) rest
    else
      ⟨none, taken⟩

-- Every longest part of the bytes that begins a character and does not finish it counts as one
-- fault, and so does every byte that begins none.
def piece (b : UInt8) (rest : Bytes) : Piece :=
  if b < 0x80 then ⟨some (Char.ofNat b.toNat), 0⟩
  else match lead? b with
    | none => ⟨none, 0⟩
    | some l => follow l.following l.low l.high l.bits 0 rest

-- The pieces of the bytes after the next `skip` ones, put in front of `done`, last first.
def scan : (skip : Nat) → (done : List (Option Char)) → Bytes → List (Option Char)
  | _, done, [] => done
  | skip + 1, done, _ :: rest => scan skip done rest
  | 0, done, b :: rest => scan (piece b rest).more ((piece b rest).char? :: done) rest

def pieces (bytes : Bytes) : List (Option Char) :=
  (scan 0 [] bytes).reverse

def replacement : Char := '\uFFFD'

def decodeLossy (bytes : Bytes) : List Char :=
  (pieces bytes).map fun piece => piece.getD replacement

def decode? (bytes : Bytes) : Option (List Char) :=
  if (pieces bytes).all Option.isSome then some ((pieces bytes).filterMap id) else none

def encode (cs : List Char) : Bytes :=
  cs.flatMap String.utf8EncodeChar

end Text.Utf8

end StrictTransport

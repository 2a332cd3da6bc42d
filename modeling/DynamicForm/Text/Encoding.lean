import DynamicForm.Text.Digits

/-!
# Encodings of text

Text arrives as bytes. Which of the encodings with one, two and four bytes per unit has been used
is told by a byte order mark or by where the zeros are among the first bytes.

- `utf8Pieces` reads bytes piece by piece; a longest stretch that cannot be read is one bad piece.
- `decodeAny` finds the encoding and reads all bytes, or nothing.
-/

namespace DynamicForm.Text

/-! ## One byte per unit -/

/-- What follows a leading byte: how many bytes, the range of the first of them, and the bits that
the leading byte contributes. -/
structure Lead where
  count : Nat
  low : Nat
  high : Nat
  bits : Nat

/-- The leading bytes of longer sequences. Ranges leave out what is too long, what is too large,
and the surrogates. -/
def lead? (b : Nat) : Option Lead :=
  if 0xc2 ≤ b ∧ b ≤ 0xdf then some ⟨1, 0x80, 0xbf, b - 0xc0⟩
  else if b = 0xe0 then some ⟨2, 0xa0, 0xbf, 0⟩
  else if b = 0xed then some ⟨2, 0x80, 0x9f, 0xd⟩
  else if 0xe1 ≤ b ∧ b ≤ 0xef then some ⟨2, 0x80, 0xbf, b - 0xe0⟩
  else if b = 0xf0 then some ⟨3, 0x90, 0xbf, 0⟩
  else if b = 0xf4 then some ⟨3, 0x80, 0x8f, 4⟩
  else if 0xf1 ≤ b ∧ b ≤ 0xf3 then some ⟨3, 0x80, 0xbf, b - 0xf0⟩
  else none

/-- Takes the bytes that follow a leading byte: how many are right, and the character if all are. -/
def takeFollowing : Nat → Nat → Nat → Nat → Nat → List UInt8 → Nat × Option Nat
  | 0, _, _, bits, taken, _ => (taken, some bits)
  | _ + 1, _, _, _, taken, [] => (taken, none)
  | count + 1, low, high, bits, taken, b :: rest =>
    if low ≤ b.toNat ∧ b.toNat ≤ high then
      takeFollowing count 0x80 0xbf (bits * 64 + (b.toNat - 0x80)) (taken + 1) rest
    else (taken, none)

/-- Reads bytes after passing over some. Every piece is a character, or nothing where none can be
read. -/
def utf8PiecesFrom : Nat → List UInt8 → List (Option Char)
  | _, [] => []
  | skip + 1, _ :: rest => utf8PiecesFrom skip rest
  | 0, b :: rest =>
    if b.toNat < 0x80 then some (Char.ofNat b.toNat) :: utf8PiecesFrom 0 rest
    else match lead? b.toNat with
      | none => none :: utf8PiecesFrom 0 rest
      | some l =>
        let (taken, n) := takeFollowing l.count l.low l.high l.bits 0 rest
        n.map Char.ofNat :: utf8PiecesFrom taken rest

/-- Reads bytes piece by piece. -/
def utf8Pieces (bytes : List UInt8) : List (Option Char) := utf8PiecesFrom 0 bytes

/-- The characters, if there is no bad piece. -/
def allPieces : List (Option Char) → Option (List Char)
  | [] => some []
  | some c :: rest => (allPieces rest).map (c :: ·)
  | none :: _ => none

/-- Reads bytes; every bad piece becomes a replacement character. -/
def decodeLeniently (bytes : List UInt8) : List Char :=
  (utf8Pieces bytes).map (·.getD (Char.ofNat 0xfffd))

/-- The bytes of a text. -/
def utf8Bytes (cs : List Char) : List UInt8 := cs.flatMap String.utf8EncodeChar

/-! ## Two and four bytes per unit -/

/-- The order of the bytes of a unit. -/
inductive ByteOrder where
  | little
  | big
deriving DecidableEq, Repr

/-- Units of two bytes; nothing when a byte is left over. -/
def pairUnits (order : ByteOrder) : List UInt8 → Option (List Nat)
  | [] => some []
  | a :: b :: rest =>
    let n := match order with
      | .little => b.toNat * 256 + a.toNat
      | .big => a.toNat * 256 + b.toNat
    (pairUnits order rest).map (n :: ·)
  | [_] => none

/-- Units of four bytes; nothing when bytes are left over. -/
def quadUnits (order : ByteOrder) : List UInt8 → Option (List Nat)
  | [] => some []
  | a :: b :: c :: d :: rest =>
    let n := match order with
      | .little => ((d.toNat * 256 + c.toNat) * 256 + b.toNat) * 256 + a.toNat
      | .big => ((a.toNat * 256 + b.toNat) * 256 + c.toNat) * 256 + d.toNat
    (quadUnits order rest).map (n :: ·)
  | _ => none

/-- The character of a number, if it is one. -/
def scalar? (n : Nat) : Option Char :=
  if h : n.isValidChar then some (Char.ofNatAux n h) else none

/-- Characters of units of two bytes; large ones take two units. -/
def ofPairUnits : List Nat → Option (List Char)
  | [] => some []
  | high :: low :: rest =>
    if 0xd800 ≤ high ∧ high < 0xdc00 ∧ 0xdc00 ≤ low ∧ low < 0xe000 then do
      let c ← scalar? (0x10000 + (high - 0xd800) * 1024 + (low - 0xdc00))
      return c :: (← ofPairUnits rest)
    else do
      let c ← scalar? high
      return c :: (← ofPairUnits (low :: rest))
  | [n] => do return [← scalar? n]

/-! ## Finding the encoding -/

/-- The encodings. -/
inductive Encoding where
  | one
  | two (order : ByteOrder)
  | four (order : ByteOrder)
deriving DecidableEq, Repr

/-- The encoding of bytes, and how long the byte order mark is. -/
def detect : List UInt8 → Encoding × Nat
  | 0x00 :: 0x00 :: 0xfe :: 0xff :: _ => (.four .big, 4)
  | 0xff :: 0xfe :: 0x00 :: 0x00 :: _ => (.four .little, 4)
  | 0xfe :: 0xff :: _ => (.two .big, 2)
  | 0xff :: 0xfe :: _ => (.two .little, 2)
  | 0xef :: 0xbb :: 0xbf :: _ => (.one, 3)
  | a :: b :: c :: d :: _ =>
    if a = 0 then (if b = 0 then (.four .big, 0) else (.two .big, 0))
    else if b = 0 then (if c = 0 ∧ d = 0 then (.four .little, 0) else (.two .little, 0))
    else (.one, 0)
  | [a, b] =>
    if a = 0 then (.two .big, 0) else if b = 0 then (.two .little, 0) else (.one, 0)
  | _ => (.one, 0)

/-- Finds the encoding and reads all bytes, or nothing. -/
def decodeAny (bytes : List UInt8) : Option (List Char) :=
  let (encoding, mark) := detect bytes
  let body := bytes.drop mark
  match encoding with
  | .one => allPieces (utf8Pieces body)
  | .two order => (pairUnits order body).bind ofPairUnits
  | .four order => (quadUnits order body).bind fun units => allPieces (units.map scalar?)

/-! ## Hexadecimal -/

/-- The bytes that pairs of hexadecimal digits spell. -/
def hexBytes : List Char → List UInt8
  | a :: b :: rest =>
    UInt8.ofNat ((hexValue? a).getD 0 * 16 + (hexValue? b).getD 0) :: hexBytes rest
  | _ => []

end DynamicForm.Text

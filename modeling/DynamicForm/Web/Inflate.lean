/-!
# Compressed data

Compressed data is a row of blocks, each stored as it is or written in codes of varying length. A
code word stands for a byte, for the end of the block, or for the length of a stretch to repeat,
and then a second one says from how far back.

- `Inflater` reads bits, the lowest of each byte first, and keeps what has been written even when
  it stops.
- `Code.ofLengths?` is the canonical code with given lengths of words.
- `inflate` reads blocks up to the last.
-/

namespace DynamicForm.Web

/-- What can be wrong with compressed data. -/
inductive Corruption where
  | header
  | method
  | windowSize
  | headerFlags
  | headerCheck
  /-- The data builds on a dictionary, and there is none. -/
  | dictionary
  | blockKind
  | storedLength
  | codeCounts
  | lengthsCode
  | lengthRepeat
  | noBlockEnd
  | literalCode
  | distanceCode
  | literalWord
  | distanceWord
  | distance
  | dataCheck
  | lengthCheck
deriving DecidableEq, Repr

namespace Corruption

/-- What is wrong, for those cases that have a text. -/
def detail : Corruption → String
  | header => "incorrect header check"
  | method => "unknown compression method"
  | windowSize => "invalid window size"
  | headerFlags => "unknown header flags set"
  | headerCheck => "header crc mismatch"
  | dictionary => ""
  | blockKind => "invalid block type"
  | storedLength => "invalid stored block lengths"
  | codeCounts => "too many length or distance symbols"
  | lengthsCode => "invalid code lengths set"
  | lengthRepeat => "invalid bit length repeat"
  | noBlockEnd => "invalid code -- missing end-of-block"
  | literalCode => "invalid literal/lengths set"
  | distanceCode => "invalid distances set"
  | literalWord => "invalid literal/length code"
  | distanceWord => "invalid distance code"
  | distance => "invalid distance too far back"
  | dataCheck => "incorrect data check"
  | lengthCheck => "incorrect length check"

def message (c : Corruption) : String :=
  match c with
  | dictionary => "Error 2 while decompressing data"
  | _ => "Error -3 while decompressing data: " ++ c.detail

end Corruption

/-- Why reading stops before the end of the last block. -/
inductive Stop where
  /-- There are no more bits. -/
  | exhausted
  | corrupt (c : Corruption)
deriving DecidableEq, Repr

/-- The bits that are left, and what has been written. -/
structure Flow where
  bits : List Bool
  output : Array UInt8 := #[]

/-- A step of reading. -/
abbrev Inflater := ExceptT Stop (StateM Flow)

/-- The bits of a byte, the lowest first. -/
def bitsOfByte (b : UInt8) : List Bool := (List.range 8).map fun i => b.toNat.testBit i

def bitsOf (bytes : List UInt8) : List Bool := bytes.flatMap bitsOfByte

namespace Inflater

def corrupt (c : Corruption) : Inflater α := throw (.corrupt c)

def takeBit : Inflater Bool := do
  let s ← get
  match s.bits with
  | [] => throw .exhausted
  | b :: rest =>
    set { s with bits := rest }
    return b

/-- A number of so many bits, the lowest first. -/
def number : Nat → Inflater Nat
  | 0 => return 0
  | n + 1 => do
    let b ← takeBit
    return b.toNat + 2 * (← number n)

/-- Goes on to the next whole byte. -/
def align : Inflater Unit :=
  modify fun s => { s with bits := s.bits.drop (s.bits.length % 8) }

def emit (b : UInt8) : Inflater Unit := modify fun s => { s with output := s.output.push b }

/-- Copies so many bytes from the input. -/
def copyInput : Nat → Inflater Unit
  | 0 => return ()
  | n + 1 => do
    emit (UInt8.ofNat (← number 8))
    copyInput n

/-- Repeats so many bytes from a distance back. -/
def repeatOutput (distance : Nat) : Nat → Inflater Unit
  | 0 => return ()
  | n + 1 => do
    let s ← get
    emit (s.output.getD (s.output.size - distance) 0)
    repeatOutput distance n

end Inflater

/-! ## Codes -/

/-- A canonical code: for each length from one on, the symbols whose words have that length. -/
abbrev Code := List (List Nat)

namespace Code

/-- The longest word. -/
def maxLength : Nat := 15

/-- How many more words of the last length a code has room for, given the room for those of the
first; nothing when there are too many words. -/
def room : Nat → Code → Option Nat
  | left, [] => some left
  | left, symbols :: longer =>
    if 2 * left < symbols.length then none else room (2 * left - symbols.length) longer

/-- The code in which the symbols, counted from zero, have words of these lengths; zero is for
symbols without a word. Every sequence of bits has to begin with a word, except that a code may
have no words, or, if `mayBeSingle`, one of one bit. -/
def ofLengths? (mayBeSingle : Bool) (lengths : List Nat) : Option Code :=
  let levels := (List.range maxLength).map fun l =>
    (lengths.zipIdx.filter fun p => p.1 == l + 1).map (·.2)
  if levels.all (·.isEmpty) then some levels
  else
    match room 1 levels with
    | none => none
    | some 0 => some levels
    | some _ => if mayBeSingle && (levels.drop 1).all (·.isEmpty) then some levels else none

/-- Reads a word, given the number that the bits so far spell and the first of that length. The
symbol is missing when the bits are no word. -/
def symbolFrom : Nat → Nat → Code → Inflater (Option Nat)
  | _, _, [] => return none
  | spelt, first, symbols :: longer => do
    let spelt := 2 * spelt + (← Inflater.takeBit).toNat
    let first := 2 * first
    if spelt < first + symbols.length then return symbols[spelt - first]?
    else if longer.all (·.isEmpty) then return none
    else symbolFrom spelt (first + symbols.length) longer

def symbol (c : Code) : Inflater (Option Nat) := symbolFrom 0 0 c

end Code

/-! ## Blocks -/

/-- The shortest stretch for each length symbol, and how many bits say how much longer it is. -/
def stretchLengths : List (Nat × Nat) := [
  (3, 0), (4, 0), (5, 0), (6, 0), (7, 0), (8, 0), (9, 0), (10, 0), (11, 1), (13, 1), (15, 1),
  (17, 1), (19, 2), (23, 2), (27, 2), (31, 2), (35, 3), (43, 3), (51, 3), (59, 3), (67, 4), (83, 4),
  (99, 4), (115, 4), (131, 5), (163, 5), (195, 5), (227, 5), (258, 0)]

/-- The least distance for each distance symbol, and how many bits say how much more it is. -/
def distances : List (Nat × Nat) := [
  (1, 0), (2, 0), (3, 0), (4, 0), (5, 1), (7, 1), (9, 2), (13, 2), (17, 3), (25, 3), (33, 4),
  (49, 4), (65, 5), (97, 5), (129, 6), (193, 6), (257, 7), (385, 7), (513, 8), (769, 8), (1025, 9),
  (1537, 9), (2049, 10), (3073, 10), (4097, 11), (6145, 11), (8193, 12), (12289, 12), (16385, 13),
  (24577, 13)]

/-- The symbol that ends a block. -/
def endOfBlock : Nat := 256

namespace Inflater

/-- A length or distance that a symbol begins. -/
def extended (table : List (Nat × Nat)) (symbol : Option Nat) (bad : Corruption) : Inflater Nat :=
  match symbol.bind fun s => table[s]? with
  | some (base, extra) => do return base + (← number extra)
  | none => corrupt bad

/-- Reads words up to the end of the block. -/
def words (literals distanceCode : Code) : Nat → Inflater Unit
  | 0 => throw .exhausted
  | fuel + 1 => do
    match ← literals.symbol with
    | none => corrupt .literalWord
    | some s =>
      if s < endOfBlock then
        emit (UInt8.ofNat s)
        words literals distanceCode fuel
      else if s = endOfBlock then return ()
      else
        let length ← extended stretchLengths (some (s - endOfBlock - 1)) .literalWord
        let distance ← extended distances (← distanceCode.symbol) .distanceWord
        if (← get).output.size < distance then corrupt .distance
        repeatOutput distance length
        words literals distanceCode fuel

def stored : Inflater Unit := do
  align
  let length ← number 16
  let complement ← number 16
  if length + complement ≠ 0xffff then corrupt .storedLength
  copyInput length

/-- The lengths of words in a code of literals that is agreed upon. -/
def agreedLengths : List Nat :=
  List.replicate 144 8 ++ List.replicate 112 9 ++ List.replicate 24 7 ++ List.replicate 8 8

/-- The order in which the lengths of the words for lengths are given. -/
def lengthOrder : List Nat := [16, 17, 18, 0, 8, 7, 9, 6, 10, 5, 11, 4, 12, 3, 13, 2, 14, 1, 15]

/-- The lengths of words, of which so many are needed; those read so far are in reverse. -/
def lengths (code : Code) (needed : Nat) : Nat → List Nat → Inflater (List Nat)
  | 0, _ => throw .exhausted
  | fuel + 1, done => do
    if needed ≤ done.length then return done.reverse
    let repeated (length count : Nat) : Inflater (List Nat) :=
      if needed < done.length + count then corrupt .lengthRepeat
      else lengths code needed fuel (List.replicate count length ++ done)
    match (← code.symbol).getD 0 with
    | 16 =>
      match done with
      | [] => do
        discard (number 2)
        corrupt .lengthRepeat
      | last :: _ => do repeated last (3 + (← number 2))
    | 17 => do repeated 0 (3 + (← number 3))
    | 18 => do repeated 0 (11 + (← number 7))
    | n => repeated n 1

/-- Small numbers of three bits. -/
def smallNumbers : Nat → Inflater (List Nat)
  | 0 => return []
  | n + 1 => do
    let first ← number 3
    return first :: (← smallNumbers n)

/-- The codes of a block that brings its own. -/
def ownCodes : Inflater (Code × Code) := do
  let literals := (← number 5) + 257
  let distances := (← number 5) + 1
  let given := (← number 4) + 4
  if 286 < literals ∨ 30 < distances then corrupt .codeCounts
  let small := lengthOrder.zip (← smallNumbers given)
  match Code.ofLengths? false ((List.range 19).map fun s => (small.lookup s).getD 0) with
  | none => corrupt .lengthsCode
  | some code =>
    let needed := literals + distances
    let all ← lengths code needed (needed + 1) []
    if all.getD endOfBlock 0 = 0 then corrupt .noBlockEnd
    match Code.ofLengths? true (all.take literals) with
    | none => corrupt .literalCode
    | some literalCode =>
      match Code.ofLengths? true (all.drop literals) with
      | none => corrupt .distanceCode
      | some distanceCode => return (literalCode, distanceCode)

/-- Reads blocks up to the last. -/
def blocks : Nat → Inflater Unit
  | 0 => throw .exhausted
  | fuel + 1 => do
    let isLast ← takeBit
    match ← number 2 with
    | 0 => stored
    | 1 =>
      let literals := (Code.ofLengths? true agreedLengths).getD []
      words literals ((Code.ofLengths? true (List.replicate 32 5)).getD []) (fuel + 1)
    | 2 => do
      let (literals, distanceCode) ← ownCodes
      words literals distanceCode (fuel + 1)
    | _ => corrupt .blockKind
    if isLast then return () else blocks fuel

end Inflater

/-- Reads blocks up to the last. Each step uses up a bit. -/
def inflate : Inflater Unit := do Inflater.blocks ((← get).bits.length + 1)

/-- What has been written when reading is over; data may break off. -/
def Inflater.written (reading : Inflater Unit) (bytes : List UInt8) :
    Except Corruption (List UInt8) :=
  match reading.run { bits := bitsOf bytes } with
  | (.error (.corrupt c), _) => .error c
  | (_, s) => .ok s.output.toList

end DynamicForm.Web

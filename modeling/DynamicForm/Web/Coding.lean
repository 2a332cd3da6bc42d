import DynamicForm.Text.Blank
import DynamicForm.Text.Case
import DynamicForm.Web.Inflate

/-!
# Content codings

Content may be compressed on its way. Compressed data comes in one of two wrappers, each with a
header in front and checks behind; one of them is sometimes left out.

- `decodeContent` undoes the codings that a response names, the last one first.
-/

namespace DynamicForm.Web

/-! ## Checks -/

/-- One step of the cyclic check: eight divisions by its polynomial. -/
def crcStep (crc : UInt32) (b : UInt8) : UInt32 :=
  (List.range 8).foldl
    (fun c _ => if c % 2 = 1 then (c / 2) ^^^ 0xedb88320 else c / 2) (crc ^^^ b.toUInt32)

/-- The cyclic check of bytes. -/
def crc32 (bytes : List UInt8) : Nat := (bytes.foldl crcStep 0xffffffff ^^^ 0xffffffff).toNat

/-- The check by sums: the sum of the bytes, and the sum of those sums. -/
def adler32 (bytes : List UInt8) : Nat :=
  let (a, b) := bytes.foldl (fun (a, b) byte =>
    let a := (a + byte.toNat) % 65521
    (a, (b + a) % 65521)) (1, 0)
  b * 65536 + a

namespace Inflater

/-- A number of four bytes, the highest first. -/
def bigNumber : Inflater Nat := do
  let a ← number 8
  let b ← number 8
  let c ← number 8
  return ((a * 256 + b) * 256 + c) * 256 + (← number 8)

/-- Passes over so many bytes. -/
def skip : Nat → Inflater Unit
  | 0 => return ()
  | n + 1 => do
    discard (number 8)
    skip n

/-- Passes over bytes up to a zero. -/
def skipText : Nat → Inflater Unit
  | 0 => throw .exhausted
  | fuel + 1 => do if (← number 8) = 0 then return () else skipText fuel

def output : Inflater (List UInt8) := do return (← get).output.toList

/-! ## Wrappers -/

/-- Data with a header that may name a file. -/
def gzip (bytes : List UInt8) : Inflater Unit := do
  if (← number 16) ≠ 0x8b1f then corrupt .header
  let method ← number 8
  let flags ← number 8
  if method ≠ 8 then corrupt .method
  if 0x20 ≤ flags then corrupt .headerFlags
  skip 6
  if flags.testBit 2 then skip (← number 16)
  if flags.testBit 3 then skipText (bytes.length + 1)
  if flags.testBit 4 then skipText (bytes.length + 1)
  if flags.testBit 1 then
    let passed := bytes.length - (← get).bits.length / 8
    if (← number 16) ≠ crc32 (bytes.take passed) % 65536 then corrupt .headerCheck
  inflate
  align
  if (← number 32) ≠ crc32 (← output) then corrupt .dataCheck
  if (← number 32) ≠ (← output).length % 4294967296 then corrupt .lengthCheck

/-- Data with a header of two bytes. -/
def zlib : Inflater Unit := do
  let first ← number 8
  let second ← number 8
  if (256 * first + second) % 31 ≠ 0 then corrupt .header
  if first % 16 ≠ 8 then corrupt .method
  if 7 < first / 16 then corrupt .windowSize
  if second.testBit 5 then
    skip 4
    corrupt .dictionary
  inflate
  align
  if (← bigNumber) ≠ adler32 (← output) then corrupt .dataCheck

end Inflater

/-! ## Codings -/

/-- A way in which content may be coded. -/
inductive Coding where
  | identity
  | gzip
  | deflate
deriving DecidableEq, Repr

namespace Coding

/-- The coding of a name; names that are not known say nothing. -/
def ofName? (name : String) : Option Coding :=
  match name with
  | "identity" => some identity
  | "gzip" => some gzip
  | "deflate" => some deflate
  | _ => none

/-- Undoes a coding. Data whose wrapper cannot be read may come without one. -/
def decode (c : Coding) (bytes : List UInt8) : Except Corruption (List UInt8) :=
  match c with
  | identity => .ok bytes
  | gzip => (Inflater.gzip bytes).written bytes
  | deflate =>
    match Inflater.zlib.written bytes with
    | .ok out => .ok out
    | .error _ => inflate.written bytes

/-- The codings that a header lists, in the order in which they have been applied. -/
def ofHeader (value : String) : List Coding :=
  (value.splitOn ",").filterMap fun name =>
    ofName? (Text.lower (Text.trim name))

end Coding

/-- Undoes codings, the last one first. Empty content is not looked at. -/
def decodeContent (codings : List Coding) (bytes : List UInt8) :
    Except Corruption (List UInt8) :=
  if bytes.isEmpty then .ok []
  else codings.reverse.foldlM (fun bytes c => c.decode bytes) bytes

end DynamicForm.Web

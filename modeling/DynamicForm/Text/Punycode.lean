import DynamicForm.Text.Digits

/-!
# Punycode

Text in few characters of ASCII. The ASCII characters of a text come first; the others follow as
insertions, in increasing order. An insertion is told by how far it lies behind the one before it:
one step is one place in the text, and one round through the text is one code point. Steps are
written in digits to the base 36; a digit below its threshold ends a number, and the thresholds
follow the size of the numbers.

- `Punycode.encode` writes a text, `Punycode.decode` reads one.
-/

namespace DynamicForm.Text.Punycode

/-- The first code point that is inserted. -/
def firstInserted : Nat := 0x80

/-- The bias before the first number. -/
def firstBias : Nat := 72

/-- The threshold of the digit at a place. -/
def threshold (bias place : Nat) : Nat := min 26 (max 1 (36 * (place + 1) - bias))

/-- Divides by 35 until the number is small, and counts 36 for each division. -/
def scale (counted n : Nat) : Nat × Nat :=
  if 455 < n then scale (counted + 36) (n / 35) else (counted, n)
termination_by n
decreasing_by omega

/-- The bias after a number of steps, the first one or a later one, given the length of the text
that it leads to. -/
def nextBias (isFirst : Bool) (steps length : Nat) : Nat :=
  let steps := if isFirst then steps / 700 else steps / 2
  let (counted, rest) := scale 0 (steps + steps / length)
  counted + 36 * rest / (rest + 38)

/-! ## Writing -/

/-- A digit: a letter, and from 26 on a numeral. -/
def digit (n : Nat) : Char := if n < 26 then Char.ofNat (97 + n) else Char.ofNat (22 + n)

/-- A number in digits, from a place on. -/
def writeNumber (bias place n : Nat) : List Char :=
  let t := threshold bias place
  if n < t then [digit n]
  else digit (t + (n - t) % (36 - t)) :: writeNumber bias (place + 1) ((n - t) / (36 - t))
termination_by n
decreasing_by
  have : 0 < threshold bias place := by unfold threshold; omega
  exact Nat.lt_of_le_of_lt (Nat.div_le_self _ _) (by omega)

/-- An insertion: a code point, and how many characters of the text stand before it when all
smaller ones are in. -/
structure Insertion where
  code : Nat
  place : Nat

/-- Whether an insertion is made before another one or is the same. -/
def Insertion.le (a b : Insertion) : Bool :=
  a.code < b.code || (a.code == b.code && a.place ≤ b.place)

/-- The insertions of a text, given the characters already passed in reverse. -/
def insertionsFrom (text before : List Char) : List Char → List Insertion
  | [] => []
  | c :: rest =>
    let others := insertionsFrom text (c :: before) rest
    if c.toNat < firstInserted then others
    else ⟨c.toNat, before.countP fun d => d.toNat ≤ c.toNat⟩ :: others

/-- The insertions of a text in the order in which they are made. -/
def insertions (text : List Char) : List Insertion :=
  (insertionsFrom text [] text).mergeSort Insertion.le

/-- Writes insertions into a text that has a length and next takes `code` at `place`. -/
def writeInsertions (isFirst : Bool) (bias length code place : Nat) : List Insertion → List Char
  | [] => []
  | i :: rest =>
    let steps := (i.code - code) * (length + 1) + i.place - place
    let bias' := nextBias isFirst steps (length + 1)
    writeNumber bias 0 steps ++ writeInsertions false bias' (length + 1) i.code (i.place + 1) rest

/-- Writes a text. -/
def encode (text : List Char) : List Char :=
  let plain := text.filter fun c => c.toNat < firstInserted
  let lead := if plain.isEmpty then [] else plain ++ ['-']
  lead ++ writeInsertions true firstBias plain.length firstInserted 0 (insertions text)

/-! ## Reading -/

/-- The value of a digit; the case of letters does not matter. -/
def digitValue? (c : Char) : Option Nat :=
  if 'a' ≤ c ∧ c ≤ 'z' then some (c.toNat - 97)
  else if 'A' ≤ c ∧ c ≤ 'Z' then some (c.toNat - 65)
  else if isAsciiDigit c then some (c.toNat - 22)
  else none

/-- A text that is being read: the code points so far, the next insertion, and the number under
way with the place and the weight of its next digit. -/
structure Reading where
  text : List Nat
  code : Nat := firstInserted
  place : Nat := 0
  isFirst : Bool := true
  bias : Nat := firstBias
  steps : Nat := 0
  digits : Nat := 0
  weight : Nat := 1

/-- Makes the insertion that the number under way tells. -/
def Reading.insert (r : Reading) : Reading :=
  let length := r.text.length + 1
  let code := r.code + (r.place + r.steps) / length
  let place := (r.place + r.steps) % length
  { text := r.text.take place ++ code :: r.text.drop place
    code := code
    place := place + 1
    isFirst := false
    bias := nextBias r.isFirst r.steps length }

/-- Takes one more digit. No text holds a code point beyond the last one. -/
def Reading.take (r : Reading) (c : Char) : Option Reading := do
  let d ← digitValue? c
  let t := threshold r.bias r.digits
  let r := { r with
    steps := r.steps + d * r.weight
    digits := r.digits + 1
    weight := r.weight * (36 - t) }
  if d < t then
    let r := r.insert
    if r.code ≤ 0x10ffff then some r else none
  else some r

/-- The code points of a text. Without a hyphen all of it is insertions, else what follows the
last one. -/
def decode (cs : List Char) : Option (List Nat) := do
  let digits := (cs.reverse.takeWhile (· != '-')).reverse
  let plain := (cs.take (cs.length - digits.length)).dropLast
  let r ← digits.foldlM Reading.take { text := plain.map Char.toNat }
  if r.digits = 0 then some r.text else none

end DynamicForm.Text.Punycode

import DynamicForm.Number.Binary64
import DynamicForm.Text.Blank
import DynamicForm.Text.Case
import DynamicForm.Text.Digits

/-!
# Number literals in text

A literal is an optional sign, digits with an optional point and an optional exponent, or one of
the words for infinity and for what is not a number. Single underscores may stand between digits.

- `Literal.scan` reads plain ASCII literals.
- `readNumber` first turns the digits of every script into `0` to `9` and drops blanks at both
  ends. `readInteger` does the same for whole numbers.
-/

namespace DynamicForm

namespace Literal

/-- What stands before a character of a literal. -/
inductive Before where
  | digit
  | underscore
  | other
deriving DecidableEq, Repr

/-- Removes underscores that stand between two digits; any other underscore is refused. -/
def dropUnderscores : Before → List Char → Option (List Char)
  | before, [] => if before = .underscore then none else some []
  | before, c :: rest =>
    if c = '_' then
      if before = .digit then dropUnderscores .underscore rest else none
    else if Text.isAsciiDigit c then (dropUnderscores .digit rest).map (c :: ·)
    else if before = .underscore then none
    else (dropUnderscores .other rest).map (c :: ·)

/-- A sign, and whether it is a minus. -/
def splitSign : List Char → Bool × List Char
  | '-' :: rest => (true, rest)
  | '+' :: rest => (false, rest)
  | cs => (false, cs)

/-- The digits after the point, or nothing when there is no point. -/
def splitFraction : List Char → List Char × List Char
  | '.' :: rest => rest.span Text.isAsciiDigit
  | cs => ([], cs)

/-- The exponent that ends a literal; an empty rest stands for zero. -/
def readExponent : List Char → Option Int
  | [] => some 0
  | e :: rest =>
    if e = 'e' || e = 'E' then
      let (negative, digits) := splitSign rest
      if digits.isEmpty || !digits.all Text.isAsciiDigit then none
      else
        let n : Int := Text.asciiNumber digits
        some (if negative then -n else n)
    else none

/-- The words for infinity and for what is not a number. -/
def readWord (negative : Bool) (cs : List Char) : Option Binary64 :=
  let word := String.ofList (cs.map Char.toLower)
  if word = "inf" || word = "infinity" then some (.infinite negative)
  else if word = "nan" then some .nan
  else none

/-- Reads a literal without underscores and blanks. -/
def scan (cs : List Char) : Option Binary64 :=
  let (negative, body) := splitSign cs
  let (whole, afterWhole) := body.span Text.isAsciiDigit
  let (fraction, rest) := splitFraction afterWhole
  if whole.isEmpty && fraction.isEmpty then readWord negative body
  else
    (readExponent rest).map fun e =>
      Binary64.ofDecimal negative (Text.asciiNumber (whole ++ fraction)) (e - fraction.length)

/-- Reads a literal that may hold underscores. -/
def scanSeparated (cs : List Char) : Option Binary64 := (dropUnderscores .other cs).bind scan

/-- Blanks around a literal: all blanks but the four information separators. -/
def isMargin (c : Char) : Bool := Text.isBlank c && !(decide (28 ≤ c.toNat ∧ c.toNat ≤ 31))

def dropMargins (cs : List Char) : List Char :=
  ((cs.dropWhile isMargin).reverse.dropWhile isMargin).reverse

/-- A digit of any script as `0` to `9`; other characters beyond ASCII fit in no literal. -/
def plainChar (c : Char) : Char :=
  if c.toNat < 128 then c
  else match Text.decimalValue? c with
    | some d => Char.ofNat ('0'.toNat + d)
    | none => '?'

/-- The characters of a literal, without blanks around it. -/
def plain (s : String) : List Char := (dropMargins s.toList).map plainChar

/-- How many digits a whole number may have. -/
def digitLimit : Nat := 4300

end Literal

/-- The number that a text spells, if it spells one. -/
def readNumber (s : String) : Option Binary64 := Literal.scanSeparated (Literal.plain s)

/-- The whole number that a text spells, if it spells one. -/
def readInteger (s : String) : Option Int := do
  let (negative, body) := Literal.splitSign (Literal.plain s)
  let digits ← Literal.dropUnderscores .other body
  if digits.isEmpty ∨ Literal.digitLimit < digits.length ∨ !digits.all Text.isAsciiDigit then none
  else
    let n : Int := Text.asciiNumber digits
    some (if negative then -n else n)

end DynamicForm

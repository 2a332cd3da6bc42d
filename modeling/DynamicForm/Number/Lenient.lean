import DynamicForm.Number.Literal

/-!
# Leniently written numbers

Payloads may spell numbers as text. Single underscores may stand anywhere between the ends of a
spelling, whole numbers may begin with zeros, and zeros may follow their point.

- `Lenient.number?` reads any number, `Lenient.integer` a whole one.
- A whole number of more than 4300 characters is too large, even though it could be read.
-/

namespace DynamicForm.Lenient

open Literal (dropMargins scan)

/-- Whether two underscores stand side by side. -/
def hasDoubleUnderscore : List Char → Bool
  | '_' :: '_' :: _ => true
  | _ :: rest => hasDoubleUnderscore rest
  | [] => false

/-- Removes underscores, unless one stands at an end or beside another. -/
def dropUnderscores (cs : List Char) : Option (List Char) :=
  if cs.head? = some '_' ∨ cs.getLast? = some '_' ∨ hasDoubleUnderscore cs then none
  else some (cs.filter (· ≠ '_'))

/-- The number that a text spells: with blanks around it or with underscores inside, but not with
both. -/
def number? (s : String) : Option Binary64 :=
  scan (dropMargins s.toList) <|> (dropUnderscores s.toList).bind scan

/-- What follows the zeros that a whole number begins with, and underscores among them: its first
other digit, a minus, or the last zero before the point or the end. -/
def afterZeros (last : Char) : List Char → Option (List Char)
  | [] => some [last]
  | c :: rest =>
    if c = '0' || c = '_' then afterZeros c rest
    else if Text.isAsciiDigit c || c = '-' then some (c :: rest)
    else if c = '.' then some (last :: c :: rest)
    else none

/-- Removes the zeros that a whole number begins with. -/
def dropZeros : List Char → Option (List Char)
  | [] => none
  | c :: rest =>
    if c = '0' then afterZeros c rest
    else if Text.isAsciiDigit c || c = '-' then some (c :: rest)
    else none

/-- Removes a point that only zeros follow. -/
def dropZeroFraction (cs : List Char) : List Char :=
  let whole := cs.takeWhile (· ≠ '.')
  let zeros := cs.drop (whole.length + 1)
  if !zeros.isEmpty && zeros.all (· == '0') then whole else cs

/-- The spelling with its sign and digits alone, as far as that can be had. -/
def cleaned (s : String) : Option (List Char) :=
  let bare (cs : List Char) : Option (List Char) := (dropZeros cs).map fun cs =>
    let cs := dropZeroFraction cs
    (dropUnderscores cs).getD cs
  match dropMargins s.toList with
  | '+' :: '-' :: _ => none
  | '+' :: rest => bare rest
  | '-' :: rest => (bare rest).map ('-' :: ·)
  | cs => bare cs

/-- Why a text is no whole number. -/
inductive Refusal where
  | unreadable
  | tooLarge
deriving DecidableEq, Repr

/-- How many characters a whole number may have. -/
def lengthLimit : Nat := 4300

/-- Reads digits with a possible minus, without zeros in front. -/
def digits (cs : List Char) : Except Refusal Int :=
  let (body, negative) := match cs with
    | '-' :: rest => (rest, true)
    | _ => (cs, false)
  match body with
  | ['0'] => .ok 0
  | '0' :: _ => .error .unreadable
  | _ =>
    let run := body.takeWhile Text.isAsciiDigit
    let length := run.length + (if negative then 1 else 0)
    if run.isEmpty then .error .unreadable
    else if lengthLimit < length then .error .tooLarge
    else if run.length < body.length then .error .unreadable
    else
      let n : Int := Text.asciiNumber run
      .ok (if negative then -n else n)

/-- The whole number that a text spells. -/
def integer (s : String) : Except Refusal Int :=
  match cleaned s with
  | some cs => digits cs
  | none => .error .unreadable

end DynamicForm.Lenient

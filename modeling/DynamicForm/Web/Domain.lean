import DynamicForm.Text.Case
import DynamicForm.Text.Parts
import DynamicForm.Text.Punycode
import DynamicForm.Web.Domain.Joining

/-!
# Domain names

A domain name is a row of labels with dots between them. In an address it is written in ASCII: a
label that holds other characters is written as Punycode behind `xn--`. Labels are checked before:
their characters must be admitted, in composed form and in an order that can be read both ways.

- `Domain.isLabel` says whether a text is a label.
- `Domain.toAscii?` writes a domain name in ASCII.
-/

namespace DynamicForm.Domain

/-! ## Labels -/

/-- Whether a character that depends on its surroundings is admitted there. The characters before
it are in reverse. Other characters do not depend on them. -/
def fits (label before : List Nat) (n : Nat) (after : List Nat) : Bool :=
  match n with
  | 0x200c => mayPart before after
  | 0x200d => mayJoin before
  | 0x00b7 => before.head? == some 0x6c && after.head? == some 0x6c
  | 0x0375 => after.head?.any greekRanges.contains
  | 0x05f3 => before.head?.any hebrewRanges.contains
  | 0x05f4 => before.head?.any hebrewRanges.contains
  | 0x30fb => label.any japaneseRanges.contains
  | _ =>
    if 0x660 ≤ n ∧ n ≤ 0x669 then !label.any fun m => decide (0x6f0 ≤ m ∧ m ≤ 0x6f9)
    else if 0x6f0 ≤ n ∧ n ≤ 0x6f9 then !label.any fun m => decide (0x660 ≤ m ∧ m ≤ 0x669)
    else true

/-- Whether all characters fit where they stand, given those before in reverse. -/
def allFit (label : List Nat) : List Nat → List Nat → Bool
  | _, [] => true
  | before, n :: rest => fits label before n rest && allFit label (n :: before) rest

/-- A label that holds something written to the left begins with a letter written to the left,
holds nothing written to the right, ends in a letter or a digit, and has digits of one sort. -/
def isDirected (kinds : List Kind) : Bool :=
  if kinds.any [Kind.right, .arabic, .arabicDigit].contains then
    kinds.head?.any [Kind.right, .arabic].contains &&
      !kinds.any [Kind.left, .spacingMark].contains &&
      ((kinds.filter (· != .mark)).getLast?.any
        [Kind.right, .arabic, .digit, .arabicDigit].contains) &&
      !(kinds.contains .digit && kinds.contains .arabicDigit)
  else true

/-- Hyphens stand neither at an end nor together in the third and fourth place. -/
def isHyphenated (label : List Nat) : Bool :=
  label.head? != some 0x2d && label.getLast? != some 0x2d && (label.drop 2).take 2 != [0x2d, 0x2d]

/-- Whether a text is a label. It begins with no mark. -/
def isLabel (label : List Nat) : Bool :=
  match label.mapM kind? with
  | some kinds =>
    !label.isEmpty && Text.isComposed label && isHyphenated label &&
      !kinds.head?.any [Kind.mark, .spacingMark].contains && allFit label [] label &&
      isDirected kinds
  | none => false

/-! ## Writing in ASCII -/

/-- How many characters a label in ASCII may have. -/
def labelLimit : Nat := 63

/-- How many characters a domain name in ASCII may have, apart from a dot at its end. -/
def nameLimit : Nat := 253

/-- What a label begins with whose rest is Punycode. -/
def mark : List Char := "xn--".toList

/-- Whether a label in ASCII is one, or stands for one. -/
def isAsciiLabel (cs : List Char) : Bool :=
  if cs.take mark.length = mark then
    let rest := cs.drop mark.length
    !rest.isEmpty && rest.getLast? != some '-' && (Text.Punycode.decode rest).any isLabel
  else isLabel (cs.map Char.toNat)

/-- A label in ASCII. -/
def labelToAscii? (cs : List Char) : Option (List Char) :=
  let (isValid, ascii) :=
    if cs.all fun c => c.toNat < 0x80 then (isAsciiLabel cs, cs)
    else (isLabel (cs.map Char.toNat), mark ++ Text.Punycode.encode cs)
  if isValid && ascii.length ≤ labelLimit then some ascii else none

/-- Whether a character is a dot between labels. -/
def isDot (c : Char) : Bool := [0x2e, 0x3002, 0xff0e, 0xff61].contains c.toNat

/-- A domain name in ASCII. A dot at its end is kept. -/
def toAscii? (name : List Char) : Option (List Char) := do
  let name := Text.lowerChars name
  let parts := Text.parts isDot name
  let hasDot := parts.getLast? == some []
  let parts ← (if hasDot then parts.dropLast else parts).mapM labelToAscii?
  let ascii := ['.'].intercalate (if hasDot then parts ++ [[]] else parts)
  let limit := if hasDot then nameLimit + 1 else nameLimit
  if name.length ≤ nameLimit + 1 ∧ ascii.length ≤ limit then some ascii else none

end DynamicForm.Domain

import DynamicForm.Text.Digits
import DynamicForm.Text.Name.Alphabets
import DynamicForm.Text.Name.Further
import DynamicForm.Text.Name.Hangul
import DynamicForm.Text.Name.Pictures
import DynamicForm.Text.Name.Scripts
import DynamicForm.Text.Name.Signs
import DynamicForm.Text.Name.Syllables
import DynamicForm.Text.Name.Symbols

/-!
# Characters by name

Every character that has a name can be found by it, in capital or small letters. Ideographs and
Hangul syllables have names by rule; these count in capital letters only.

- `namedCode?` is the code point of the character with a name.
-/

namespace DynamicForm.Text

/-- All runs of names. -/
def nameRuns : List NameRun :=
  alphabetsNames ++ symbolsNames ++ syllablesNames ++ scriptsNames ++ signsNames ++ picturesNames

/-- The ideographs whose names are their numbers. -/
def unifiedIdeographs : Ranges := [
  (0x3400, 0x4dbf), (0x4e00, 0x9fff), (0x20000, 0x2a6df), (0x2a700, 0x2b738), (0x2b740, 0x2b81d),
  (0x2b820, 0x2cea1), (0x2ceb0, 0x2ebe0), (0x30000, 0x3134a)]

/-- Other characters that are named by a stem and their numbers. -/
def numberedRanges : List (String × Ranges) := [
  ("CJK COMPATIBILITY IDEOGRAPH-", [(0xf900, 0xfa6d), (0xfa70, 0xfad9), (0x2f800, 0x2fa1d)]),
  ("KHITAN SMALL SCRIPT CHARACTER-", [(0x18b00, 0x18cd5)]),
  ("NUSHU CHARACTER-", [(0x1b170, 0x1b2fb)])]

/-- What the names of variation selectors begin with before their number. -/
def selectorStems : List String := ["VARIATION SELECTOR-", "VS"]

/-- The value of a hexadecimal digit in capitals. -/
def capitalHexValue? (c : Char) : Option Nat :=
  if isAsciiDigit c then some (asciiDigitValue c)
  else if 'A' ≤ c ∧ c ≤ 'F' then some (c.toNat - 'A'.toNat + 10)
  else none

/-- The number that hexadecimal digits spell. -/
def capitalHexNumber? (cs : List Char) : Option Nat :=
  cs.foldl (fun n c => do return 16 * (← n) + (← capitalHexValue? c)) (some 0)

/-- The code point that four or five hexadecimal digits spell, if it is in the set. -/
def numberedCode? (set : Ranges) (digits : List Char) : Option Nat :=
  if digits.length = 4 ∨ digits.length = 5 then (capitalHexNumber? digits).filter set.contains
  else none

/-- The variation selector of a number, which is spelled without zeros in front. -/
def selectorCode? (digits : List Char) : Option Nat :=
  let n := asciiNumber digits
  if digits.isEmpty || digits.length > 3 || !digits.all isAsciiDigit || digits.head? = some '0' then
    none
  else if n ≤ 16 then some (0xfe00 + n - 1)
  else if n ≤ 256 then some (0xe0100 + n - 17)
  else none

/-- A character named by rule. -/
def ruledCode? (name : List Char) : Option Nat :=
  (numberedRanges.findSome? fun (stem, set) =>
    (stem.toList.isPrefixOf? name).bind fun digits =>
      if digits.head? = some '0' then none else numberedCode? set digits) <|>
  selectorStems.findSome? fun stem =>
    (stem.toList.isPrefixOf? name).bind selectorCode?

/-- The code point of the character with a name. -/
def namedCode? (name : List Char) : Option Nat :=
  match "HANGUL SYLLABLE ".toList.isPrefixOf? name with
  | some letters => Hangul.syllable? letters
  | none =>
    match "CJK UNIFIED IDEOGRAPH-".toList.isPrefixOf? name with
    | some digits => numberedCode? unifiedIdeographs digits
    | none =>
      let name := name.map Char.toUpper
      ruledCode? name <|> nameRuns.findSome? (NameRun.find? name) <|>
        (furtherNames.find? fun entry => entry.2.toList = name).map Prod.fst

end DynamicForm.Text

import DynamicForm.Text.Printable

/-!
# Quoted text

Text inside the written form of a value stands between quotes: single ones, unless it holds a
single quote and no double quote. The quote, the backslash and everything unprintable is escaped,
by the shortest of the escapes with two, four and eight hexadecimal digits.
-/

namespace DynamicForm.Text

/-- A number in lower case hexadecimal digits, with at least `width` of them. -/
def hexPadded (width n : Nat) : String :=
  let digits := Nat.toDigits 16 n
  String.ofList (List.replicate (width - digits.length) '0' ++ digits)

/-- The quote around a text. -/
def quoteFor (s : String) : Char :=
  if s.toList.contains '\'' && !s.toList.contains '"' then '"' else '\''

/-- A character inside quotes. -/
def quotedChar (quote c : Char) : String :=
  if c = quote || c = '\\' then String.ofList ['\\', c]
  else if c = '\n' then "\\n"
  else if c = '\r' then "\\r"
  else if c = '\t' then "\\t"
  else if isPrintable c then String.ofList [c]
  else if c.toNat ≤ 0xff then "\\x" ++ hexPadded 2 c.toNat
  else if c.toNat ≤ 0xffff then "\\u" ++ hexPadded 4 c.toNat
  else "\\U" ++ hexPadded 8 c.toNat

/-- A text between quotes. -/
def quoted (s : String) : String :=
  let quote := quoteFor s
  String.ofList [quote] ++ String.join (s.toList.map (quotedChar quote)) ++ String.ofList [quote]

/-- A list of texts in its written form. -/
def quotedList (texts : List String) : String :=
  "[" ++ String.intercalate ", " (texts.map quoted) ++ "]"

end DynamicForm.Text

import DynamicForm.Number.Shortest
import DynamicForm.Text.Quoted
import DynamicForm.Value

/-!
# Writing JSON text

Answers travel inside other records as JSON text: members are set apart by a comma and a space, a
key and its value by a colon and a space, and every character beyond printable ASCII is escaped.

- `Json.write` is the text of a value.
- `Value.nesting` is how far lists and records stand inside each other; what is nested too far is
  not written.
-/

namespace DynamicForm

namespace Value

mutual

/-- How many lists and records stand inside each other. -/
def nesting : Value → Nat
  | list items => itemsNesting items + 1
  | record entries => entriesNesting entries + 1
  | _ => 0

def itemsNesting : List Value → Nat
  | [] => 0
  | v :: rest => Nat.max (nesting v) (itemsNesting rest)

def entriesNesting : List (String × Value) → Nat
  | [] => 0
  | (_, v) :: rest => Nat.max (nesting v) (entriesNesting rest)

end

end Value

namespace Json

/-- The text of an escaped code unit. -/
def unitEscape (n : Nat) : String := "\\u" ++ Text.hexPadded 4 n

/-- A character inside a JSON string. -/
def writtenChar (c : Char) : String :=
  if c = '"' then "\\\""
  else if c = '\\' then "\\\\"
  else if c = '\n' then "\\n"
  else if c = '\r' then "\\r"
  else if c = '\t' then "\\t"
  else if c.toNat = 8 then "\\b"
  else if c.toNat = 12 then "\\f"
  else if 32 ≤ c.toNat ∧ c.toNat < 127 then String.ofList [c]
  else if c.toNat ≤ 0xffff then unitEscape c.toNat
  else
    let n := c.toNat - 0x10000
    unitEscape (0xd800 + n / 0x400) ++ unitEscape (0xdc00 + n % 0x400)

/-- A JSON string. -/
def writeText (s : String) : String := "\"" ++ String.join (s.toList.map writtenChar) ++ "\""

/-- A number; the three that are not finite have words of their own. -/
def writeNumber : Binary64 → String
  | .nan => "NaN"
  | .infinite negative => if negative then "-Infinity" else "Infinity"
  | x => x.text

mutual

/-- The JSON text of a value. -/
def write : Value → String
  | .null => "null"
  | .bool b => if b then "true" else "false"
  | .int n => toString n
  | .float x => writeNumber x
  | .text s => writeText s
  | .list items => "[" ++ String.intercalate ", " (writeItems items) ++ "]"
  | .record entries => "\x7b" ++ String.intercalate ", " (writeEntries entries) ++ "\x7d"

/-- The texts of the members of a list. -/
def writeItems : List Value → List String
  | [] => []
  | v :: rest => write v :: writeItems rest

/-- The texts of the entries of a record. -/
def writeEntries : List (String × Value) → List String
  | [] => []
  | (k, v) :: rest => (writeText k ++ ": " ++ write v) :: writeEntries rest

end

end Json

end DynamicForm

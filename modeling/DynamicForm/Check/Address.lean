import DynamicForm.Pattern.Matcher

/-!
# Mail addresses

Whether a text is a mail address is decided by one fixed pattern. It looks ahead twice, for the
length of the whole and for an at sign that is not too far off, and then reads the parts.

- `isAddressLine` matches a text against it.
-/

namespace DynamicForm.Address

open Pattern (Compiled Refusal)

/-- One of the characters of a local part other than the dot. -/
def localChar : String := "[a-zA-Z0-9!#$%&'*+/=?^_\x60\x7b|\x7d~-]"

/-- A label of a domain. -/
def label : String := "[a-zA-Z0-9](?:[a-zA-Z0-9-]\x7b0,61\x7d[a-zA-Z0-9])?"

/-- The pattern of an address. -/
def source : String :=
  "^(?=.\x7b1,254\x7d$)(?=.\x7b1,64\x7d@)" ++ localChar ++ "+(?:\\." ++ localChar ++ "+)*@" ++
    label ++ "(?:\\." ++ label ++ ")*$"

/-- The pattern of an address, compiled. -/
def shape : Except Refusal Compiled := Pattern.compile source

/-- Whether a text is an address, as far as the pattern goes. -/
def isAddressLine (s : String) : Bool :=
  match shape with
  | .error _ => false
  | .ok c => c.matchesStart s matches .ok true

end DynamicForm.Address

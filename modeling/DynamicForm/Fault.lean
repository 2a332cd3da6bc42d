/-!
# Faults

What can interrupt a check or a comparison. A fault is not a failed check: it ends the call that
met it.
-/

namespace DynamicForm

/-- Why a value could not be checked or compared. -/
inductive Fault where
  /-- An integer lies beyond every binary64 number. -/
  | integerTooLarge
  /-- An integer has more digits than are written out. -/
  | integerTooLong
  /-- A pattern repeats more often than can be counted. -/
  | repetitionTooLarge
  /-- A pattern names a character by a number that is no machine integer. -/
  | codeTooLarge
  /-- A pattern asks for ASCII and for Unicode matching at once. -/
  | alphabetsConflict
  /-- Groups of a pattern stand too deeply inside each other. -/
  | groupsTooDeep
  /-- A division has a quotient with more digits than calculations keep. -/
  | quotientTooLong
  /-- Matching a pattern left a group that ends before it begins. -/
  | groupReversed
deriving DecidableEq, Repr

namespace Fault

def message : Fault → String
  | integerTooLarge => "int too large to convert to float"
  | integerTooLong => "Exceeds the limit (4300 digits) for integer string conversion; " ++
    "use sys.set_int_max_str_digits() to increase the limit"
  | repetitionTooLarge => "the repetition number is too large"
  | codeTooLarge => "character number out of reach"
  | alphabetsConflict => "ASCII and UNICODE flags are incompatible"
  | groupsTooDeep => "the groups stand too deeply inside each other"
  | quotientTooLong => "the quotient has too many digits"
  | groupReversed => "a group ends before it begins"

/-- Whether a number was too large, rather than unsuitable. -/
def isOverflow : Fault → Bool
  | integerTooLong => false
  | alphabetsConflict => false
  | groupsTooDeep => false
  | quotientTooLong => false
  | groupReversed => false
  | _ => true

end Fault

end DynamicForm

import DynamicForm.Value

/-!
# Strict JSON

Strict JSON has no numbers that are not finite. A value with such a number is refused, or shown with
null in its place. Free values inside models are only written down to a depth.

- `Value.isWritable` tells whether a value has a form in strict JSON.
- `Value.storable` is the nearest value that has one.
- `Value.isShallow` tells whether a value can be written as a part of a model.
-/

namespace DynamicForm.Value

mutual

/-- Whether every number in the value is finite. -/
def isWritable : Value → Bool
  | float x => x.isFinite
  | list items => areWritable items
  | record entries => haveWritable entries
  | _ => true

def areWritable : List Value → Bool
  | [] => true
  | v :: rest => isWritable v && areWritable rest

def haveWritable : List (String × Value) → Bool
  | [] => true
  | (_, v) :: rest => isWritable v && haveWritable rest

end

mutual

/-- Null in place of every number that is not finite. -/
def storable : Value → Value
  | float x => if x.isFinite then float x else null
  | list items => list (storableItems items)
  | record entries => record (storableEntries entries)
  | v => v

def storableItems : List Value → List Value
  | [] => []
  | v :: rest => storable v :: storableItems rest

def storableEntries : List (String × Value) → List (String × Value)
  | [] => []
  | (k, v) :: rest => (k, storable v) :: storableEntries rest

end

mutual

/-- How deeply values stand inside each other; a value that holds no other one has depth one. -/
def depth : Value → Nat
  | list items => itemsDepth items + 1
  | record entries => entriesDepth entries + 1
  | _ => 1

def itemsDepth : List Value → Nat
  | [] => 0
  | v :: rest => Nat.max (depth v) (itemsDepth rest)

def entriesDepth : List (String × Value) → Nat
  | [] => 0
  | (_, v) :: rest => Nat.max (depth v) (entriesDepth rest)

end

/-- The greatest depth of a free value that is written. -/
def depthLimit : Nat := 255

/-- Whether a free value can be written as a part of a model. -/
def isShallow (v : Value) : Bool := v.depth ≤ depthLimit

end DynamicForm.Value

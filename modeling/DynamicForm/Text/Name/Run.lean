/-!
# Runs of names

The names of neighbouring characters often begin alike. A run of names is written as one text, in
several lines: each name follows a small letter that says how many parts it shares with the name
before it, `a` for none. Parts end with a blank or a hyphen.

- `NameRun.find?` looks a name up in a run.
-/

namespace DynamicForm.Text

/-- The first code point of a run, and the lines with the names from there on. -/
abbrev NameRun := Nat × List String

/-- The first parts of a name. -/
def leadingParts : Nat → List Char → List Char
  | 0, _ => []
  | _ + 1, [] => []
  | n + 1, c :: rest =>
    if c = ' ' ∨ c = '-' then c :: leadingParts n rest else c :: leadingParts (n + 1) rest

/-- How many parts a small letter says are shared. -/
def sharedParts? (c : Char) : Option Nat :=
  if 'a' ≤ c ∧ c ≤ 'z' then some (c.toNat - 'a'.toNat) else none

/-- Finds a name in what is left of a run. `code` belongs to the name that has been read so far,
in reverse. -/
def findInRun (name : List Char) : Nat → List Char → List Char → Option Nat
  | code, current, [] => if current.reverse = name then some code else none
  | code, current, c :: rest =>
    match sharedParts? c with
    | some n =>
      let full := current.reverse
      if full = name then some code
      else findInRun name (code + 1) (leadingParts n full).reverse rest
    | none => findInRun name code (c :: current) rest

/-- The code point of a name in a run. -/
def NameRun.find? (name : List Char) (run : NameRun) : Option Nat :=
  match run.2.flatMap String.toList with
  | [] => none
  | _ :: rest => findInRun name run.1 [] rest

end DynamicForm.Text

import DynamicForm.Value

/-!
# Initial answers

Saved answers may come as a record or as a sequence of entries, each a key and a value. The letters
of a text and the keys of a record are sequences too.

- `Record.ofValue` reads a record; of entries with the same key the last one wins.
- `Record.initial` also lets an empty value stand for no answers.
-/

namespace DynamicForm

/-- Why a value is no record of answers. -/
inductive RecordError where
  /-- An entry has not two parts. -/
  | wrongLength (position length : Nat)
  /-- There are no entries, or a key cannot be one. -/
  | notEntries
deriving DecidableEq, Repr

/-- The parts of a sequence. -/
def Value.parts? : Value → Option (List Value)
  | .text s => some (s.toList.map fun c => .text (String.ofList [c]))
  | .list items => some items
  | .record entries => some (entries.map fun e => .text e.1)
  | _ => none

namespace Record

/-- Adds an entry under its key. Numbers, null and booleans are keys, but no field has them. -/
def addEntry (r : Record) : Value → Value → Except RecordError Record
  | .text key, v => .ok (r.insert key v)
  | .list _, _ => .error .notEntries
  | .record _, _ => .error .notEntries
  | _, _ => .ok r

/-- Adds entries, of which the first has this position. -/
def addEntries (r : Record) : Nat → List Value → Except RecordError Record
  | _, [] => .ok r
  | position, entry :: rest => do
    let added ← match entry.parts? with
      | some [key, v] => r.addEntry key v
      | some parts => .error (.wrongLength position parts.length)
      | none => .error .notEntries
    addEntries added (position + 1) rest

/-- Reads a record. -/
def ofValue : Value → Except RecordError Record
  | .record entries => .ok entries
  | v =>
    match v.parts? with
    | some entries => addEntries [] 0 entries
    | none => .error .notEntries

/-- Reads the answers to begin with. -/
def initial (v : Value) : Except RecordError Record := if v.isTruthy then ofValue v else .ok []

end Record

end DynamicForm

import DynamicForm.Backend.Message
import DynamicForm.Definition.Writer
import DynamicForm.Json.Reader
import DynamicForm.Text.Encoding

/-!
# The shelf of sample definitions

Sample definitions lie in files on a shelf. Files whose names end in `.json` are listed, but every
file can be asked for.

- `Shelf.list` lists the files; one that is not JSON is passed over with a notice.
- `Shelf.find` reads the definition in a file.
-/

namespace DynamicForm.Backend

/-- Files by name; there may be no shelf at all. -/
structure Shelf where
  files : Option (List (String × String))

namespace Shelf

/-- What is listed about a file. -/
structure Card where
  filename : String
  /-- The name and the key that the file gives, whatever they are. -/
  name : Value
  key : Value
  fieldCount : Nat

def Card.toValue (c : Card) : Value :=
  .record [("filename", .text c.filename), ("name", c.name.withoutInternal),
    ("key", c.key.withoutInternal), ("field_count", .int c.fieldCount)]

/-- The ending of the names that are listed. -/
def ending : List Char := ".json".toList

def isListed (filename : String) : Bool := ending.isSuffixOf filename.toList

/-- The name of a listed file without its ending; a name that is nothing else is kept. -/
def stem (filename : String) : String :=
  let cs := filename.toList
  if cs = ending then filename else String.ofList (cs.take (cs.length - ending.length))

/-- How many members a value has. -/
def size? : Value → Option Nat
  | .list items => some items.length
  | .text s => some s.length
  | .record es => some es.length
  | _ => none

/-- The card of a file that holds a value; only a record has one, and its fields have to be
countable. -/
def card? (filename : String) : Value → Option Card
  | .record es => do
    let count ← size? ((Record.get? es "fields").getD (.list []))
    return {
      filename := filename
      name := (Record.get? es "name").getD (.text (stem filename))
      key := (Record.get? es "key").getD (.text (stem filename))
      fieldCount := count }
  | _ => none

/-- The notice about a file that is not JSON. -/
def skipping (filename : String) : Notice :=
  .warning ("Skipping unreadable schema file " ++ filename)

/-- The cards of files, unless one of them has none. -/
def cards : List (String × String) → List Notice × Option (List Card)
  | [] => ([], some [])
  | (filename, text) :: rest =>
    match Json.read text with
    | .ok v =>
      match card? filename v with
      | some c =>
        let (notices, more) := cards rest
        (notices, more.map (c :: ·))
      | none => ([], none)
    | .error e =>
      if e.isMalformed then
        let (notices, more) := cards rest
        (skipping filename :: notices, more)
      else ([], none)

/-- The listed files, in order of their names. -/
def listed (s : Shelf) : List (String × String) :=
  ((s.files.getD []).filter fun f => isListed f.1).mergeSort fun a b => decide (a.1 ≤ b.1)

/-- Lists the files, unless one of them has no card. -/
def list (s : Shelf) : List Notice × Option (List Card) := cards s.listed

/-- Why no definition is found under a name. -/
inductive Missing where
  /-- There is no such file. -/
  | notFound
  /-- There is something else than a definition. -/
  | unreadable
  /-- The name is too long to be looked up. -/
  | tooLong
deriving DecidableEq, Repr

/-! ## Reading definitions -/

/-- The greatest depth of what a file may hold. -/
def depthLimit : Nat := 201

/-- A number that is too large for binary64 is as good as infinite. -/
def widen : Value → Value
  | .int n => if (Binary64.ofInt? n).isSome then .int n else .float (.infinite (n < 0))
  | v => v

/-- A value with some of its entries changed. -/
def within (keys : List String) (f : Value → Value) : Value → Value
  | .record es => .record (es.map fun (k, v) => (k, if keys.contains k then f v else v))
  | v => v

/-- A value with its members changed. -/
def each (f : Value → Value) : Value → Value
  | .list items => .list (items.map f)
  | v => v

/-- The bounds of a definition in a file are read as binary64 numbers, however large they are. -/
def widenBounds : Value → Value :=
  within ["fields"] (each (within ["validation"] (within ["min", "max"] widen)))

/-- The definition that a text holds. -/
def definitionIn? (text : String) : Option Definition :=
  match Json.read text with
  | .ok v =>
    if v.depth ≤ depthLimit then
      match Definition.read (widenBounds v) with
      | .ok d => some d
      | .bad _ => none
    else none
  | .error _ => none

/-- How many bytes a name may have. -/
def longestName : Nat := 255

/-- The definition in a file. The name of the place above the shelf is no file. -/
def find (s : Shelf) (filename : String) : Except Missing Definition :=
  match s.files with
  | none => .error .notFound
  | some files =>
    if longestName < (Text.utf8Bytes filename.toList).length then .error .tooLong
    else if filename = ".." then .error .unreadable
    else match files.lookup filename with
      | none => .error .notFound
      | some text =>
        match definitionIn? text with
        | some d => .ok d
        | none => .error .unreadable

end Shelf

end DynamicForm.Backend

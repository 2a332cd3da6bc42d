import DynamicForm.Json.Token
import DynamicForm.Value

/-!
# Reading JSON text

The tokens of a text drive a machine with a stack of open lists and records. Keys of a record are
kept in the order of their first appearance, and the last value given to a key wins.

- `Json.readWithin` reads one value that fills the whole text, with lists and records inside each
  other up to a depth. `Json.read` has the depth that is read everywhere.
- `Json.ReadError.message` words each complaint, with line, column and position.
-/

namespace DynamicForm.Json

/-- What is wrong with a text. -/
inductive Complaint where
  | value
  | propertyName
  | colon
  | comma
  | extraData
  | string (cause : StringError)
  | byteOrderMark
  /-- An integer with more digits than are read. -/
  | tooManyDigits (count : Nat)
  /-- More lists and records inside each other than are read. -/
  | tooDeep
deriving DecidableEq, Repr

/-- A complaint and the position it is about. -/
structure ReadError where
  complaint : Complaint
  position : Nat
deriving DecidableEq, Repr

/-- The most digits of an integer that are read. -/
def digitLimit : Nat := 4300

/-- The wording of a complaint, without its place. -/
def Complaint.wording : Complaint → String
  | .value => "Expecting value"
  | .propertyName => "Expecting property name enclosed in double quotes"
  | .colon => "Expecting ':' delimiter"
  | .comma => "Expecting ',' delimiter"
  | .extraData => "Extra data"
  | .string .unterminated => "Unterminated string starting at"
  | .string .control => "Invalid control character at"
  | .string .badEscape => "Invalid \\escape"
  | .string .badUnicodeEscape => "Invalid \\uXXXX escape"
  | .byteOrderMark => "Unexpected UTF-8 BOM (decode using utf-8-sig)"
  | .tooManyDigits count =>
    "Exceeds the limit (" ++ toString digitLimit ++ " digits) for integer string conversion: " ++
      "value has " ++ toString count ++
      " digits; use sys.set_int_max_str_digits() to increase the limit"
  | .tooDeep => "maximum recursion depth exceeded"

/-- The line and column of a position, both counted from one. -/
def lineColumn (cs : List Char) (position : Nat) : Nat × Nat :=
  let before := cs.take position
  (before.count '\n' + 1, (before.reverse.takeWhile (· != '\n')).length + 1)

/-- The full wording of a complaint about a text. -/
def ReadError.message (e : ReadError) (text : String) : String :=
  match e.complaint with
  | .tooManyDigits _ => e.complaint.wording
  | .tooDeep => e.complaint.wording
  | _ =>
    let (line, column) := lineColumn text.toList e.position
    e.complaint.wording ++ ": line " ++ toString line ++ " column " ++ toString column ++
      " (char " ++ toString e.position ++ ")"

/-- Whether the text is not JSON at all, rather than JSON that is not read. -/
def ReadError.isMalformed (e : ReadError) : Bool :=
  match e.complaint with
  | .tooManyDigits _ => false
  | .tooDeep => false
  | _ => true

/-- An open list or record with what it holds so far. -/
inductive Frame where
  /-- Members of a list, in reverse. -/
  | list (done : List Value)
  /-- Entries of a record, in reverse, and the key whose value is being read. -/
  | record (done : List (String × Value)) (key : String)

/-- What the next token has to be. -/
inductive Expecting where
  | value
  /-- A value, or the end of a list that has just been opened. -/
  | valueOrClose
  /-- A key; the entries so far, in reverse. -/
  | key (done : List (String × Value))
  /-- A key, or the end of a record that has just been opened. -/
  | keyOrClose
  | colon
  /-- A separator or the end of the innermost list or record. -/
  | next (v : Value)

/-- What a token leads to. -/
inductive Outcome where
  | go (stack : List Frame) (expecting : Expecting)
  | done (v : Value)
  | fail (e : ReadError)

/-- The value of a token that is one by itself. -/
def tokenValue (position : Nat) : Token → Except ReadError Value
  | .null => .ok .null
  | .bool b => .ok (.bool b)
  | .int negative digits =>
    if digits.length > digitLimit then .error ⟨.tooManyDigits digits.length, position⟩
    else
      let n : Int := Text.asciiNumber digits
      .ok (.int (if negative then -n else n))
  | .float x => .ok (.float x)
  | .text s => .ok (.text s)
  | .badText cause place => .error ⟨.string cause, place⟩
  | _ => .error ⟨.value, position⟩

/-- Opens a list or a record, unless the depth has been reached. -/
def opening (depth : Nat) (stack : List Frame) (position : Nat) (next : Outcome) : Outcome :=
  if depth ≤ stack.length then .fail ⟨.tooDeep, position⟩ else next

/-- The step where a value begins. -/
def startValue (depth : Nat) (stack : List Frame) (position : Nat) : Token → Outcome
  | .openRecord => opening depth stack position (.go stack .keyOrClose)
  | .openList => opening depth stack position (.go (.list [] :: stack) .valueOrClose)
  | t =>
    match tokenValue position t with
    | .ok v => .go stack (.next v)
    | .error e => .fail e

/-- The step where a key begins. -/
def startKey (stack : List Frame) (done : List (String × Value)) (position : Nat) : Token → Outcome
  | .text s => .go (.record done s :: stack) .colon
  | .badText cause place => .fail ⟨.string cause, place⟩
  | _ => .fail ⟨.propertyName, position⟩

/-- The step after a value. -/
def afterValue (v : Value) (position : Nat) : List Frame → Token → Outcome
  | [], .finish => .done v
  | [], _ => .fail ⟨.extraData, position⟩
  | .list done :: stack, .comma => .go (.list (v :: done) :: stack) .value
  | .list done :: stack, .closeList => .go stack (.next (.list (v :: done).reverse))
  | .record done key :: stack, .comma => .go stack (.key ((key, v) :: done))
  | .record done key :: stack, .closeRecord =>
    .go stack (.next (.record (Record.ofPairs ((key, v) :: done).reverse)))
  | _, _ => .fail ⟨.comma, position⟩

/-- One step of the machine. -/
def step (depth : Nat) (stack : List Frame) (position : Nat) (t : Token) : Expecting → Outcome
  | .value => startValue depth stack position t
  | .valueOrClose =>
    match stack, t with
    | .list [] :: rest, .closeList => .go rest (.next (.list []))
    | _, _ => startValue depth stack position t
  | .key done => startKey stack done position t
  | .keyOrClose =>
    match t with
    | .closeRecord => .go stack (.next (.record []))
    | _ => startKey stack [] position t
  | .colon =>
    match t with
    | .colon => .go stack .value
    | _ => .fail ⟨.colon, position⟩
  | .next v => afterValue v position stack t

/-- Runs the machine over the tokens. -/
def run (depth : Nat) : List Frame → Expecting → List (Nat × Token) → Except ReadError Value
  | _, _, [] => .error ⟨.value, 0⟩
  | stack, expecting, (position, t) :: rest =>
    match step depth stack position t expecting with
    | .go stack' expecting' => run depth stack' expecting' rest
    | .done v => .ok v
    | .fail e => .error e

/-- Reads a text that holds one JSON value of at most this depth. -/
def readWithin (depth : Nat) (text : String) : Except ReadError Value :=
  match text.toList with
  | c :: rest =>
    if c.toNat = 0xfeff then .error ⟨.byteOrderMark, 0⟩
    else run depth [] .value (tokens (c :: rest))
  | [] => run depth [] .value (tokens [])

/-- How many lists and records may stand inside each other. -/
def depthLimit : Nat := 970

/-- Reads a text that holds one JSON value. -/
def read (text : String) : Except ReadError Value := readWithin depthLimit text

end DynamicForm.Json

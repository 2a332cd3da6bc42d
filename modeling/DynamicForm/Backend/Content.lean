import DynamicForm.Backend.Message
import DynamicForm.Definition.Issue
import DynamicForm.Json.Reader
import DynamicForm.Text.Blank
import DynamicForm.Web.Url

/-!
# The content of requests

Content is read as JSON when its type says so. What is needed is a record, or a definition together
with values; each part that is something else is reported with its path.

- `Content.ofRequest` reads the content of a request.
- `Content.payload` and `Content.formValues` take out what a handler needs.
-/

namespace DynamicForm.Backend

/-- The content of a request. -/
inductive Content where
  | nothing
  | json (v : Value)
  /-- Content of another type. -/
  | raw (s : String)

/-- What is wrong with content. -/
inductive ContentCause where
  /-- It is not JSON. -/
  | malformed (complaint : Json.Complaint)
  | missing
  | notRecord
  /-- It has no parts. -/
  | notModel
deriving DecidableEq, Repr

namespace ContentCause

/-- The short name of the cause. -/
def kind : ContentCause → String
  | malformed _ => "json_invalid"
  | missing => "missing"
  | notRecord => "dict_type"
  | notModel => "model_attributes_type"

def message : ContentCause → String
  | malformed _ => "JSON decode error"
  | missing => "Field required"
  | notRecord => "Input should be a valid dictionary"
  | notModel => "Input should be a valid dictionary or object to extract fields from"

end ContentCause

/-- A part of the content that is not what is needed. -/
structure ContentIssue where
  path : List PathStep
  cause : ContentCause
  /-- What the part is. -/
  input : Value

def PathStep.value : PathStep → Value
  | .key s => .text s
  | .index n => .int n

namespace ContentIssue

/-- The issue as it is reported. -/
def toValue (i : ContentIssue) : Value :=
  .record ([("type", .text i.cause.kind), ("loc", .list (i.path.map PathStep.value)),
    ("msg", .text i.cause.message), ("input", i.input.withoutInternal)] ++
    match i.cause with
    | .malformed complaint => [("ctx", .record [("error", .text complaint.wording)])]
    | _ => [])

/-- The response that reports issues. -/
def response (issues : List ContentIssue) : Option Response :=
  Response.ofDetail 422 (.list (issues.map toValue))

end ContentIssue

/-- Why content cannot be read. -/
inductive ContentError where
  | issue (i : ContentIssue)
  /-- It is JSON that holds what is not read, or has no encoding. -/
  | unreadable
  /-- It is no text. -/
  | notText

def ContentError.response : ContentError → Option Response
  | issue i => ContentIssue.response [i]
  | unreadable => some (.ofReason 400 "There was an error parsing the body" [])
  | notText => none

/-- Whether content of a type is JSON. What stands behind a semicolon does not matter. -/
def isJsonType (type : String) : Bool :=
  let name := Text.lower (Text.trim (String.ofList (type.toList.takeWhile (· != ';'))))
  match (Url.segments name.toList).map String.ofList with
  | [kind, form] =>
    kind == "application" && (form == "json" || "+json".toList.isSuffixOf form.toList)
  | _ => false

namespace Content

/-- Reads bytes as JSON. -/
def readJson (bytes : List UInt8) : Except ContentError Content :=
  match Text.decodeAny bytes with
  | none => .error .unreadable
  | some cs =>
    match Json.read (String.ofList cs) with
    | .ok v => .ok (.json v)
    | .error e =>
      if e.isMalformed then
        .error (.issue ⟨[.key "body", .index e.position], .malformed e.complaint, .record []⟩)
      else .error .unreadable

/-- Reads the content of a request. -/
def ofRequest (r : Request) : Except ContentError Content :=
  if r.content.isEmpty then .ok .nothing
  else if isJsonType ((r.header? "content-type").getD "") then readJson r.content
  else match Text.allPieces (Text.utf8Pieces r.content) with
    | some cs => .ok (.raw (String.ofList cs))
    | none => .error .notText

/-- The content as a value, if there is any. -/
def value? : Content → Option Value
  | nothing => none
  | json v => some v
  | raw s => some (.text s)

/-- Where the content stands in paths. -/
def root : List PathStep := [.key "body"]

/-- The content as a record. -/
def payload (c : Content) : Except (List ContentIssue) Record :=
  match c.value? with
  | none => .error [⟨root, .missing, .null⟩]
  | some (.record es) => .ok es
  | some v => .error [⟨root, .notRecord, v⟩]

/-- A definition, not read yet, and values for its fields. -/
structure FormValues where
  definition : Record
  values : Record

/-- A part of the content that has to be a record. -/
def recordUnder (name : String) : Value → Except (List ContentIssue) Record
  | .record es => .ok es
  | v => .error [⟨root ++ [.key name], .notRecord, v⟩]

/-- The part that describes the form. -/
def definitionIn (es : Record) : Except (List ContentIssue) Record :=
  match es.get? "definition" with
  | some v => recordUnder "definition" v
  | none => .error [⟨root ++ [.key "definition"], .missing, .record es⟩]

/-- The part that holds values; it may be left out. -/
def valuesIn (es : Record) : Except (List ContentIssue) Record :=
  match es.get? "values" with
  | some v => recordUnder "values" v
  | none => .ok []

/-- The content as a definition and values. The issues of both are reported. -/
def formValues (c : Content) : Except (List ContentIssue) FormValues :=
  match c.value? with
  | none => .error [⟨root, .missing, .null⟩]
  | some (.record es) =>
    match definitionIn es, valuesIn es with
    | .ok d, .ok v => .ok ⟨d, v⟩
    | .ok _, .error issues => .error issues
    | .error issues, .ok _ => .error issues
    | .error first, .error second => .error (first ++ second)
  | some v => .error [⟨root, .notModel, v⟩]

end Content

end DynamicForm.Backend

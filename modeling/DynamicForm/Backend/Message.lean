import DynamicForm.Json.Strict
import DynamicForm.Notice
import DynamicForm.Text.Case
import DynamicForm.Web.Url

/-!
# Messages of the backend

A request has headers and content; a response has a status, headers and a body. Bodies are JSON
values or plain text.

- `Response.ofModel` shows numbers that are not finite as null.
- `Response.ofPlain` cannot show them: without a response the backend breaks down.
-/

namespace DynamicForm.Backend

/-- Names of headers are compared without regard to case. -/
abbrev Headers := List (String × String)

/-- The value of the first header of a name in lower case. -/
def Headers.get? (hs : Headers) (name : String) : Option String :=
  (hs.find? fun h => Text.lower h.1 == name).map (·.2)

/-- A request. The path is decoded: once by whoever sends it and once more when it arrives. -/
structure Request where
  scheme : String := "http"
  method : String
  path : String := "/"
  query : Option String := none
  headers : Headers := []
  content : List UInt8 := []

def Request.header? (r : Request) (name : String) : Option String := r.headers.get? name

/-- The request at an address, which may be relative to a base address. Its headers name the host,
unless they do already. -/
def Request.reaching (base address : String) (r : Request) : Except UrlError Request := do
  let base ← Url.read base
  let url ← (Url.read address).bind base.join
  return { r with
    scheme := url.scheme
    path := Url.unescape url.decodedPath
    query := url.query
    headers := r.headers ++ [("host", url.host)] }

/-- The body of a response. -/
inductive Body where
  | json (v : Value)
  | text (s : String)

structure Response where
  status : Nat
  body : Body
  headers : Headers := []

end DynamicForm.Backend

namespace DynamicForm.Value

/-- Whether a key is kept out of plain responses. -/
def isInternalKey (key : String) : Bool := "_sa".isPrefixOf key

mutual

/-- The value without entries under internal keys. -/
def withoutInternal : Value → Value
  | list items => list (itemsWithoutInternal items)
  | record entries => record (entriesWithoutInternal entries)
  | v => v

def itemsWithoutInternal : List Value → List Value
  | [] => []
  | v :: rest => withoutInternal v :: itemsWithoutInternal rest

def entriesWithoutInternal : List (String × Value) → List (String × Value)
  | [] => []
  | (k, v) :: rest =>
    if isInternalKey k then entriesWithoutInternal rest
    else (k, withoutInternal v) :: entriesWithoutInternal rest

end

end DynamicForm.Value

namespace DynamicForm.Backend

namespace Response

/-- A response that shows a model. -/
def ofModel (v : Value) : Response := { status := 200, body := .json v.storable }

/-- A response that shows a value as it is, if it has a JSON form. -/
def ofPlain (status : Nat) (v : Value) : Option Response :=
  if v.isWritable then some { status := status, body := .json v } else none

/-- A response that gives a reason. -/
def ofDetail (status : Nat) (detail : Value) : Option Response :=
  ofPlain status (.record [("detail", detail)])

/-- A response that gives a reason in words. -/
def ofReason (status : Nat) (reason : String) (headers : Headers) : Response :=
  { status := status, body := .json (.record [("detail", .text reason)]), headers := headers }

/-- The response when the backend breaks down. -/
def breakdown : Response := { status := 500, body := .text "Internal Server Error" }

/-- The response without its body. -/
def bare (r : Response) : Response := { r with body := .text "" }

end Response

/-- What a request leads to: notices, and a response unless the backend breaks down. -/
structure Handled where
  notices : List Notice := []
  response : Option Response

end DynamicForm.Backend

import DynamicForm.Definition.Reader
import DynamicForm.Error
import DynamicForm.Json.Reader
import DynamicForm.Json.Strict
import DynamicForm.Notice
import DynamicForm.Text.Encoding
import DynamicForm.Web.Coding
import DynamicForm.Web.Url

/-!
# Exchanges with storage

An exchange is a request together with what each possible response to it means. Nothing else is
asked: all that a caller learns follows from the one response.

- `Request.dispatch` puts a request behind the address of storage; a request that has no address or
  no JSON form is not sent.
- `Exchange.run` carries an exchange out with a given way to respond.
-/

namespace DynamicForm.Storage

/-- What a request does. -/
inductive Method where
  | get
  | post
  | put
deriving DecidableEq, Repr

def Method.name : Method → String
  | get => "GET"
  | post => "POST"
  | put => "PUT"

/-- A request. The path is relative to the address of storage. -/
structure Request where
  method : Method
  path : String
  query : Option String := none
  body : Option Value := none

/-- The request in words. -/
def Request.title (r : Request) : String := r.method.name ++ " " ++ r.path

/-- What comes back. -/
inductive Response where
  /-- Nothing: storage cannot be reached, or the response breaks off. -/
  | failed (message : String)
  | answered (status : Nat) (content : List UInt8)

/-- A response whose content is coded. One that cannot be decoded is as good as none. -/
def Response.ofCoded (status : Nat) (codings : List Web.Coding) (content : List UInt8) : Response :=
  match Web.decodeContent codings content with
  | .ok content => .answered status content
  | .error c => .failed c.message

/-- A request on its way. -/
structure Dispatch where
  method : Method
  url : Url
  body : Option Value

/-- Why an exchange fails. -/
inductive CallError where
  | error (e : Error)
  /-- The path is no address. -/
  | address (e : UrlError)
  /-- The body holds a number that is not finite. -/
  | unwritable
  /-- The definition that is to be sent is too deep to be written. -/
  | definitionTooDeep
  /-- Answers are too deep to be written, or what storage sends is too deep to be read. -/
  | answerTooDeep
  /-- Storage sends something else where a record is needed. -/
  | notRecord
  /-- Storage sends something else where members are needed. -/
  | notMembers

/-- What a caller learns, and the notices on the way. -/
structure Conclusion (α : Type) where
  notices : List Notice := []
  result : Except CallError α

/-- A request, and what each response to it means. There may be a reason not to ask. -/
structure Exchange (α : Type) where
  request : Request
  obstacle : Option CallError := none
  conclude : Response → Conclusion α

namespace Conclusion

def fail (e : Error) (notices : List Notice) : Conclusion α := ⟨notices, .error (.error e)⟩

/-- Goes on with a result. -/
def andThen (c : Conclusion α) (next : α → Conclusion β) : Conclusion β :=
  match c.result with
  | .ok a =>
    let more := next a
    ⟨c.notices ++ more.notices, more.result⟩
  | .error e => ⟨c.notices, .error e⟩

end Conclusion

/-- Puts a request behind the address of storage. -/
def Request.dispatch (base : Url) (r : Request) : Except CallError Dispatch := do
  let url ← ((Url.read r.path).bind base.join).mapError .address
  let url := match r.query with
    | some q => { url with query := some q }
    | none => url
  match r.body with
  | some body => if body.isWritable then return ⟨r.method, url, some body⟩ else throw .unwritable
  | none => return ⟨r.method, url, none⟩

/-- Carries an exchange out: the request that has been sent, if any, and what the caller learns. -/
def Exchange.run (base : Url) (respond : Dispatch → Response) (e : Exchange α) :
    Option Dispatch × Conclusion α :=
  match e.obstacle.elim (e.request.dispatch base) .error with
  | .ok sent => (some sent, e.conclude (respond sent))
  | .error error => (none, ⟨[], .error error⟩)

/-! ## Reading responses -/

/-- Whether a byte is white space. -/
def isBlankByte (b : UInt8) : Bool :=
  decide (b.toNat = 0x20 ∨ (0x09 ≤ b.toNat ∧ b.toNat ≤ 0x0d))

/-- Goes on with the JSON value that the content of a response holds, or with none. -/
def withContent (content : List UInt8) (next : Option Value → Conclusion α) : Conclusion α :=
  match (Text.decodeAny content).map fun cs => Json.read (String.ofList cs) with
  | some (.ok v) => next (some v)
  | some (.error ⟨.tooDeep, _⟩) => ⟨[], .error .answerTooDeep⟩
  | _ => next none

/-- The failure of a request as a notice and an error. -/
def Request.failure (r : Request) (what : String) (status : Option Int) : Conclusion α :=
  .fail (.persistence (r.title ++ what) status) [.error (r.title ++ what)]

/-- The body of a response, if it has one. -/
def Request.body? (r : Request) : Response → Conclusion (Option Value)
  | .failed message => r.failure (" failed: " ++ message) none
  | .answered status content =>
    if 400 ≤ status ∧ status < 600 then
      r.failure (" returned HTTP " ++ toString status) (some status)
    else if status = 204 ∨ content.all isBlankByte then ⟨[], .ok none⟩
    else withContent content fun v =>
      if v.isSome then ⟨[], .ok v⟩ else r.failure " returned a non-JSON body" (some status)

/-- Reads a model from a body; null stands for no body. -/
def Request.model? (r : Request) (what : String) (read : Read.Reader α) :
    Option Value → Conclusion (Option α)
  | none => ⟨[], .ok none⟩
  | some .null => ⟨[], .ok none⟩
  | some v =>
    match read v with
    | .ok a => ⟨[], .ok (some a)⟩
    | .bad issues =>
      .fail (.persistence (r.title ++ " returned an unexpected " ++ what ++ " payload") none)
        [.error (r.title ++ " returned an unexpected payload: " ++
          Issue.summary what issues.length)]

end DynamicForm.Storage

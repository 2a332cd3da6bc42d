import DynamicForm.Backend.Content
import DynamicForm.Backend.Forms
import DynamicForm.Backend.Origins
import DynamicForm.Backend.Samples
import DynamicForm.Settings

/-!
# The backend

The backend checks definitions, evaluates and submits forms, and shows sample definitions. Every
path has one method; the pages that describe the backend can also be asked for their headers.

- `Route.ofPath?` finds what a path leads to.
- `Backend.handle` gives the response to a request, with notices.
-/

namespace DynamicForm

namespace Backend

/-- What a path leads to. -/
inductive Route where
  | validateSchema
  | evaluate
  | submit
  | schemas
  | schema (filename : String)
  | health
  /-- A page that describes the backend. -/
  | description
deriving DecidableEq, Repr

namespace Route

/-- The routes of fixed paths. -/
def fixed? : List String → Option Route
  | ["", "api", "validate-schema"] => some validateSchema
  | ["", "api", "forms", "evaluate"] => some evaluate
  | ["", "api", "forms", "submit"] => some submit
  | ["", "api", "schemas"] => some schemas
  | ["", "api", "health"] => some health
  | ["", "docs"] => some description
  | ["", "docs", "oauth2-redirect"] => some description
  | ["", "redoc"] => some description
  | ["", "openapi.json"] => some description
  | _ => none

/-- What a path leads to, if it leads anywhere. A line end after a fixed path does not matter. -/
def ofPath? (path : String) : Option Route :=
  let cs := path.toList
  let line := if cs.getLast? = some '\n' then cs.dropLast else cs
  fixed? ((Url.segments line).map String.ofList) <|>
    match (Url.segments cs).map String.ofList with
    | ["", "api", "schemas", filename] => if filename = "" then none else some (schema filename)
    | _ => none

/-- The methods of a route. -/
def methods : Route → List String
  | validateSchema => ["POST"]
  | evaluate => ["POST"]
  | submit => ["POST"]
  | description => ["GET", "HEAD"]
  | _ => ["GET"]

end Route

end Backend

/-- The backend with what it has been set up with. -/
structure Backend where
  settings : Settings
  shelf : Backend.Shelf := Backend.Samples.shelf

namespace Backend

/-- The notices of a start. -/
def startNotices (b : Backend) : List Notice :=
  let url := b.settings.baseUrl.getD ""
  [.info "formflow backend starting up",
    .info ("Storage API: " ++ if url = "" then "not set" else url)]

def origins (b : Backend) : Origins := ⟨b.settings.allowedOrigins⟩

/-! ## Bodies -/

def failureValue (f : Failure) : Value :=
  .record [("rule", .text f.rule), ("message", .text f.message), ("param", f.param)]

def failuresValue (fs : List (String × List Failure)) : Value :=
  .record (fs.map fun (k, xs) => (k, .list (xs.map failureValue)))

def linesValue (lines : List String) : Value := .list (lines.map .text)

def reviewValue (lines : List String) : Value :=
  .record [("valid", .bool lines.isEmpty), ("errors", linesValue lines)]

def evaluationValue (e : Evaluation) : Value :=
  .record [
    ("visibility", .record (e.visibility.map fun (k, shown) => (k, .bool shown))),
    ("errors", failuresValue e.failures),
    ("answers", .record e.answers),
    ("valid", .bool e.isValid)]

/-- The response to a form that gives no answers. -/
def refusalResponse : Refusal → Option Response
  | .unreadable issues =>
    Response.ofDetail 400 (.record [("message", .text "Invalid form definition"),
      ("errors", linesValue (issues.map issueText))])
  | .rejected failures =>
    Response.ofDetail 422 (.record [("message", .text "Please fill all required fields"),
      ("errors", failuresValue failures)])
  | .interrupted _ => none

/-! ## Handlers -/

/-- Goes on with a part of the content, or reports what is wrong with it. -/
def withContent (r : Request) (take : Content → Except (List ContentIssue) α) (next : α → Handled) :
    Handled :=
  match Content.ofRequest r with
  | .error e => { response := e.response }
  | .ok c =>
    match take c with
    | .ok a => next a
    | .error issues => { response := ContentIssue.response issues }

/-- Shows what comes of a form, unless one of its answers is too deep to be written. -/
def showForm (answers : α → Record) (model : α → Value)
    (result : List Notice × Except Refusal α) : Handled where
  notices := result.1
  response :=
    match result.2 with
    | .ok a =>
      if (answers a).all fun e => e.2.isShallow then some (.ofModel (model a)) else none
    | .error e => refusalResponse e

/-- Shows the files on the shelf. -/
def showShelf (s : Shelf) : Handled :=
  let (notices, cards) := s.list
  { notices := notices
    response := cards.bind fun cs =>
      Response.ofPlain 200 (.record [("schemas", .list (cs.map Shelf.Card.toValue))]) }

/-- Shows the definition in a file. -/
def showSchema (s : Shelf) (filename : String) : Handled where
  response :=
    match s.find filename with
    | .ok d =>
      Response.ofPlain 200 (.record [("filename", .text filename),
        ("definition", d.payload.withoutInternal)])
    | .error .notFound => some (.ofReason 404 ("Schema '" ++ filename ++ "' not found") [])
    | .error .unreadable =>
      some (.ofReason 500 ("Error reading schema file '" ++ filename ++ "'") [])
    | .error .tooLong => none

/-- Answers a request to a route. -/
def run (b : Backend) (today : Date) (r : Request) : Route → Handled
  | .validateSchema =>
    withContent r Content.payload fun es =>
      { response := some (.ofModel (reviewValue (reviewDefinition es))) }
  | .evaluate =>
    withContent r Content.formValues fun v =>
      showForm Evaluation.answers evaluationValue (Backend.evaluate today v.definition v.values)
  | .submit =>
    withContent r Content.formValues fun v =>
      showForm id (fun answers => .record [("answers", .record answers)])
        (Backend.submit today v.definition v.values)
  | .schemas => showShelf b.shelf
  | .schema filename => showSchema b.shelf filename
  | .health => { response := some (.ofModel (.record [("status", .text "healthy")])) }
  | .description => { response := some { status := 200, body := .text "" } }

/-! ## Requests -/

/-- The characters that stand for themselves in an address. -/
def isLocationSafe (c : Char) : Bool :=
  Text.isAsciiLetter c || Text.isAsciiDigit c || "_.-~:/%#?=@[]!$&'()*+,;".toList.contains c

/-- The address of a path on the host that has been asked. -/
def location (r : Request) (path : String) : String :=
  let address := r.scheme ++ "://" ++ (r.header? "host").getD "" ++ path ++
    match r.query with
    | some q => if q = "" then "" else "?" ++ q
    | none => ""
  String.ofList (Url.escape isLocationSafe address.toList)

/-- The response when a path leads nowhere: the path without slashes at its end may lead
somewhere. -/
def elsewhere (r : Request) : Response :=
  let shorter := Url.dropSlashes r.path
  if shorter ≠ r.path ∧ (Route.ofPath? shorter).isSome then
    { status := 307, body := .text "", headers := [("location", location r shorter)] }
  else .ofReason 404 "Not Found" []

/-- Finds the route of a request and answers it. -/
def dispatch (b : Backend) (today : Date) (r : Request) : Handled :=
  match Route.ofPath? r.path with
  | none => { response := some (elsewhere r) }
  | some route =>
    if route.methods.contains r.method then b.run today r route
    else
      let allowed := String.intercalate ", " route.methods
      { response := some (.ofReason 405 "Method Not Allowed" [("allow", allowed)]) }

/-- The response to a request, with notices. A response to a request for headers has no body. -/
def handle (b : Backend) (today : Date) (r : Request) : List Notice × Response :=
  match b.origins.preflight? r with
  | some response => ([], response)
  | none =>
    let handled := b.dispatch today r
    let response := match handled.response with
      | some response => b.origins.complete r response
      | none => .breakdown
    (handled.notices, if r.method = "HEAD" then response.bare else response)

end Backend

end DynamicForm

import DynamicForm.Display
import DynamicForm.Json.Writer
import DynamicForm.Settings
import DynamicForm.Storage.Exchange
import DynamicForm.Submission

/-!
# The client of storage

Storage keeps definitions and answer records, and validates definitions. Each operation is one
exchange. Definitions are referred to by number or by key.

- `fetch`, `create`, `update` and `save` are about definitions.
- `saveDraft`, `submitAnswers` and `draftAnswers` are about answers.
- `validate` asks for the validation of a definition; a verdict always has problems when it is
  negative.
-/

namespace DynamicForm.Storage

/-! ## Definitions -/

/-- The name of definitions in messages. -/
def definitionName : String := "FormDefinition"

/-- The name of answer records in messages. -/
def submissionName : String := "FormSubmission"

/-- Whether a reference is a number, or a text that looks like one. -/
def isNumeric : Value → Bool
  | .int _ => true
  | .bool _ => true
  | v =>
    let cs := v.display.toList
    !cs.isEmpty && cs.all Text.isDigit

/-- Where a definition is found. -/
def definitionPath (ref : Value) : String :=
  if isNumeric ref then "/forms/definitions/" ++ ref.display
  else "/forms/definitions/key/" ++ ref.display

/-- An exchange that ends with a model. -/
def modelExchange (r : Request) (what : String) (read : Read.Reader α) : Exchange (Option α) where
  request := r
  conclude response := (r.body? response).andThen (r.model? what read)

/-- Fetches a definition by number or by key. -/
def fetch (ref : Value) : Exchange Definition where
  request := { method := .get, path := definitionPath ref }
  conclude response :=
    let r : Request := { method := .get, path := definitionPath ref }
    ((modelExchange r definitionName Definition.read).conclude response).andThen fun d =>
      match d with
      | some d => ⟨[], .ok d⟩
      | none => .fail (.persistence (r.title ++ " returned no form definition") none) []

/-- An exchange that stores a definition, unless it is too deep to be written. -/
def storing (method : Method) (path : String) (d : Definition) : Exchange (Option Definition) :=
  let request : Request := { method := method, path := path, body := some d.payload }
  { modelExchange request definitionName Definition.read with
    obstacle := if d.isShallow then none else some .definitionTooDeep }

/-- Stores a new definition. -/
def create (d : Definition) : Exchange (Option Definition) := storing .post "/forms/definitions" d

/-- Replaces a stored definition. -/
def update (id : Value) (d : Definition) : Exchange (Option Definition) :=
  storing .put ("/forms/definitions/" ++ id.display) d

/-- Stores a definition: a new one if it has no identity yet. -/
def save (d : Definition) : Exchange (Option Definition) :=
  match d.id with
  | none => create d
  | some id => update id.toValue d

/-! ## Answers -/

/-- What may be stored along with answers; null is left out. -/
structure Context where
  businessKey : Value := .null
  notes : Value := .null
  taskId : Value := .null
  processInstanceId : Value := .null

/-- The parts of a context under their names. -/
def Context.ofRecord (r : Record) : Context :=
  let part (name : String) : Value := (r.get? name).getD .null
  { businessKey := part "business_key", notes := part "notes", taskId := part "task_id"
    processInstanceId := part "process_instance_id" }

/-- The parts of a context that are not null. -/
def Context.entries (c : Context) : Record :=
  [("businessKey", c.businessKey), ("notes", c.notes), ("taskId", c.taskId),
    ("processInstanceId", c.processInstanceId)].filter fun e => !e.2.isNull

/-- An answer record as it is sent. -/
def recordBody (form : Value) (answers : Record) (c : Context) : Value :=
  .record ([("formDefinitionId", form), ("dataJson", .text (Json.write (.record answers)))] ++
    c.entries)

/-- An exchange that stores answers, unless they are nested too far to be written. -/
def storingAnswers (path : String) (form : Value) (answers : Record) (c : Context) :
    Exchange (Option Submission) :=
  let request : Request :=
    { method := .post, path := path, body := some (recordBody form answers c) }
  { modelExchange request submissionName Submission.read with
    obstacle :=
      if (Value.record answers).nesting ≤ Json.depthLimit then none else some .answerTooDeep }

/-- Stores answers as a draft. Drafts have no notes. -/
def saveDraft (form : Value) (answers : Record) (c : Context) : Exchange (Option Submission) :=
  storingAnswers "/forms/submissions/save-draft" form answers { c with notes := .null }

/-- Stores a final answer record. -/
def submitAnswers (form : Value) (answers : Record) (c : Context) : Exchange (Option Submission) :=
  storingAnswers "/forms/submissions/submit" form answers c

/-- The request for the drafts of the user, one page of them. -/
def draftsRequest : Request :=
  { method := .get, path := "/forms/submissions/my/drafts", query := some "page=0&size=100" }

/-- The members of a value that is walked through: the characters of a text, the keys of a
record. -/
def membersOf : Value → Option (List Value)
  | .list items => some items
  | .text s => some (s.toList.map fun c => .text (String.ofList [c]))
  | .record entries => some (entries.map fun e => .text e.1)
  | _ => none

/-- The value, if it counts as true. -/
def truthy? (v : Value) : Option Value := if v.isTruthy then some v else none

/-- What stands under a key of a value, which has to be a record; an empty value stands for an empty
record. -/
def entryOf (v : Value) (key : String) : Except CallError Value :=
  match v with
  | .record entries => .ok ((Record.get? entries key).getD .null)
  | v => if v.isTruthy then .error .notRecord else .ok .null

/-- The members of a page of drafts. -/
def draftItems (page : Option Value) : Except CallError (List Value) := do
  let content ← entryOf (page.getD .null) "content"
  match truthy? content with
  | none => return []
  | some v =>
    match membersOf v with
    | some items => return items
    | none => throw .notMembers

/-- The number by which drafts are compared. -/
def draftRank (d : Submission) : Int := d.id.getD 0

/-- The identity of a form in words. -/
def formText (d : Submission) : String :=
  match d.formDefinitionId with
  | some id => id.display
  | none => Value.null.display

/-- The drafts of a form among members of a page. -/
def draftsOf (form : Value) : List Value → Conclusion (List Submission)
  | [] => ⟨[], .ok []⟩
  | item :: rest =>
    (draftsRequest.model? submissionName Submission.read (some item)).andThen fun draft =>
      match draft with
      | none => ⟨[], .error .notRecord⟩
      | some d =>
        (draftsOf form rest).andThen fun ds =>
          ⟨[], .ok (if formText d = form.display then d :: ds else ds)⟩

/-- The draft with the largest number, the first of them. -/
def latest : List Submission → Option Submission
  | [] => none
  | d :: rest =>
    some (rest.foldl (fun best e => if draftRank best < draftRank e then e else best) d)

/-- The number of a draft in words. -/
def draftText (d : Submission) : String :=
  match d.id with
  | some n => toString n
  | none => Value.null.display

/-- The answers of the latest of some drafts. -/
def latestAnswers (drafts : List Submission) : Conclusion Record :=
  match latest drafts with
  | none => ⟨[], .ok []⟩
  | some d =>
    match d.answers with
    | .ok answers => ⟨[], .ok answers⟩
    | .error (.unreadable ⟨.tooDeep, _⟩ _) => ⟨[], .error .answerTooDeep⟩
    | .error e =>
      .fail (.persistence
        ("Draft " ++ draftText d ++ " has unreadable dataJson: " ++ e.message) none) []

/-- Whether drafts are missing because storage does not know any. -/
def isUnknown (c : Conclusion α) : Bool :=
  match c.result with
  | .error (.error (.persistence _ (some 404))) => true
  | _ => false

/-- The answers of the latest draft for a form; none when there is no draft. -/
def draftAnswers (form : Value) : Exchange Record where
  request := draftsRequest
  conclude response :=
    let page := draftsRequest.body? response
    if isUnknown page then ⟨page.notices, .ok []⟩
    else page.andThen fun v =>
      match draftItems v with
      | .ok items => (draftsOf form items).andThen latestAnswers
      | .error e => ⟨[], .error e⟩

/-! ## Validation of definitions -/

/-- What remote validation finds. -/
structure Verdict where
  valid : Bool
  problems : List Value

def Verdict.toValue (v : Verdict) : Value :=
  .record [("valid", .bool v.valid), ("errors", .list v.problems)]

/-- Remote validation cannot be used. -/
def unavailable (what : String) (status : Option Int) : Conclusion α :=
  .fail (.unavailable ("Schema validation " ++ what) status) []

/-- Reads a verdict. -/
def verdictOf (v : Value) : Except CallError Verdict :=
  match v with
  | .record entries =>
    let part (key : String) : Value := (Record.get? entries key).getD .null
    let valid := (part "valid").isTruthy
    match truthy? (part "errors") with
    | some problems =>
      match membersOf problems with
      | some ps => .ok ⟨valid, ps⟩
      | none => .error .notMembers
    | none =>
      if valid then .ok ⟨valid, []⟩
      else .ok ⟨valid, [(truthy? (part "message")).getD (.text "Schema is invalid")]⟩
  | _ => .error .notRecord

/-- Where a definition is validated. -/
def validationPath (id : Value) : String :=
  if id.isNull then "/forms/definitions/validate-schema"
  else "/forms/definitions/" ++ id.display ++ "/validate-schema"

/-- Asks for the validation of a definition. -/
def validate (payload : Record) : Exchange Verdict where
  request :=
    { method := .post, path := validationPath ((Record.get? payload "id").getD .null)
      body := some (.record payload) }
  conclude
    | .failed message => unavailable ("unreachable: " ++ message) none
    | .answered status content =>
      if 500 ≤ status ∨ status = 404 then
        unavailable ("returned HTTP " ++ toString status) (some status)
      else withContent content fun v =>
        match v with
        | some v => ⟨[], verdictOf v⟩
        | none => unavailable "returned a non-JSON body" (some status)

/-! ## Where storage is -/

/-- Why no client can be had. -/
inductive ConnectError where
  | setting (e : NotANumber)
  /-- There is no address. -/
  | noAddress
  | address (e : UrlError)

def ConnectError.message : ConnectError → String
  | setting e => e.message
  | noAddress => "FORMFLOW_API_BASE_URL env var (or base_url argument) is required"
  | address e => e.message

/-- The address of storage: a given one, or that of the settings. -/
def addressOf (given : Option String) (env : Environment) :
    Except ConnectError (Url × Settings) := do
  let settings ← (Settings.ofEnvironment env).mapError .setting
  let text := match given with
    | some "" => settings.baseUrl.getD ""
    | some s => s
    | none => settings.baseUrl.getD ""
  if text = "" then throw .noAddress
  let url ← ((Url.read (Url.dropSlashes text)).bind Url.asBase).mapError .address
  return (url, settings)

end DynamicForm.Storage

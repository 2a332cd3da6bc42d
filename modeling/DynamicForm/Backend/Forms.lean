import DynamicForm.Definition.Reader
import DynamicForm.Form.Basic

/-!
# Checking forms on request

A definition is checked on its own, or a form is built from it and values. The form is evaluated,
which tells everything about it, or submitted, which gives the answers or all that fails.

- `reviewDefinition` lists what is wrong with a definition.
- `evaluate` and `submit` work on the same form.
-/

namespace DynamicForm.Backend

/-- The path to a part in words. -/
def pathText (path : List PathStep) : String := String.intercalate "." (path.map PathStep.text)

/-- An issue in words. -/
def issueText (i : Issue) : String :=
  let place := pathText i.path
  if place = "" then i.cause.message else place ++ ": " ++ i.cause.message

/-- What is wrong with a definition that can be read; missing names come first. -/
def namedProblems (d : Definition) : List Problem :=
  Problem.when (Text.isBlankText d.key) .missingFormKey ++
    Problem.when (Text.isBlankText d.name) .missingFormName ++ d.problems

/-- Lists what is wrong with a definition: that it cannot be read, or its problems. -/
def reviewDefinition (payload : Record) : List String :=
  match Definition.read (.record payload) with
  | .ok d => (namedProblems d).map Problem.message
  | .bad issues => issues.map issueText

/-- Why a form gives no answers. -/
inductive Refusal where
  /-- The definition cannot be read. -/
  | unreadable (issues : List Issue)
  /-- Fields fail their checks. -/
  | rejected (failures : List (String × List Failure))
  /-- The work on the form is broken off. -/
  | interrupted (e : Interruption)

/-- All about a form with values. -/
structure Evaluation where
  visibility : List (String × Bool)
  failures : List (String × List Failure)
  answers : Record

def Evaluation.isValid (e : Evaluation) : Bool := e.failures.isEmpty

/-- Builds the form, and goes on with it. -/
def withForm (definition values : Record) (next : Form → List Notice × Except Refusal α) :
    List Notice × Except Refusal α :=
  match Definition.read (.record definition) with
  | .bad issues => ([], .error (.unreadable issues))
  | .ok d =>
    match Form.build d values with
    | (notices, .error e) => (notices, .error (.interrupted (.fault e)))
    | (notices, .ok form) =>
      let (more, result) := next form
      (notices ++ more, result)

/-- Evaluates a form. -/
def evaluate (today : Date) (definition values : Record) :
    List Notice × Except Refusal Evaluation :=
  withForm definition values fun form =>
    match form.failures today with
    | .error e => ([], .error (.interrupted (.fault e)))
    | .ok failures =>
      ([], .ok {
        visibility := form.visibility
        failures := failures
        answers := form.answers })

/-- Submits a form. -/
def submit (today : Date) (definition values : Record) : List Notice × Except Refusal Record :=
  withForm definition values fun form =>
    let outcome := form.submit today
    match outcome.result with
    | .ok answers => (outcome.notices, .ok answers)
    | .error (.error (.invalid failures)) => (outcome.notices, .error (.rejected failures))
    | .error e => (outcome.notices, .error (.interrupted e))

end DynamicForm.Backend

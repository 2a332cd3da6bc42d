import DynamicForm.Definition.Writer
import DynamicForm.Json.Reader

/-!
# Stored answer records

A submission is a draft or a final answer record as storage keeps it. The answers travel inside it
as JSON text, keyed by field key.

- `Submission.answers` decodes the answers; no text at all stands for no answers.
-/

namespace DynamicForm

/-- How far a stored record has come. -/
inductive SubmissionStatus where
  | draft
  | submitted
  | approved
  | rejected
  /-- A status that is not one of the known ones. -/
  | other (s : String)
deriving DecidableEq, Repr

namespace SubmissionStatus

/-- The names of the known statuses. -/
def names : List String := ["DRAFT", "SUBMITTED", "APPROVED", "REJECTED"]

def text : SubmissionStatus → String
  | draft => "DRAFT"
  | submitted => "SUBMITTED"
  | approved => "APPROVED"
  | rejected => "REJECTED"
  | other s => s

def ofText (s : String) : SubmissionStatus :=
  match s with
  | "DRAFT" => draft
  | "SUBMITTED" => submitted
  | "APPROVED" => approved
  | "REJECTED" => rejected
  | s => other s

/-- A status is a text; of anything else both readings are reported as failed. -/
def read : Read.Reader SubmissionStatus
  | .text s => .ok (ofText s)
  | _ =>
    .bad [⟨[.key "str-enum[SubmissionStatus]"], .notMember names⟩, ⟨[.key "str"], .notText⟩]

end SubmissionStatus

/-- A stored answer record. -/
structure Submission where
  id : Option Int := none
  formDefinitionId : Option FormId := none
  formKey : Option String := none
  formName : Option String := none
  formVersion : Option Int := none
  /-- The answers as JSON text. -/
  dataJson : Option String := none
  status : Option SubmissionStatus := none
  submittedBy : Option String := none
  businessKey : Option String := none
  notes : Option String := none
  validationErrors : Option String := none

/-- Why the answers of a record cannot be decoded. -/
inductive AnswersError where
  /-- The text is not JSON. -/
  | unreadable (e : Json.ReadError) (text : String)
  /-- The text is JSON for something that is not a record. -/
  | notRecord
deriving DecidableEq, Repr

def AnswersError.message : AnswersError → String
  | .unreadable e text => e.message text
  | .notRecord => "dataJson must encode a JSON object"

namespace Submission

def formDefinitionIdNames : Read.Attribute := ⟨"formDefinitionId", "form_definition_id"⟩

def formKeyNames : Read.Attribute := ⟨"formKey", "form_key"⟩

def formNameNames : Read.Attribute := ⟨"formName", "form_name"⟩

def formVersionNames : Read.Attribute := ⟨"formVersion", "form_version"⟩

def dataJsonNames : Read.Attribute := ⟨"dataJson", "data_json"⟩

def submittedByNames : Read.Attribute := ⟨"submittedBy", "submitted_by"⟩

def businessKeyNames : Read.Attribute := ⟨"businessKey", "business_key"⟩

def validationErrorsNames : Read.Attribute := ⟨"validationErrors", "validation_errors"⟩

def read : Read.Reader Submission :=
  Read.model "FormSubmission" fun r =>
    let text : Read.Reader (Option String) := Read.optional (Read.scalar Read.text)
    let int : Read.Reader (Option Int) := Read.optional (Read.scalar Read.int)
    Submission.mk
      <$> Read.given r (.plain "id") none int
      <*> Read.given r formDefinitionIdNames none (Read.optional Read.formId)
      <*> Read.given r formKeyNames none text
      <*> Read.given r formNameNames none text
      <*> Read.given r formVersionNames none int
      <*> Read.given r dataJsonNames none text
      <*> Read.given r (.plain "status") none (Read.optional SubmissionStatus.read)
      <*> Read.given r submittedByNames none text
      <*> Read.given r businessKeyNames none text
      <*> Read.given r (.plain "notes") none text
      <*> Read.given r validationErrorsNames none text

def write (s : WriteStyle) (r : Submission) : Value :=
  .record (s.entry (.plain "id") (r.id.map .int) ++
    s.entry formDefinitionIdNames (r.formDefinitionId.map FormId.toValue) ++
    s.entry formKeyNames (r.formKey.map .text) ++
    s.entry formNameNames (r.formName.map .text) ++
    s.entry formVersionNames (r.formVersion.map .int) ++
    s.entry dataJsonNames (r.dataJson.map .text) ++
    s.entry (.plain "status") (r.status.map fun t => .text t.text) ++
    s.entry submittedByNames (r.submittedBy.map .text) ++
    s.entry businessKeyNames (r.businessKey.map .text) ++
    s.entry (.plain "notes") (r.notes.map .text) ++
    s.entry validationErrorsNames (r.validationErrors.map .text))

/-- The decoded answers. -/
def answers (r : Submission) : Except AnswersError Record :=
  match r.dataJson.getD "" with
  | "" => .ok []
  | text =>
    match Json.read text with
    | .ok (.record es) => .ok es
    | .ok _ => .error .notRecord
    | .error e => .error (.unreadable e text)

end Submission

end DynamicForm

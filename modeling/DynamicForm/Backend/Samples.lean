import DynamicForm.Backend.Shelf
import DynamicForm.Json.Writer

/-!
# Sample definitions

Two definitions come with the backend: an application for a loan and a request for leave.
-/

namespace DynamicForm.Backend.Samples

/-- A whole number as a bound. -/
def bound (n : Nat) : Option Binary64 := some (.ofDecimal false n 0)

/-- An application for a loan. -/
def loanApplication : Definition := {
  id := some (.number 12)
  name := "Loan Application"
  key := "loan_application"
  description := some "Collected at the 'Submit application' step of the loan approval process"
  fields := [
    { id := "field_1", type := .text, label := "Full Name", key := "full_name"
      placeholder := some "As printed on your ID", required := true
      validation := some { minLength := some 3, maxLength := some 80 }, order := 0 },
    { id := "field_2", type := .email, label := "Email", key := "email", required := true
      order := 1 },
    { id := "field_3", type := .number, label := "Amount", key := "amount", required := true
      validation := some { min := bound 0, max := bound 1000 }, order := 2 },
    { id := "field_4", type := .select, label := "Has Collateral", key := "has_collateral"
      required := true, options := some ["yes", "no"], order := 3 },
    { id := "field_5", type := .textarea, label := "Collateral Description"
      key := "collateral_description", required := true
      validation := some { minLength := some 10 }
      conditions := some [⟨"has_collateral", .equals, .text "yes"⟩], order := 4 },
    { id := "field_6", type := .checkbox, label := "I accept the terms", key := "accept_terms"
      required := true, order := 5 },
    { id := "field_7", type := .text, label := "Branch", key := "branch", disabled := true
      declaredDefault := some (.text "HQ"), order := 6 }] }

/-- A request for leave. -/
def leaveRequest : Definition := {
  name := "Leave Request"
  key := "leave_request"
  fields := [
    { id := "field_1", type := .radio, label := "Leave Type", key := "leave_type", required := true
      options := some ["Annual", "Sick", "Unpaid"], order := 0 },
    { id := "field_2", type := .date, label := "Start Date", key := "start_date", required := true
      order := 1 },
    { id := "field_3", type := .number, label := "Days", key := "days", required := true
      validation := some { min := bound 1, max := bound 30 }, order := 2 },
    { id := "field_4", type := .text, label := "Medical Certificate Number"
      key := "certificate_number", required := true
      validation := some { pattern := some "MC-[0-9]\x7b4\x7d" }
      conditions := some [⟨"leave_type", .equals, .text "Sick"⟩, ⟨"days", .greaterThan, .int 2⟩]
      order := 3 },
    { id := "field_5", type := .textarea, label := "Handover Notes", key := "handover_notes"
      conditions := some [⟨"days", .greaterThan, .int 5⟩], order := 4 }] }

/-- The samples on a shelf. -/
def shelf : Shelf where
  files := some [
    ("leave_request.json", Json.write leaveRequest.payload),
    ("loan_application.json", Json.write loanApplication.payload)]

end DynamicForm.Backend.Samples

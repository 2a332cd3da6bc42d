import DynamicForm.Display
import DynamicForm.Notice

/-!
# Notifications

What is shown to the person at work. Where there is nothing to show them on, notifications go to
the log.
-/

namespace DynamicForm

/-- The kinds of notifications. -/
inductive NotificationKind where
  | success
  | error
  | warning
  | info
deriving DecidableEq, Repr

namespace NotificationKind

def all : List NotificationKind := [success, error, warning, info]

def name : NotificationKind → String
  | success => "success"
  | error => "error"
  | warning => "warning"
  | info => "info"

/-- The kind that a value names. -/
def ofValue? : Value → Option NotificationKind
  | .text s => all.find? fun k => k.name == s
  | _ => none

/-- How much a notification matters in the log. -/
def severity : NotificationKind → Severity
  | success => .info
  | info => .info
  | warning => .warning
  | error => .error

/-- What is said about a value that names no kind. -/
def refusal (v : Value) : String := v.inner ++ " is not a valid NotificationKind"

end NotificationKind

/-- A message of some kind. -/
structure Notification where
  kind : NotificationKind
  message : String
deriving DecidableEq, Repr

/-- The line that stands for a notification in the log. -/
def Notification.notice (n : Notification) : Notice :=
  ⟨n.kind.severity, "[" ++ n.kind.name ++ "] " ++ n.message⟩

end DynamicForm

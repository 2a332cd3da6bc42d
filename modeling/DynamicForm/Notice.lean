/-!
# Notices

What the library reports on the side, for a log: each notice has a severity and one line of text.
-/

namespace DynamicForm

/-- How much a notice matters. -/
inductive Severity where
  | info
  | warning
  | error
deriving DecidableEq, Repr

/-- A line for the log. -/
structure Notice where
  severity : Severity
  text : String
deriving DecidableEq, Repr

namespace Severity

def name : Severity → String
  | info => "INFO"
  | warning => "WARNING"
  | error => "ERROR"

end Severity

namespace Notice

def info (text : String) : Notice := ⟨.info, text⟩

def warning (text : String) : Notice := ⟨.warning, text⟩

def error (text : String) : Notice := ⟨.error, text⟩

/-- The line that a log shows. -/
def line (n : Notice) : String := n.severity.name ++ " " ++ n.text

end Notice

end DynamicForm

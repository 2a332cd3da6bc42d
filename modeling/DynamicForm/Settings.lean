import DynamicForm.Number.Literal
import DynamicForm.Text.Blank
import DynamicForm.Text.Case
import DynamicForm.Text.Quoted

/-!
# Settings

Settings come from the environment. A variable that is not set, or a number that is blank, gives
way to a default.
-/

namespace DynamicForm

/-- The variables that are looked at. -/
structure Environment where
  baseUrl : Option String := none
  timeout : Option String := none
  autosaveDelay : Option String := none
  allowedOrigins : Option String := none
  logLevel : Option String := none

/-- Periods are in seconds. -/
structure Settings where
  baseUrl : Option String
  timeout : Binary64
  autosaveDelay : Binary64
  allowedOrigins : List String
  logLevel : String

/-- A variable that has to be a number is none. -/
structure NotANumber where
  raw : String
deriving DecidableEq, Repr

def NotANumber.message (e : NotANumber) : String :=
  "could not convert string to float: " ++ Text.quoted e.raw

namespace Settings

/-- The integer as a number; it has to be small. -/
def seconds (n : Nat) : Binary64 := .ofDecimal false n 0

def defaultTimeout : Binary64 := seconds 30

def defaultAutosaveDelay : Binary64 := seconds 2

/-- A number from the environment. -/
def number (raw : Option String) (default : Binary64) : Except NotANumber Binary64 :=
  match raw with
  | none => .ok default
  | some s =>
    if Text.isBlankText s then .ok default
    else match readNumber s with
      | some x => .ok x
      | none => .error ⟨s⟩

/-- The parts of a text between commas. -/
def commaParts : List Char → List (List Char)
  | [] => [[]]
  | c :: rest =>
    if c = ',' then [] :: commaParts rest
    else match commaParts rest with
      | [] => [[c]]
      | part :: parts => (c :: part) :: parts

/-- Reads settings. -/
def ofEnvironment (env : Environment) : Except NotANumber Settings := do
  let timeout ← number env.timeout defaultTimeout
  let autosaveDelay ← number env.autosaveDelay defaultAutosaveDelay
  return {
    baseUrl := env.baseUrl
    timeout := timeout
    autosaveDelay := autosaveDelay
    allowedOrigins := (commaParts (env.allowedOrigins.getD "*").toList).map String.ofList
    logLevel := Text.upper (env.logLevel.getD "INFO") }

end Settings

end DynamicForm

import DynamicForm.Form.Control
import DynamicForm.Subscribers

/-!
# Forms

A form is built from a definition and initial values. It has one control for every key of the
definition, that of the first field with the key. Every change of values is followed by a refresh
of what is shown, and then listeners are called.

- `Form.build` builds a form, with the notices that this gives rise to.
- `Form.setValues` and `Form.reset` change values; `Form.submit` checks them.
- An `Outcome` holds the form that an operation leaves, also when it is interrupted.
-/

namespace DynamicForm

/-- What ends an operation early. -/
inductive Interruption where
  | error (e : Error)
  | fault (f : Fault)

/-- A live form. -/
structure Form where
  definition : Definition
  /-- The values that a reset goes back to. -/
  initialValues : Record
  controls : List Control
  listeners : Subscribers := {}

/-- A call of a listener: its ticket and the keys that have been set. The listener sees the form as
the operation leaves it. -/
structure Call where
  ticket : Nat
  changed : List String
deriving DecidableEq, Repr

/-- What an operation leaves behind. -/
structure Outcome (α : Type) where
  form : Form
  result : Except Interruption α
  notices : List Notice := []
  calls : List Call := []

/-- What is known about a value. -/
inductive Status where
  /-- Neither set nor submitted yet. -/
  | pristine
  | valid
  | invalid
deriving DecidableEq, Repr

namespace Status

def name : Status → String
  | pristine => "pristine"
  | valid => "valid"
  | invalid => "invalid"

end Status

namespace Form

/-! ## Building -/

/-- The notice about a field whose key is taken. -/
def duplicateKey (formKey key : String) : Notice :=
  .warning ("Form '" ++ formKey ++ "' has duplicate field key '" ++ key ++ "'; keeping the first")

/-- Controls for the fields whose keys have not been seen, with notices, up to the first fault. -/
def controlsFor (formKey : String) :
    List String → List Field → List Notice × Except Fault (List Control)
  | _, [] => ([], .ok [])
  | seen, f :: rest =>
    if seen.contains f.key then
      let (notices, controls) := controlsFor formKey seen rest
      (duplicateKey formKey f.key :: notices, controls)
    else
      match f.checks with
      | .error e => ([], .error e)
      | .ok checks =>
        let (notices, controls) := controlsFor formKey (f.key :: seen) rest
        (f.ignoredPattern.toList ++ notices, controls.map (Control.fresh f checks :: ·))

/-- Builds a form. Initial values of unknown keys are kept for a reset but have no effect. -/
def build (d : Definition) (initial : Record) : List Notice × Except Fault Form :=
  let (notices, controls) := controlsFor d.key [] d.sortedFields
  let form : Except Fault Form :=
    match controls with
    | .error e => .error e
    | .ok cs =>
      match Control.settle (cs.map (Control.patch initial)) with
      | (_, some e) => .error e
      | (settled, none) => .ok { definition := d, initialValues := initial, controls := settled }
  (notices, form)

/-! ## Looking at a form -/

/-- The fields in the order in which they are shown. -/
def fields (form : Form) : List Field := form.controls.map (·.field)

def keys (form : Form) : List String := form.controls.map Control.key

/-- The values of all fields; those of hidden fields are null. -/
def values (form : Form) : Record := Control.valuesOf form.controls

def visibleControls (form : Form) : List Control := form.controls.filter (·.visible)

def visibleFields (form : Form) : List Field := form.visibleControls.map (·.field)

def visibleKeys (form : Form) : List String := form.visibleControls.map Control.key

/-- Which keys are shown. -/
def visibility (form : Form) : List (String × Bool) := form.controls.map fun c => (c.key, c.visible)

/-- The record of answers: the values of the visible fields, disabled ones included. -/
def answers (form : Form) : Record := Control.valuesOf form.visibleControls

/-- The control of a key. -/
def control? (form : Form) (key : String) : Option Control :=
  form.controls.find? fun c => c.key == key

/-- The control of a key, or the error that there is none. -/
def control (form : Form) (key : String) : Except Error Control :=
  match form.control? key with
  | some c => .ok c
  | none => .error (.unknownField key)

def getValue (form : Form) (key : String) : Except Error Value := (form.control key).map (·.value)

def isVisible (form : Form) (key : String) : Except Error Bool := (form.control key).map (·.visible)

/-! ## Checking -/

/-- Raises what a check met. -/
def lift : Except Fault α → Except Interruption α
  | .ok a => .ok a
  | .error e => .error (.fault e)

/-- The rules that the value of a key fails. -/
def failuresOf (today : Date) (form : Form) (key : String) :
    Except Interruption (List Failure) :=
  match form.control key with
  | .error e => .error (.error e)
  | .ok c => lift (c.failures today)

/-- The failed rules of controls that fail any, by key. -/
def failuresIn (today : Date) : List Control → Except Fault (List (String × List Failure))
  | [] => .ok []
  | c :: rest => do
    let fs ← c.failures today
    let others ← failuresIn today rest
    return if fs.isEmpty then others else (c.key, fs) :: others

/-- The failed rules of all fields that fail any. -/
def failures (today : Date) (form : Form) : Except Fault (List (String × List Failure)) :=
  failuresIn today form.controls

/-- Whether no field fails a rule. -/
def isValid (today : Date) (form : Form) : Except Fault Bool :=
  (form.failures today).map (·.isEmpty)

/-- The status of a control. -/
def statusOf (today : Date) (c : Control) : Except Fault Status :=
  if !c.visible || c.field.disabled then .ok .valid
  else if !c.touched then .ok .pristine
  else (c.failures today).map fun fs => if fs.isEmpty then .valid else .invalid

/-- The status of a key. -/
def status (today : Date) (form : Form) (key : String) : Except Interruption Status :=
  match form.control key with
  | .error e => .error (.error e)
  | .ok c => lift (statusOf today c)

/-! ## Changing -/

/-- Calls the listeners. -/
def notify (form : Form) (changed : List String) : List Call × Form :=
  let (tickets, listeners) := form.listeners.notify
  (tickets.map fun t => ⟨t, changed⟩, { form with listeners := listeners })

/-- Refreshes a form with these controls and calls the listeners. After a fault nobody is called. -/
def settle (form : Form) (controls : List Control) (changed : List String) : Outcome Unit :=
  match Control.settle controls with
  | (settled, some e) => { form := { form with controls := settled }, result := .error (.fault e) }
  | (settled, none) =>
    let (calls, after) := notify { form with controls := settled } changed
    { form := after, result := .ok (), calls := calls }

/-- Sets several values at once. When one of the keys is unknown, no value is set. -/
def setValues (form : Form) (values : Record) : Outcome Unit :=
  match values.keys.find? fun k => (form.control? k).isNone with
  | some k => { form := form, result := .error (.error (.unknownField k)) }
  | none => form.settle (form.controls.map (Control.assign values)) values.keys

def setValue (form : Form) (key : String) (v : Value) : Outcome Unit := form.setValues [(key, v)]

/-- Starts again from the defaults and the given initial values, or those given last. -/
def reset (form : Form) (initial : Option Record) : Outcome Unit :=
  let values := initial.getD form.initialValues
  settle { form with initialValues := values }
    (form.controls.map fun c => (Control.restart c).patch values) form.keys

/-! ## Submitting -/

/-- The notice about a submission that has been refused. -/
def rejected (form : Form) (count : Nat) : Notice :=
  .info ("Submission of form '" ++ form.definition.key ++ "' rejected: " ++ toString count ++
    " invalid field(s)")

/-- Marks all fields as touched and checks them. The result is the record of answers, or all that
fails. -/
def submit (today : Date) (form : Form) : Outcome Record :=
  let touched : Form := { form with controls := form.controls.map Control.touch }
  match touched.failures today with
  | .error e => { form := touched, result := .error (.fault e) }
  | .ok [] => { form := touched, result := .ok touched.answers }
  | .ok fs =>
    { form := touched, result := .error (.error (.invalid fs))
      notices := [form.rejected fs.length] }

/-! ## Listening -/

/-- Adds a listener. One that listens `once` unsubscribes itself when it is called. -/
def subscribe (form : Form) (once : Bool) : Nat × Form :=
  let (ticket, listeners) := form.listeners.subscribe fun t => if once then [t] else []
  (ticket, { form with listeners := listeners })

def unsubscribe (form : Form) (ticket : Nat) : Form :=
  { form with listeners := form.listeners.unsubscribe ticket }

end Form

end DynamicForm

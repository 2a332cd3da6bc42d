import DynamicForm.Definition.Reader
import DynamicForm.Form.Basic
import DynamicForm.Form.Initial

/-!
# Loading a form

A form is loaded from two sources at the same time, one for the definition and one for the answers
saved before. It is built when both have given what they hold. When one of them fails, the other is
cancelled if it is still at work, and loading ends when that one has stopped, which may take a while
and may go wrong itself.

- `Loader.step` follows what happens: a source ends, or loading goes on.
- `Loading.timeline` is what happens with sources that end at given times.
- `load` tells how loading went, and when.
-/

namespace DynamicForm

/-- What is fetched. -/
inductive Part where
  | definition
  | values
deriving DecidableEq, Repr

def Part.other : Part → Part
  | definition => values
  | values => definition

/-- Why loading ends without a form. -/
inductive LoadError where
  | source (e : ServiceFailure)
  /-- A source has ended as one that is cancelled. -/
  | cancelled
  /-- The definition cannot be read. -/
  | unreadable (issues : List Issue)
  /-- The saved answers are no record. -/
  | notRecord (e : RecordError)
  | fault (f : Fault)

/-! ## Sources -/

/-- How a source ends. -/
inductive SourceEnd where
  | resolved (v : Value)
  | failed (e : ServiceFailure)
  | cancelled

/-- The error with which a source ends. -/
def SourceEnd.error? : SourceEnd → Option LoadError
  | resolved _ => none
  | failed e => some (.source e)
  | cancelled => some .cancelled

/-- What a source does after it has been cancelled: how long it takes, and how it ends. -/
structure Cleanup where
  lasts : Nat
  outcome : SourceEnd := .cancelled

/-- A source: when it ends and how, and what it does when it is cancelled before that. -/
structure Source where
  endsAt : Nat := 0
  outcome : SourceEnd
  cleanup : Option Cleanup := none

namespace Source

/-- How long the source goes on after it has been cancelled. -/
def stopsIn (s : Source) : Nat := s.cleanup.elim 0 Cleanup.lasts

/-- How the source ends after it has been cancelled. -/
def stopOutcome (s : Source) : SourceEnd := s.cleanup.elim .cancelled Cleanup.outcome

end Source

/-- Where a source is. -/
inductive SourceState where
  | running
  /-- It has been cancelled and goes on until it has cleaned up. -/
  | stopping
  /-- It has ended by itself. -/
  | ended (e : SourceEnd)
  /-- It has ended after it had been cancelled. -/
  | stopped (e : SourceEnd)

namespace SourceState

/-- Cancels a source that is running. -/
def cancel : SourceState → SourceState
  | running => stopping
  | s => s

def isOver : SourceState → Bool
  | ended _ => true
  | stopped _ => true
  | _ => false

end SourceState

/-! ## What happens -/

/-- Where loading is. -/
inductive Stage where
  /-- It waits for both sources. -/
  | waiting
  /-- A source has failed; loading has not gone on yet. -/
  | woken (e : LoadError)
  /-- It waits for the sources that have been cancelled. -/
  | stopping (e : LoadError)
  | raised (e : LoadError)
  | built (notices : List Notice) (form : Except LoadError Form)

/-- The first error wakes loading up. -/
def Stage.wake : Stage → Option LoadError → Stage
  | waiting, some e => woken e
  | s, _ => s

/-- Something that happens. -/
inductive Happening where
  | ends (p : Part) (e : SourceEnd)
  /-- Loading goes on. -/
  | resumes

/-- The sources and where loading is. -/
structure Loader where
  source : Part → SourceState := fun _ => .running
  stage : Stage := .waiting

/-- Builds a form from a definition and answers as they have been fetched. -/
def Loading.build (definition values : Value) : List Notice × Except LoadError Form :=
  match Definition.read definition, Record.initial values with
  | .bad issues, _ => ([], .error (.unreadable issues))
  | .ok _, .error e => ([], .error (.notRecord e))
  | .ok d, .ok initial =>
    let (notices, form) := Form.build d initial
    (notices, form.mapError .fault)

namespace Loader

/-- Notes where a source is. -/
def note (l : Loader) (p : Part) (state : SourceState) : Loader :=
  { l with source := fun q => if q = p then state else l.source q }

/-- A source ends. One that is over cannot end again. -/
def ends (l : Loader) (p : Part) (e : SourceEnd) : Loader :=
  match l.source p with
  | .running => { l.note p (.ended e) with stage := l.stage.wake e.error? }
  | .stopping => l.note p (.stopped e)
  | _ => l

/-- Goes on: builds the form when both sources have given a value; when one has failed, cancels
those that are running, and raises the error once none is left. -/
def resumes (l : Loader) : Loader :=
  match l.stage with
  | .waiting =>
    match l.source .definition, l.source .values with
    | .ended (.resolved d), .ended (.resolved v) =>
      let (notices, form) := Loading.build d v
      { l with stage := .built notices form }
    | _, _ => l
  | .woken e => { source := fun p => (l.source p).cancel, stage := .stopping e }
  | .stopping e =>
    if (l.source .definition).isOver && (l.source .values).isOver then { l with stage := .raised e }
    else l
  | _ => l

def step (l : Loader) : Happening → Loader
  | .ends p e => l.ends p e
  | .resumes => l.resumes

/-- Where everything is after what has happened. -/
def run (hs : List Happening) : Loader := hs.foldl step {}

end Loader

/-! ## The log -/

/-- What is seen of a source. -/
inductive SourceEvent where
  | resolved
  | failed
  | cancelled
  | cleanedUp
deriving DecidableEq, Repr

def SourceEnd.event : SourceEnd → SourceEvent
  | resolved _ => .resolved
  | failed _ => .failed
  | cancelled => .cancelled

namespace Loader

/-- What is seen of the sources when something happens. -/
def seen (s : Part → Source) (l : Loader) : Happening → List (Part × SourceEvent)
  | .ends p e =>
    match l.source p with
    | .running => [(p, e.event)]
    | .stopping => if (s p).cleanup.isSome then [(p, .cleanedUp)] else []
    | _ => []
  | .resumes =>
    [Part.definition, .values].filterMap fun p =>
      match l.source p, l.resumes.source p with
      | .running, .stopping => some (p, .cancelled)
      | _, _ => none

/-- What is seen in the course of time. -/
def log (s : Part → Source) : Loader → List (Nat × Happening) → List (Nat × Part × SourceEvent)
  | _, [] => []
  | l, (t, h) :: rest => (l.seen s h).map (t, ·) ++ log s (l.step h) rest

end Loader

/-! ## Time -/

/-- How loading went: what was seen of the sources, when it ended, and where everything was then. -/
structure Loading where
  log : List (Nat × Part × SourceEvent)
  endsAt : Nat
  loader : Loader

namespace Loading

/-- What loading comes to: a form, with notices, or the reason why there is none. -/
def result (loading : Loading) : Option (List Notice × Except LoadError Form) :=
  match loading.loader.stage with
  | .built notices form => some (notices, form)
  | .raised e => some ([], .error e)
  | _ => none

def sources (definition values : Source) : Part → Source
  | .definition => definition
  | .values => values

/-- The source that ends first; that of the definition, when both end at the same time. -/
def first (s : Part → Source) : Part :=
  if (s .definition).endsAt ≤ (s .values).endsAt then .definition else .values

/-- The source ends by itself. -/
def completion (s : Part → Source) (p : Part) : Nat × Happening :=
  ((s p).endsAt, .ends p (s p).outcome)

/-- Loading goes on, and looks again after it has gone on. -/
def resumption (t : Nat) : List (Nat × Happening) := [(t, .resumes), (t, .resumes)]

/-- What happens until only the other source may be left. -/
def beginning (s : Part → Source) (p : Part) : List (Nat × Happening) :=
  completion s p :: resumption (s p).endsAt

/-- How the other source ends, by itself or because it has been cancelled. -/
def rest (s : Part → Source) (p : Part) : Nat × Happening :=
  match (Loader.run ((beginning s p).map Prod.snd)).source p.other with
  | .stopping =>
    ((s p).endsAt + (s p.other).stopsIn, .ends p.other (s p.other).stopOutcome)
  | _ => completion s p.other

/-- What happens, and when. Sources that end at the same time do so before loading goes on. -/
def timeline (s : Part → Source) : List (Nat × Happening) :=
  let p := first s
  if (s p.other).endsAt ≤ (s p).endsAt then
    completion s p :: completion s p.other :: resumption (s p).endsAt
  else beginning s p ++ rest s p :: resumption (rest s p).1

end Loading

open Loading in
/-- Loads a form. -/
def load (definition values : Source) : Loading :=
  let s := sources definition values
  let happened := timeline s
  { log := Loader.log s {} happened
    endsAt := (happened.getLast?.map Prod.fst).getD 0
    loader := Loader.run (happened.map Prod.snd) }

end DynamicForm

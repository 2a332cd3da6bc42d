import DynamicForm.Autosave.Basic

/-!
# Sessions

A session runs an autosaver against a clock and against scripted services: the storage and the
remote check answer as their scripts say, each answer after a delay. When a script has come to its
end, services answer at once and favourably.

- `Session.settle` does what is ready, `Session.advance` lets time pass.
- Whatever is due at the same time happens in the order in which it has been set up: answers in the
  order in which they were asked for, the timer where it was last started. Jobs that are queued go
  first.
- `Session.journal` holds the effects with their times.
-/

namespace DynamicForm

/-- What a scripted service does with a definition. -/
inductive ScriptedEnd where
  /-- It gives the definition back, perhaps with other attributes, and finds nothing wrong with
  it. -/
  | echo (changes : Record)
  | nothing
  | value (v : Value)
  | failed (e : ServiceFailure)
  | cancelled

/-- An entry of a script. -/
structure Scripted where
  delay : Nat := 0
  outcome : ScriptedEnd := .echo []

/-- An answer that is on its way. -/
inductive Answer where
  | stored (a : StorageAnswer)
  | checked (a : CheckAnswer)

/-- An answer to a job, and when it comes. `starts` is how often the timer had been started when it
was asked for. -/
structure Awaited where
  due : Nat
  job : Nat
  answer : Answer
  starts : Nat

/-- A running autosaver. -/
structure Session where
  saver : Autosaver
  now : Nat := 0
  storage : List Scripted := []
  checker : List Scripted := []
  awaited : List Awaited := []
  journal : List (Nat × Effect) := []

namespace ScriptedEnd

/-- The definition with other attributes, unless one of them cannot be read. -/
def revise (d : Definition) : Record → Checked Definition
  | [] => .ok d
  | (name, v) :: rest =>
    match d.assign name v with
    | .ok d => revise d rest
    | .bad issues => .bad issues

/-- How a scripted storage ends. -/
def ofStorage (d : Definition) : ScriptedEnd → StorageAnswer
  | echo changes =>
    match revise d changes with
    | .ok d => .stored (.definition d)
    | .bad issues => .failed (.unreadable issues)
  | nothing => .stored .nothing
  | value .null => .stored .nothing
  | value v => .stored (.other v)
  | failed e => .failed e
  | cancelled => .cancelled

/-- How a scripted check ends. -/
def ofChecker : ScriptedEnd → CheckAnswer
  | echo _ => .answered (.record [("valid", .bool true), ("errors", .list [])])
  | nothing => .answered .null
  | value v => .answered v
  | failed e => .failed e
  | cancelled => .cancelled

end ScriptedEnd

namespace Session

/-- Adds an answer behind those that are due no later. -/
def await (a : Awaited) : List Awaited → List Awaited
  | [] => [a]
  | b :: rest => if b.due ≤ a.due then b :: await a rest else a :: b :: rest

/-- Lets an effect happen. -/
def perform (s : Session) (e : Effect) : Session :=
  let s := { s with journal := s.journal ++ [(s.now, e)] }
  match e with
  | .store job d =>
    let entry := s.storage.head?.getD {}
    { s with
      storage := s.storage.tail
      awaited := await
        ⟨s.now + entry.delay, job, .stored (entry.outcome.ofStorage d), s.saver.timer.starts⟩
        s.awaited }
  | .check job _ =>
    let entry := s.checker.head?.getD {}
    { s with
      checker := s.checker.tail
      awaited := await
        ⟨s.now + entry.delay, job, .checked entry.outcome.ofChecker, s.saver.timer.starts⟩
        s.awaited }
  | _ => s

/-- Goes on with what a step of the autosaver leaves behind. -/
def proceed (s : Session) (p : Progress) : Session :=
  p.effects.foldl perform { s with saver := p.saver }

/-- A job that has not begun. -/
def queuedJob? (s : Session) : Option Nat :=
  (s.saver.jobs.find? fun j => j.phase matches .queued).map (·.id)

/-- Hands an answer over to its job. -/
def deliver (s : Session) (a : Awaited) : Session :=
  let s := { s with now := max s.now a.due, awaited := s.awaited.tail }
  match a.answer with
  | .stored answer => s.proceed (s.saver.stored a.job answer)
  | .checked answer => s.proceed (s.saver.checked a.job answer)

/-- Lets the timer fire. -/
def fire (s : Session) (due : Nat) : Session :=
  { s with now := max s.now due, saver := s.saver.fire }

/-- The next thing that happens by a time, if anything does. -/
def next? (limit : Nat) (s : Session) : Option Session :=
  match s.queuedJob? with
  | some job => some (s.proceed (s.saver.begin job))
  | none =>
    match s.awaited.head?.filter (·.due ≤ limit), s.saver.timer.due.filter (· ≤ limit) with
    | some a, some t =>
      if a.due < t ∨ (a.due = t ∧ a.starts < s.saver.timer.starts) then some (s.deliver a)
      else some (s.fire t)
    | some a, none => some (s.deliver a)
    | none, some t => some (s.fire t)
    | none, none => none

/-- How many things can happen to a job before it is finished. -/
def workOf (j : Job) : Nat :=
  match j.phase with
  | .queued => 3
  | .checking _ => 2
  | .saving _ _ => 1

/-- How many things can happen before the session waits for somebody else. -/
def work (s : Session) : Nat :=
  (s.saver.jobs.map workOf).foldl Nat.add 0 + s.awaited.length +
    if s.saver.timer.pending then 4 else 0

/-- Does everything that happens by a time, at most so many things. -/
def runWithin (limit : Nat) : Nat → Session → Session
  | 0, s => s
  | steps + 1, s =>
    match s.next? limit with
    | some t => runWithin limit steps t
    | none => s

/-- Does everything that happens by a time. -/
def run (limit : Nat) (s : Session) : Session := runWithin limit s.work s

/-- Does what is ready now. -/
def settle (s : Session) : Session := s.run s.now

/-- Lets time pass. -/
def advance (ticks : Nat) (s : Session) : Session :=
  let target := s.now + ticks
  settle { s.run target with now := target }

/-- Does something with the autosaver. -/
def withSaver (s : Session) (f : Autosaver → Autosaver) : Session := { s with saver := f s.saver }

end Session

end DynamicForm

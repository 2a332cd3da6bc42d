import DynamicForm.Definition.Writer
import DynamicForm.Editor.Command
import DynamicForm.Error
import DynamicForm.Notification
import DynamicForm.Timer

/-!
# Autosave

An autosaver watches an editor. Every edit of a stored form begins a quiet period, and when it ends
an automatic save is made. Explicit saves are made at once. Saves are jobs: a job that waits for an
answer of the storage or of the remote check stays in the list of jobs, and other jobs may go on
meanwhile.

- Every save draws a generation number. An answer is applied only when its generation is higher
  than that of every answer applied before.
- There is no second automatic save while one is under way; it is skipped.
- `Progress` is what a step leaves behind: the autosaver and the effects, in order.
-/

namespace DynamicForm

/-- How a save came about. -/
inductive JobKind where
  | automatic (byTimer : Bool)
  | explicit
deriving DecidableEq, Repr

/-- Where a job stands. -/
inductive Phase where
  /-- It has not begun. -/
  | queued
  /-- The remote check of a definition has been asked for. -/
  | checking (d : Definition)
  /-- The storage of a definition has been asked for. -/
  | saving (generation : Nat) (d : Definition)

/-- A save that is not finished. -/
structure Job where
  id : Nat
  kind : JobKind
  phase : Phase

/-- Why a job fails. -/
inductive JobFailure where
  | service (e : ServiceFailure)
  /-- The definition cannot be taken from the editor. -/
  | edit (e : EditError)
  /-- The answer of the remote check is no record. -/
  | answerNotRecord
  /-- The problems in the answer of the remote check are no texts. -/
  | problemsNotTexts
  /-- The definition is too deep to be written for the remote check. -/
  | tooDeep

/-- What the storage gives back. -/
inductive Receipt where
  | nothing
  | definition (d : Definition)
  /-- Something that is no definition. -/
  | other (v : Value)

/-- How a job ends. -/
inductive JobResult where
  /-- An automatic save: whether the form has been stored. -/
  | autosaved (done : Bool)
  /-- An explicit save: what has been stored. -/
  | saved (r : Receipt)
  | failed (e : JobFailure)
  | cancelled

/-- The end of a call of the storage. -/
inductive StorageAnswer where
  | stored (r : Receipt)
  | failed (e : ServiceFailure)
  | cancelled

/-- The end of a call of the remote check. -/
inductive CheckAnswer where
  | answered (v : Value)
  | failed (e : ServiceFailure)
  | cancelled

/-- What an autosaver does to the world. -/
inductive Effect where
  /-- Asks for the remote check of a definition. -/
  | check (job : Nat) (d : Definition)
  /-- Asks for the storage of a definition. -/
  | store (job : Nat) (d : Definition)
  | notify (n : Notification)
  | log (n : Notice)
  | finished (job : Nat) (result : JobResult)

/-- The autosaver of an editor. -/
structure Autosaver where
  editor : Editor
  timer : Timer
  /-- The ticket under which it listens to the editor. -/
  ticket : Nat
  /-- Whether definitions are checked remotely before explicit saves. -/
  checksRemotely : Bool
  generation : Nat := 0
  /-- The generation of the answer applied last. -/
  applied : Nat := 0
  /-- Whether an automatic save is under way. -/
  inFlight : Bool := false
  closed : Bool := false
  /-- What the storage gave back last. -/
  lastSaved : Receipt := .nothing
  jobs : List Job := []
  nextJob : Nat := 0

/-- What a step leaves behind. -/
structure Progress where
  saver : Autosaver
  effects : List Effect := []

namespace Autosaver

/-- Begins to watch an editor. -/
def watch (e : Editor) (delay : Option Nat) (checksRemotely : Bool) : Autosaver :=
  let (ticket, editor) := e.subscribe false
  { editor := editor, timer := { delay := delay }, ticket := ticket
    checksRemotely := checksRemotely }

/-! ## Triggering -/

/-- Begins the quiet period anew; only for stored forms, and not after closing. -/
def trigger (now : Nat) (s : Autosaver) : Autosaver :=
  if s.closed || !s.editor.isStored then s else { s with timer := s.timer.start now }

/-- Follows an edit that left this editor behind and called these listeners. -/
def afterEdit (now : Nat) (s : Autosaver) (e : Editor) (calls : List EditCall) : Autosaver :=
  let s := { s with editor := e }
  if calls.any fun c => c.ticket == s.ticket then s.trigger now else s

/-- Stops watching. Jobs under way go on. -/
def close (s : Autosaver) : Autosaver :=
  { s with closed := true, timer := s.timer.cancel, editor := s.editor.unsubscribe s.ticket }

/-! ## Jobs -/

/-- Queues a job. -/
def request (s : Autosaver) (kind : JobKind) : Nat × Autosaver :=
  (s.nextJob, { s with jobs := s.jobs ++ [⟨s.nextJob, kind, .queued⟩], nextJob := s.nextJob + 1 })

/-- The end of the quiet period queues an automatic save. -/
def fire (s : Autosaver) : Autosaver :=
  ({ s with timer := s.timer.fire }.request (.automatic true)).2

def job? (s : Autosaver) (id : Nat) : Option Job := s.jobs.find? fun j => j.id == id

/-- Moves a job on to a phase. -/
def moveTo (s : Autosaver) (id : Nat) (phase : Phase) : Autosaver :=
  { s with jobs := s.jobs.map fun j => if j.id = id then { j with phase := phase } else j }

def dropJob (s : Autosaver) (id : Nat) : Autosaver :=
  { s with jobs := s.jobs.filter fun j => j.id ≠ id }

/-- Why a job failed, as the log has it. -/
def failureText : JobFailure → String
  | .service e => e.message
  | .edit (.unreadable issues) => Issue.summary "FormDefinition" issues.length
  | .edit e => e.message
  | .answerNotRecord => "the answer is no record"
  | .problemsNotTexts => "the problems are no texts"
  | .tooDeep => "the definition is too deep"

/-- What is reported when an automatic save started by the timer fails for a reason that it does not
handle itself. -/
def crash (s : Autosaver) (e : JobFailure) : List Effect :=
  [.log (.error ("Auto-save of form '" ++ s.editor.key.display ++ "' crashed: " ++ failureText e)),
    .notify ⟨.warning, "Auto-save failed"⟩]

/-- Ends a job. -/
def finish (s : Autosaver) (j : Job) (result : JobResult) (before : List Effect) : Progress where
  saver := s.dropJob j.id
  effects :=
    before ++ [.finished j.id result] ++
      match j.kind, result with
      | .automatic true, .failed e => s.crash e
      | _, _ => []

/-- Asks for the storage of a definition under a new generation. -/
def issue (s : Autosaver) (j : Job) (d : Definition) (before : List Effect) : Progress where
  saver := { s with generation := s.generation + 1 }.moveTo j.id (.saving (s.generation + 1) d)
  effects := before ++ [.store j.id d]

/-- Begins an automatic save. -/
def beginAutomatic (s : Autosaver) (j : Job) : Progress :=
  if s.inFlight then s.finish j (.autosaved false) []
  else
    match s.editor.hasNames with
    | .error e => s.finish j (.failed (.edit e)) []
    | .ok false => s.finish j (.autosaved false) []
    | .ok true =>
      match s.editor.snapshot with
      | .bad issues =>
        { s with inFlight := true, generation := s.generation + 1 }.finish j
          (.failed (.edit (.unreadable issues))) []
      | .ok d => { s with inFlight := true }.issue j d []

/-- The notification about problems, if there are any. -/
def warnOf (problems : List String) : List Effect :=
  if problems.isEmpty then []
  else [.notify ⟨.warning, "Form has problems: " ++ String.intercalate "; " problems⟩]

/-- The structural problems of a definition, as messages. -/
def localProblems (d : Definition) : List String := d.problems.map Problem.message

/-- Begins an explicit save. -/
def beginExplicit (s : Autosaver) (j : Job) : Progress :=
  let s := { s with timer := s.timer.cancel }
  match s.editor.hasNames with
  | .error e => s.finish j (.failed (.edit e)) []
  | .ok false =>
    let told : List Effect := [.notify ⟨.error, "Form name and key are required"⟩]
    match s.editor.nameProblems, s.editor.snapshot with
    | .error e, _ => s.finish j (.failed (.edit e)) told
    | .ok _, .bad issues => s.finish j (.failed (.edit (.unreadable issues))) told
    | .ok problems, .ok _ =>
      s.finish j (.failed (.service (.error (.schema (problems.map Problem.message))))) told
  | .ok true =>
    match s.editor.snapshot with
    | .bad issues => s.finish j (.failed (.edit (.unreadable issues))) []
    | .ok d =>
      if s.checksRemotely then
        if d.isShallow then ⟨s.moveTo j.id (.checking d), [.check j.id d]⟩
        else s.finish j (.failed .tooDeep) []
      else s.issue j d (warnOf (localProblems d))

/-- Begins a queued job. -/
def begin (s : Autosaver) (id : Nat) : Progress :=
  match s.job? id with
  | some j =>
    match j.phase, j.kind with
    | .queued, .explicit => s.beginExplicit j
    | .queued, .automatic _ => s.beginAutomatic j
    | _, _ => ⟨s, []⟩
  | none => ⟨s, []⟩

/-! ## Answers -/

/-- The members that a value stands for when it is gone through: the items of a list, the
characters of a text or the keys of a record. -/
def members? : Value → Option (List Value)
  | .list items => some items
  | .text s => some (s.toList.map fun c => .text (String.ofList [c]))
  | .record es => some (es.map fun e => .text e.1)
  | _ => none

/-- The texts of a list of nothing but texts. -/
def texts? : List Value → Option (List String)
  | [] => some []
  | .text s :: rest => (texts? rest).map (s :: ·)
  | _ => none

/-- The problems in the answer of the remote check. An answer that says "valid" has none, one that
names no problems has a general one. -/
def problemsIn : Value → Except JobFailure (List String)
  | .record es =>
    if ((Record.get? es "valid").getD (.bool false)).isTruthy then .ok []
    else
      let errors := (Record.get? es "errors").getD .null
      if !errors.isTruthy then .ok ["Schema is invalid"]
      else match (members? errors).bind texts? with
        | some problems => .ok problems
        | none => .error .problemsNotTexts
  | _ => .error .answerNotRecord

/-- Goes on when the remote check has come to an end. -/
def checked (s : Autosaver) (id : Nat) (answer : CheckAnswer) : Progress :=
  match s.job? id with
  | some j =>
    match j.phase, answer with
    | .checking d, .answered v =>
      match problemsIn v with
      | .ok problems => s.issue j d (warnOf problems)
      | .error e => s.finish j (.failed e) []
    | .checking d, .failed (.error (.unavailable message _)) =>
      s.issue j d
        (.log (.info ("Schema validation endpoint unavailable (" ++ message ++
          "); using local checks")) :: warnOf (localProblems d))
    | .checking _, .failed e => s.finish j (.failed (.service e)) []
    | .checking _, .cancelled => s.finish j .cancelled []
    | _, _ => ⟨s, []⟩
  | none => ⟨s, []⟩

/-- Applies what has been stored, unless a later save has been applied already. What is no
definition is kept, but its identity cannot be adopted. -/
def apply (s : Autosaver) (generation : Nat) (r : Receipt) : Progress × Option JobFailure :=
  if generation ≤ s.applied then
    (⟨s, [.log (.info ("Discarding stale save response (generation " ++ toString generation ++
      ", latest applied " ++ toString s.applied ++ ")"))]⟩, none)
  else
    let s := { s with applied := generation }
    match r with
    | .nothing => (⟨s, []⟩, none)
    | .definition d =>
      let (editor, notices) := s.editor.applySaved d
      (⟨{ s with lastSaved := r, editor := editor }, notices.map .log⟩, none)
    | .other v =>
      (⟨{ s with lastSaved := r }, []⟩, some (.service (.notDefinition v.kindName)))

/-- Ends a job for which something has been stored. -/
def endStored (s : Autosaver) (j : Job) (generation : Nat) (r : Receipt) (result : JobResult)
    (effects : List Effect) : Progress :=
  match s.apply generation r with
  | (p, none) => p.saver.finish j result (p.effects ++ effects)
  | (p, some e) => p.saver.finish j (.failed e) p.effects

/-- Ends an automatic save. -/
def endAutomatic (s : Autosaver) (j : Job) (generation : Nat) (d : Definition)
    (answer : StorageAnswer) : Progress :=
  let s := { s with inFlight := false }
  match answer with
  | .stored r =>
    s.endStored j generation r (.autosaved true)
      [.log (.info ("Form '" ++ d.key ++ "' auto-saved (generation " ++ toString generation ++
        ")"))]
  | .failed (.error e) =>
    if e.isPersistence then
      s.finish j (.autosaved false)
        [.log (.warning ("Auto-save of form '" ++ d.key ++ "' failed: " ++ e.message)),
          .notify ⟨.warning, "Auto-save failed"⟩]
    else s.finish j (.failed (.service (.error e))) []
  | .failed e => s.finish j (.failed (.service e)) []
  | .cancelled => s.finish j .cancelled []

/-- Ends an explicit save. -/
def endExplicit (s : Autosaver) (j : Job) (generation : Nat) (d : Definition)
    (answer : StorageAnswer) : Progress :=
  match answer with
  | .stored r =>
    s.endStored j generation r (.saved r) [.notify ⟨.success, "Form saved successfully!"⟩]
  | .failed (.error e) =>
    if e.isPersistence then
      s.finish j (.failed (.service (.error e)))
        [.log (.error ("Saving form '" ++ d.key ++ "' failed: " ++ e.message)),
          .notify ⟨.error, "Failed to save form"⟩]
    else s.finish j (.failed (.service (.error e))) []
  | .failed e => s.finish j (.failed (.service e)) []
  | .cancelled => s.finish j .cancelled []

/-- Goes on when the storage has come to an end. -/
def stored (s : Autosaver) (id : Nat) (answer : StorageAnswer) : Progress :=
  match s.job? id with
  | some j =>
    match j.phase, j.kind with
    | .saving generation d, .explicit => s.endExplicit j generation d answer
    | .saving generation d, .automatic _ => s.endAutomatic j generation d answer
    | _, _ => ⟨s, []⟩
  | none => ⟨s, []⟩

/-! ## Runs -/

/-- Something that happens to an autosaver. -/
inductive Action where
  | edit (c : Command)
  /-- The editor is told of an identity by somebody else. -/
  | adopt (d : Definition)
  | trigger
  | close
  | timer
  | request (kind : JobKind)
  | begin (job : Nat)
  | checked (job : Nat) (answer : CheckAnswer)
  | stored (job : Nat) (answer : StorageAnswer)

/-- One step of a run. A timer that is not pending does not fire. -/
def step (now : Nat) (s : Autosaver) : Action → Progress
  | .edit c =>
    let edit := s.editor.perform c
    ⟨s.afterEdit now edit.editor edit.calls, edit.notices.map .log⟩
  | .adopt d =>
    let (editor, notices) := s.editor.applySaved d
    ⟨{ s with editor := editor }, notices.map .log⟩
  | .trigger => ⟨s.trigger now, []⟩
  | .close => ⟨s.close, []⟩
  | .timer => ⟨if s.timer.pending then s.fire else s, []⟩
  | .request kind => ⟨(s.request kind).2, []⟩
  | .begin job => s.begin job
  | .checked job answer => s.checked job answer
  | .stored job answer => s.stored job answer

end Autosaver

end DynamicForm

import DynamicForm.Proofs.Autosave.Advice

/-!
# What a completion leaves alone

While a save is in flight the form may be edited and other saves may be made. When the storage
answers, none of this is lost: of the editor at most the identity of the form is touched. An answer
that is a failure touches nothing at all, and is told of once.

There are two things to be shown, and they do not depend on each other. The first is that a save in
flight is not disturbed: actions about other jobs do not see it, and actions about it other than the
answer of the storage find it in the wrong phase. The second is about the answer. Its branches
differ in what is applied and what is told, but all of them end the job, and none of them writes to
the editor except through `applySaved`, which writes the identity. So the branches are first brought
into one form, `stored_cases`, in which what is told is fixed before the autosaver is looked at, and
everything else is read off that form.

- `Autosaver.stays_course`: a save in flight waits for its answer, whatever else happens.
- `Autosaver.stored_cases`: an answer means nothing to a job, or ends it.
- `Autosaver.Spares` is what every answer leaves alone.
- `Autosaver.alarms`: what is shown when the storage fails. It depends on how the save came about.
- `Autosaver.completion_confined`: what a completion does, in every run.
-/

namespace DynamicForm

open Autosaver (Action Orderly)

/-- What is shown. -/
def Effect.notification? : Effect → Option Notification
  | notify n => some n
  | _ => none

/-- What is shown, in order. -/
def Progress.notifications (p : Progress) : List Notification :=
  p.effects.filterMap Effect.notification?

namespace Autosaver

variable {s t u : Autosaver} {j : Job} {id g : Nat} {d : Definition} {a : Action}

/-! ## Saves in flight

A save that has asked for the storage leaves this phase in one way only. -/

/-- A single step leaves a save in flight where it is, unless it is the answer. -/
theorem stays_step (ho : s.Orderly) (hjob : s.job? id = some j) (hp : j.phase = .saving g d)
    (now : Nat) (ha : ∀ answer, a ≠ .stored id answer) :
    (s.step now a).saver.job? id = some j := by
  have hfound : ∀ i, s.job? id = some i → i.phase = .saving g d := by
    intro i hi
    rw [hjob] at hi
    exact Option.some.inj hi ▸ hp
  -- an action about this very job finds it in flight, and only the answer means anything then
  refine job?_step_of_rests ho hjob now fun hid => ?_
  cases a with
  | begin i =>
    obtain rfl := Option.some.inj hid
    refine begin_of_begun fun i hi => ?_
    rw [hfound i hi]
    exact nofun
  | checked i answer =>
    obtain rfl := Option.some.inj hid
    refine checked_of_not_checking (fun i hi => ?_) answer
    rw [hfound i hi]
    exact nofun
  | stored i answer =>
    obtain rfl := Option.some.inj hid
    exact absurd rfl (ha answer)
  | _ => cases hid

/-- **In flight.** A save waits for its answer, whatever else happens. -/
theorem stays_course (ho : s.Orderly) (hjob : s.job? id = some j) (hp : j.phase = .saving g d)
    {actions : List (Nat × Action)} (ha : ∀ a ∈ actions, ∀ answer, a.2 ≠ .stored id answer) :
    (s.course actions).saver.job? id = some j := by
  induction actions generalizing s with
  | nil => exact hjob
  | cons a rest ih =>
    obtain ⟨hfirst, hrest⟩ := List.forall_mem_cons.mp ha
    exact ih (ho.step a.1 a.2) (stays_step ho hjob hp a.1 hfirst) hrest

/-- The answer ends the save. -/
theorem job?_stored_of_saving (ho : s.Orderly) (hjob : s.job? id = some j)
    (hp : j.phase = .saving g d) (answer : StorageAnswer) :
    (s.stored id answer).saver.job? id = none := by
  obtain ⟨hmem, rfl⟩ := job?_eq_some hjob
  have hspent : s.Spent j.id := by
    refine ⟨ho.lt j hmem, fun i hi => ⟨g, d, ?_⟩⟩
    rw [hjob] at hi
    exact Option.some.inj hi ▸ hp
  exact hspent.job?_stored answer

/-! ## Endings -/

/-- The autosaver when a save of this kind is over. -/
def freed (s : Autosaver) : JobKind → Autosaver
  | .automatic _ => { s with inFlight := false }
  | .explicit => s

/-- What is stored is applied first. A save that cannot be applied as a whole fails. -/
theorem endStored_eq (s : Autosaver) (j : Job) (g : Nat) (r : Receipt) (result : JobResult)
    (told : List Effect) : s.endStored j g r result told =
      (s.apply g r).1.saver.finish j ((s.apply g r).2.elim result .failed)
        ((s.apply g r).1.effects ++ (s.apply g r).2.elim told fun _ => []) := by
  unfold endStored
  rcases s.apply g r with ⟨p, failure⟩
  cases failure with
  | none => rfl
  | some e => exact congrArg (p.saver.finish j _) (List.append_nil _).symm

/-- What the storage has answered decides what a save ends with and what is told. -/
theorem exists_endExplicit (j : Job) (g : Nat) (d : Definition) (answer : StorageAnswer) :
    ∃ result told, ∀ s : Autosaver, s.endExplicit j g d answer =
      answer.receipt?.elim (s.finish j result told) fun r => s.endStored j g r result told := by
  cases answer with
  | stored r => exact ⟨_, _, fun s => rfl⟩
  | cancelled => exact ⟨_, _, fun s => rfl⟩
  | failed error =>
    cases error with
    | error e =>
      cases hpersistence : e.isPersistence
      all_goals exact ⟨_, _, fun s => by simp only [endExplicit, hpersistence]; rfl⟩
    | _ => exact ⟨_, _, fun s => rfl⟩

/-- For automatic saves it is the same, but the guard is opened before anything else. -/
theorem exists_endAutomatic (j : Job) (g : Nat) (d : Definition) (answer : StorageAnswer) :
    ∃ result told, ∀ s : Autosaver, s.endAutomatic j g d answer =
      answer.receipt?.elim (finish { s with inFlight := false } j result told) fun r =>
        endStored { s with inFlight := false } j g r result told := by
  cases answer with
  | stored r => exact ⟨_, _, fun s => rfl⟩
  | cancelled => exact ⟨_, _, fun s => rfl⟩
  | failed error =>
    cases error with
    | error e =>
      cases hpersistence : e.isPersistence
      all_goals exact ⟨_, _, fun s => by simp only [endAutomatic, hpersistence]; rfl⟩
    | _ => exact ⟨_, _, fun s => rfl⟩

/-- **Endings.** An answer means nothing to a job that is not in flight. It ends one that is, in a
way that the rest of the autosaver has no say in. -/
theorem stored_cases (waiting : Option Job) (id : Nat) (answer : StorageAnswer) :
    (∀ s : Autosaver, s.job? id = waiting → s.stored id answer = ⟨s, []⟩) ∨
    ∃ j g result told, ∀ s : Autosaver, s.job? id = waiting → s.stored id answer =
      answer.receipt?.elim ((s.freed j.kind).finish j result told) fun r =>
        (s.freed j.kind).endStored j g r result told := by
  by_cases hsaving : ∃ j g d, waiting = some j ∧ j.phase = .saving g d
  · obtain ⟨⟨i, kind, phase⟩, g, d, rfl, hp⟩ := hsaving
    obtain rfl : phase = .saving g d := hp
    refine .inr ⟨⟨i, kind, .saving g d⟩, g, ?_⟩
    -- result and effects are chosen before the autosaver, so that they are the same for any two
    cases kind with
    | explicit =>
      obtain ⟨result, told, hends⟩ := exists_endExplicit ⟨i, .explicit, .saving g d⟩ g d answer
      refine ⟨result, told, fun s hs => ?_⟩
      rw [stored, hs]
      exact hends s
    | automatic byTimer =>
      obtain ⟨result, told, hends⟩ :=
        exists_endAutomatic ⟨i, .automatic byTimer, .saving g d⟩ g d answer
      refine ⟨result, told, fun s hs => ?_⟩
      rw [stored, hs]
      exact hends s
  · refine .inl fun s hs => stored_of_not_saving (fun j hj g d hp => ?_) answer
    exact hsaving ⟨j, g, d, hs.symm.trans hj, hp⟩

/-! ## What is left alone

A relation between the autosaver before and after, and proofs along the functions that answer. -/

/-- Of the editor nothing but the identity of the form is touched, and the timer is as it was. -/
structure Spares (s t : Autosaver) : Prop where
  editor : t.editor = { s.editor with formId := t.editor.formId }
  timer : t.timer = s.timer

theorem Spares.refl (s : Autosaver) : Spares s s := ⟨rfl, rfl⟩

/-- One answer after the other touches nothing but the identity. -/
theorem Spares.trans (h : Spares s t) (h' : Spares t u) : Spares s u := by
  refine ⟨?_, h'.timer.trans h.timer⟩
  rw [h'.editor, h.editor]

/-- Applying an answer writes the identity of the form at most. -/
theorem spares_apply (s : Autosaver) (g : Nat) (r : Receipt) : Spares s (s.apply g r).1.saver := by
  unfold apply
  split
  · exact .refl s
  · cases r with
    | nothing => exact ⟨rfl, rfl⟩
    | other v => exact ⟨rfl, rfl⟩
    | definition d =>
      refine ⟨?_, rfl⟩
      change (s.editor.applySaved d).1 =
        { s.editor with formId := (s.editor.applySaved d).1.formId }
      rw [Editor.applySaved_editor]

theorem spares_freed (s : Autosaver) (kind : JobKind) : Spares s (s.freed kind) := by
  cases kind <;> exact ⟨rfl, rfl⟩

/-- The job ends, which concerns neither the editor nor the timer. -/
theorem spares_endStored (s : Autosaver) (j : Job) (g : Nat) (r : Receipt) (result : JobResult)
    (told : List Effect) : Spares s (s.endStored j g r result told).saver := by
  obtain ⟨heditor, htimer⟩ := spares_apply s g r
  rw [endStored_eq]
  exact ⟨heditor, htimer⟩

/-- **Every answer** of the storage leaves the rest of the editor alone. -/
theorem spares_stored (s : Autosaver) (id : Nat) (answer : StorageAnswer) :
    Spares s (s.stored id answer).saver := by
  rcases stored_cases (s.job? id) id answer with hrests | ⟨j, g, result, told, hends⟩
  · rw [hrests s rfl]
    exact .refl s
  · rw [hends s rfl]
    have hfreed := spares_freed s j.kind
    cases answer.receipt? with
    | none => exact ⟨hfreed.editor, hfreed.timer⟩
    | some r => exact hfreed.trans (spares_endStored ..)

/-- **Failures** leave everything alone. -/
theorem stored_failed (s : Autosaver) (id : Nat) (error : ServiceFailure) :
    let u := (s.stored id (.failed error)).saver
    u.editor = s.editor ∧ u.standing = s.standing ∧ u.timer = s.timer := by
  intro u
  obtain ⟨heditor, htimer⟩ := spares_stored s id (.failed error)
  have hstanding : u.standing = s.standing := by
    have hno : s.success? (.stored id (.failed error)) = none := by
      cases h : s.success? (.stored id (.failed error)) with
      | none => rfl
      | some w =>
        obtain ⟨_, _, heq, _⟩ := eq_stored_of_success? h
        cases heq
    exact (standing_stored s id (.failed error)).trans (by rw [hno]; rfl)
  have hid : u.editor.formId = s.editor.formId := congrArg Standing.formId hstanding
  rw [hid] at heditor
  exact ⟨heditor, hstanding, htimer⟩

/-! ## What is told

A failure is shown by the function that ends the job or by the one that reports crashes, but never
by both, since the first returns a result that is no failure where it has shown one. -/

/-- What is shown when the storage fails. A save that the timer has started is nobody's to watch, so
that every failure of it is shown. Who asks for a save is told of the other failures. -/
def alarms (kind : JobKind) (error : ServiceFailure) : List Notification :=
  match kind, error with
  | .automatic true, _ => [⟨.warning, "Auto-save failed"⟩]
  | .automatic false, .error e => if e.isPersistence then [⟨.warning, "Auto-save failed"⟩] else []
  | .explicit, .error e => if e.isPersistence then [⟨.error, "Failed to save form"⟩] else []
  | _, _ => []

/-- **Alarms.** A failure of the storage is shown once at most. -/
theorem notifications_failed {kind : JobKind} (hjob : s.job? id = some ⟨id, kind, .saving g d⟩)
    (error : ServiceFailure) :
    (s.stored id (.failed error)).notifications = alarms kind error := by
  unfold stored
  rw [hjob]
  cases kind with
  | explicit =>
    cases error with
    | error e =>
      cases hpersistence : e.isPersistence <;> simp only [endExplicit, alarms, hpersistence] <;> rfl
    | _ => rfl
  | automatic byTimer =>
    cases error with
    | error e =>
      cases hpersistence : e.isPersistence <;> cases byTimer <;>
        simp only [endAutomatic, alarms, hpersistence] <;> rfl
    | _ => cases byTimer <;> rfl

/-- An explicit save that the storage cannot make is shown, and then fails itself. -/
theorem effects_failed (hjob : s.job? id = some ⟨id, .explicit, .saving g d⟩) {e : Error}
    (hpersistence : e.isPersistence = true) : (s.stored id (.failed (.error e))).effects =
      [.log (.error ("Saving form '" ++ d.key ++ "' failed: " ++ e.message)),
        .notify ⟨.error, "Failed to save form"⟩, .finished id (.failed (.service (.error e)))] := by
  unfold stored
  rw [hjob]
  simp [endExplicit, hpersistence, finish]

/-- **Completions.** In every run, and whatever happens while a save is in flight, it waits for its
answer, and is over then. The answer changes nothing in the editor but the identity of the form. If
it is a failure, it does not change that either, nor what stands, nor the timer; a save that the
timer has started shows one warning, and an explicit save that the storage cannot make shows one
error and then fails. -/
theorem completion_confined (e : Editor) (delay : Option Nat) (checksRemotely : Bool)
    (before : List (Nat × Action))
    (hj : j ∈ ((watch e delay checksRemotely).course before).saver.jobs)
    (hp : j.phase = .saving g d) {during : List (Nat × Action)}
    (hduring : ∀ a ∈ during, ∀ answer, a.2 ≠ .stored j.id answer) (now : Nat)
    (answer : StorageAnswer) :
    let t := (((watch e delay checksRemotely).course before).saver.course during).saver
    let p := t.step now (.stored j.id answer)
    t.job? j.id = some j ∧ p.saver.job? j.id = none ∧
    p.saver.editor = { t.editor with formId := p.saver.editor.formId } ∧
    ∀ error, answer = .failed error →
      p.saver.editor = t.editor ∧ p.saver.standing = t.standing ∧ p.saver.timer = t.timer ∧
      (j.kind = .automatic true → p.notifications = [⟨.warning, "Auto-save failed"⟩]) ∧
      (j.kind = .explicit → ∀ f, error = .error f → f.isPersistence = true →
        p.effects = [.log (.error ("Saving form '" ++ d.key ++ "' failed: " ++ f.message)),
          .notify ⟨.error, "Failed to save form"⟩,
          .finished j.id (.failed (.service (.error f)))]) := by
  intro t p
  have ho : ((watch e delay checksRemotely).course before).saver.Orderly :=
    (Orderly.watch e delay checksRemotely).course before
  -- the job waits for its answer, whatever else happens, and the answer ends it
  have hjob : t.job? j.id = some j := stays_course ho (ho.job?_eq hj) hp hduring
  have hover : p.saver.job? j.id = none :=
    job?_stored_of_saving (ho.course during) hjob hp answer
  obtain ⟨i, kind, phase⟩ := j
  obtain rfl : phase = .saving g d := hp
  refine ⟨hjob, hover, (spares_stored t i answer).editor, ?_⟩
  -- what is left is the case of a failure
  rintro error rfl
  obtain ⟨heditor, hstanding, htimer⟩ := stored_failed t i error
  refine ⟨heditor, hstanding, htimer, ?_, ?_⟩
  · rintro rfl
    exact notifications_failed hjob error
  · rintro rfl f rfl hpersistence
    exact effects_failed hjob hpersistence

/-- An edit of a stored form, and the automatic save after it. -/
def autosaving : List (Nat × Action) := [
  (0, .edit (.updateMetadata [("name", .text "New")])), (5, .timer), (5, .begin 0)]

/-- The form is edited again while it is saved, and the save fails. The edit stays, and so does the
timer that it has started. -/
theorem completion_confined_autosaving :
    let t := (((watch Ledger.edited (some 5) false).course autosaving).saver.course
      [(6, .edit (.updateMetadata [("name", .text "Newer")]))]).saver
    let p := t.step 7 (.stored 0 (.failed (.foreign "RuntimeError" "lost")))
    t.editor.name = .text "Newer" ∧ t.timer.due = some 11 ∧ p.saver.editor = t.editor ∧
      p.saver.timer = t.timer ∧ p.notifications = [⟨.warning, "Auto-save failed"⟩] := by
  intro t p
  have hj : ⟨0, .automatic true, .saving 1 (Ledger.renamed "New")⟩ ∈
      ((watch Ledger.edited (some 5) false).course autosaving).saver.jobs :=
    List.mem_singleton.mpr rfl
  have hduring : ∀ a ∈ [(6, Action.edit (.updateMetadata [("name", .text "Newer")]))],
      ∀ answer, a.2 ≠ .stored 0 answer := by
    intro a ha answer
    rw [List.mem_singleton.mp ha]
    exact nofun
  obtain ⟨-, -, -, hfailed⟩ := completion_confined Ledger.edited (some 5) false autosaving hj rfl
    hduring 7 (.failed (.foreign "RuntimeError" "lost"))
  obtain ⟨heditor, -, htimer, hwarned, -⟩ := hfailed _ rfl
  exact ⟨rfl, rfl, heditor, htimer, hwarned rfl⟩

end Autosaver

end DynamicForm

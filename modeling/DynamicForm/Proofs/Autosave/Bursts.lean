import DynamicForm.Proofs.Autosave.Completion
import DynamicForm.Proofs.Autosave.Exclusion
import DynamicForm.Proofs.Editor.Announcement
import DynamicForm.Proofs.Timer

/-!
# Automatic saves after a burst

An autosaver calls its timer when it hears of an edit, when it is closed, and when an explicit save
begins. On a clock that reports the timer as soon as it is due, the automatic saves that the timer
asks for are the firings of a timer that gets these calls: a burst of edits leads to one of them,
one period after the last edit.

There are three accounts of the same saves. The timer alone says when they are due; what a report of
the timer asks for says which they should be; and the jobs that are there after a step and were not
before it say what has really been queued. Each is shown to agree with the next.

- `Autosaver.along` lists what the steps of a course show.
- `Autosaver.clocked` puts the reports of the timer in between other actions.
- `Autosaver.Tended` is the frame: what an action does to the timer, and to nothing else that has a
  say in when it is called.
- `Autosaver.Attends`: the autosaver hears of every edit that is announced, until it is closed.
- `Autosaver.Orderly.attempts_eq`: what a course has queued in the name of the timer is what the timer
  asks for.
- `Autosaver.attempts_clocked`: what it asks for in a course on the clock are its firings.
- `Autosaver.debounced`: when a timer fires and is pending, and what this means for a burst.
-/

namespace DynamicForm

open Autosaver (Action)
open Timer (InOrder)

namespace Autosaver

variable {s u : Autosaver} {a : Action} {now limit : Nat} {actions : List (Nat × Action)}

/-! ## What a course shows

Three functions look at single actions: what the timer asks for, what is a signal to it, and which
signals reach it. `along` applies such a function to every step of a course. -/

/-- What the steps of a course show, with their times. -/
def along {α : Type} (s : Autosaver) (f : Autosaver → Action → Option α) :
    List (Nat × Action) → List (Nat × α)
  | [] => []
  | (now, a) :: rest => (f s a).toList.map (now, ·) ++ (s.step now a).saver.along f rest

/-- The automatic saves in the name of the timer that a course has really queued, with their times:
jobs that were not there before the step and are there after it. -/
def attempts (s : Autosaver) : List (Nat × Action) → List (Nat × Job)
  | [] => []
  | (now, a) :: rest =>
    ((s.queued now a).filter fun j => j.kind = .automatic true).map (now, ·) ++
      (s.step now a).saver.attempts rest

/-- The save that the timer has to ask for when it is reported. -/
def attempt? (s : Autosaver) : Action → Option Job
  | .timer => if s.timer.pending then some ⟨s.nextJob, .automatic true, .queued⟩ else none
  | _ => none

/-- What begins or ends a quiet period: an edit that the autosaver hears of, a trigger, closing, and
the beginning of an explicit save. -/
def signal? (s : Autosaver) : Action → Option Timer.Call
  | .edit c =>
    if (s.editor.perform c).calls.any fun call => call.ticket == s.ticket then some .start else none
  | .trigger => some .start
  | .close => some .cancel
  | .begin id =>
    match s.job? id with
    | some ⟨_, .explicit, .queued⟩ => some .cancel
    | _ => none
  | _ => none

/-- The call of the timer. It is armed for a stored form only, and not after closing. -/
def call? (s : Autosaver) (a : Action) : Option Timer.Call :=
  (s.signal? a).filter fun c => !c.arms || (!s.closed && s.editor.isStored)

/-- The reports of the timer up to a time. -/
def expiry (limit : Nat) (s : Autosaver) : List (Nat × Action) :=
  (s.timer.advance limit).1.map (·, .timer)

/-- Actions together with the reports of the timer, which is reported when it is due and before
anything else that happens at that time. -/
def clocked (limit : Nat) (s : Autosaver) : List (Nat × Action) → List (Nat × Action)
  | [] => s.expiry limit
  | (now, a) :: rest =>
    s.expiry now ++
      (now, a) :: ((s.course (s.expiry now)).saver.step now a).saver.clocked limit rest

/-- What is put on the clock has a property if the reports of the timer and the actions have it. -/
theorem forall_mem_clocked {P : Action → Prop} (htimer : P .timer) (h : ∀ a ∈ actions, P a.2) :
    ∀ a ∈ s.clocked limit actions, P a.2 := by
  have hexpiry : ∀ (t : Autosaver) (last : Nat), ∀ a ∈ t.expiry last, P a.2 :=
    fun t _ => List.forall_mem_map.mpr fun _ _ => htimer
  induction actions generalizing s with
  | nil => exact hexpiry s limit
  | cons a rest ih =>
    obtain ⟨hfirst, hrest⟩ := List.forall_mem_cons.mp h
    exact List.forall_mem_append.mpr
      ⟨hexpiry s a.1, List.forall_mem_cons.mpr ⟨hfirst, ih hrest⟩⟩

theorem along_append {α : Type} (f : Autosaver → Action → Option α)
    (first second : List (Nat × Action)) :
    s.along f (first ++ second) = s.along f first ++ (s.course first).saver.along f second := by
  induction first generalizing s with
  | nil => rfl
  | cons a rest ih =>
    obtain ⟨now, a⟩ := a
    rw [List.cons_append, along, along, ih, List.append_assoc]
    rfl

/-! ## What is queued in the name of the timer

Nobody but the timer asks for saves in its name. Then the jobs that a course has queued in its name
are those that the timer has to ask for, step by step. -/

/-- The timer asks for a save when it is reported and pending, under a new number. -/
theorem attempt?_eq_some {j : Job} : s.attempt? a = some j ↔
    a = .timer ∧ s.timer.pending = true ∧ j = ⟨s.nextJob, .automatic true, .queued⟩ := by
  cases a with
  | timer =>
    by_cases hpending : s.timer.pending = true
    · simp [attempt?, hpending, eq_comm]
    · simp [attempt?, hpending]
  | _ => simp [attempt?]

/-- What the timer has to ask for is put behind the other jobs. -/
theorem jobs_of_attempt {j : Job} (h : s.attempt? a = some j) (now : Nat) :
    (s.step now a).saver.jobs = s.jobs ++ [j] := by
  obtain ⟨rfl, hpending, rfl⟩ := attempt?_eq_some.mp h
  rw [step, if_pos hpending]
  rfl

/-- **One step** queues in the name of the timer what the timer has to ask for, and nothing else. -/
theorem Orderly.attempts_step (h : s.Orderly) (now : Nat) (ha : a ≠ .request (.automatic true)) :
    ((s.queued now a).filter fun j => j.kind = .automatic true) = (s.attempt? a).toList := by
  cases hattempt : s.attempt? a with
  | some j =>
    have hjobs := jobs_of_attempt hattempt now
    obtain ⟨-, -, rfl⟩ := attempt?_eq_some.mp hattempt
    rw [h.queued_of_append hjobs]
    rfl
  | none =>
    cases a with
    | timer =>
      -- a timer that is not pending has nothing to report
      have hidle : ¬s.timer.pending = true := fun hpending => by
        rw [attempt?_eq_some.mpr ⟨rfl, hpending, rfl⟩] at hattempt
        cases hattempt
      have hjobs : (s.step now .timer).saver.jobs = s.jobs := by
        rw [Autosaver.step, if_neg hidle]
      rw [queued, hjobs, List.filter_filter]
      refine List.filter_eq_nil_iff.mpr fun j hj => ?_
      simp [h.lt j hj]
    | request kind =>
      have hother : ¬kind = .automatic true := fun hkind => ha (congrArg _ hkind)
      have hjobs : (s.step now (.request kind)).saver.jobs =
          s.jobs ++ [⟨s.nextJob, kind, .queued⟩] := rfl
      rw [h.queued_of_append hjobs]
      simp [hother]
    | _ => rw [h.queued_eq_nil now rfl]; rfl

/-- **A course** queues in the name of the timer what the timer has to ask for. -/
theorem Orderly.attempts_eq (h : s.Orderly)
    (ha : ∀ a ∈ actions, a.2 ≠ .request (.automatic true)) :
    s.attempts actions = s.along attempt? actions := by
  induction actions generalizing s with
  | nil => rfl
  | cons a rest ih =>
    obtain ⟨hfirst, hrest⟩ := List.forall_mem_cons.mp ha
    rw [attempts, along, h.attempts_step a.1 hfirst, ih (h.step a.1 a.2) hrest]

/-- What is asked for has not begun. -/
theorem phase_of_along_attempt {e : Nat × Job} (he : e ∈ s.along attempt? actions) :
    e.2.phase = .queued := by
  induction actions generalizing s with
  | nil => cases he
  | cons a rest ih =>
    rcases List.mem_append.mp he with hnow | hlater
    · obtain ⟨j, hj, rfl⟩ := List.mem_map.mp hnow
      obtain ⟨-, -, rfl⟩ := attempt?_eq_some.mp (Option.mem_toList.mp hj)
      rfl
    · exact ih hlater

/-! ## Listening to the editor

An edit reaches the timer through the listeners of the editor, so it counts if the autosaver is
among them. -/

/-- The autosaver hears of an edit when it is announced and the autosaver is among the listeners. -/
theorem signal?_edit_iff (c : Command) : s.signal? (.edit c) = some .start ↔
    (s.editor.perform c).Announced s.editor ∧
      s.ticket ∈ s.editor.listeners.active.map Subscriber.ticket := by
  have hheard : s.signal? (.edit c) = some .start ↔
      ∃ call ∈ (s.editor.perform c).calls, call.ticket = s.ticket := by
    simp [signal?, List.any_eq_true]
  rw [hheard]
  constructor
  · rintro ⟨call, hcall, hticket⟩
    have hannounced : (s.editor.perform c).Announced s.editor := by
      -- whoever is called has been told of an edit, so it has been announced and not stopped
      have hcalled : (s.editor.perform c).calls ≠ [] := List.ne_nil_of_mem hcall
      rcases s.editor.perform_whole c with hwhole | hstopped
      · unfold Edit.Whole at hwhole
        split at hwhole
        · exact hwhole.resolve_left fun hidle => hcalled hidle.2
        · exact absurd hwhole.2 hcalled
      · exact absurd hstopped.silent hcalled
    obtain ⟨reason, hcalls⟩ := hannounced.calls
    rw [hcalls] at hcall
    obtain ⟨l, hl, rfl⟩ := List.mem_map.mp hcall
    exact ⟨hannounced, List.mem_map.mpr ⟨l, hl, hticket⟩⟩
  · rintro ⟨hannounced, hlistens⟩
    obtain ⟨reason, hcalls⟩ := hannounced.calls
    obtain ⟨l, hl, hticket⟩ := List.mem_map.mp hlistens
    rw [hcalls]
    exact ⟨⟨l.ticket, reason⟩, List.mem_map.mpr ⟨l, hl, rfl⟩, hticket⟩

/-- The autosaver hears of an edit when listeners have to be told of it and it is among them. -/
theorem signal?_edit_iff_owed (c : Command) : s.signal? (.edit c) = some .start ↔
    ((s.editor.perform c).owed? (c.reason? s.editor)).isSome = true ∧
      s.ticket ∈ s.editor.listeners.active.map Subscriber.ticket := by
  rw [signal?, (s.editor.perform_ends c).calls_eq]
  cases (s.editor.perform c).owed? (c.reason? s.editor) <;> simp

/-! ## The frame

The timer of an autosaver is called from several places: after edits, on a trigger, on closing, and
when an explicit save begins. Here every function of the autosaver is looked at for what it does to
the timer, and `tended_step` collects the outcome. That the other fields of `Tended` are kept is
what makes the signals of a course calls of its timer. -/

/-- The timer has become this one. Nothing else has changed that has a say in when the timer is
called, except that the form may be stored by now. -/
structure Tended (s u : Autosaver) (t : Timer) : Prop where
  timer : u.timer = t
  closed : u.closed = s.closed
  stored : s.editor.isStored = true → u.editor.isStored = true
  stays : s.editor.listeners.Stays s.ticket → u.editor.listeners.Stays u.ticket

/-- A trigger starts the timer of an open autosaver for a stored form. -/
theorem tended_trigger (now : Nat) (s : Autosaver) : Tended s (s.trigger now)
    (if s.closed || !s.editor.isStored then s.timer else s.timer.start now) := by
  unfold trigger
  split <;> exact ⟨rfl, rfl, id, id⟩

/-- An edit is a trigger if the autosaver hears of it. -/
theorem tended_edit (now : Nat) (s : Autosaver) (c : Command) :
    Tended s (s.step now (.edit c)).saver
      ((s.call? (.edit c)).elim s.timer (s.timer.perform now)) := by
  have hstored : (s.editor.perform c).editor.isStored = s.editor.isStored :=
    congrArg Option.isSome (Editor.perform_formId s.editor c)
  obtain ⟨htimer, hclosed, hkept, hstays⟩ :=
    tended_trigger now { s with editor := (s.editor.perform c).editor }
  unfold step afterEdit call? signal?
  dsimp only
  split
  · refine ⟨htimer.trans ?_, hclosed, fun h => hkept (hstored.trans h),
      fun h => hstays (Editor.stays_perform h c)⟩
    rw [hstored]
    cases s.closed <;> cases s.editor.isStored <;> rfl
  · exact ⟨rfl, rfl, hstored.trans, fun h => Editor.stays_perform h c⟩

/-- An automatic save has no business with the timer. -/
theorem tended_beginAutomatic (s : Autosaver) (j : Job) :
    Tended s (s.beginAutomatic j).saver s.timer := by
  unfold beginAutomatic
  split
  · exact ⟨rfl, rfl, id, id⟩
  · split
    · exact ⟨rfl, rfl, id, id⟩
    · exact ⟨rfl, rfl, id, id⟩
    · split <;> exact ⟨rfl, rfl, id, id⟩

/-- An explicit save cancels the timer, however it goes on. -/
theorem tended_beginExplicit (s : Autosaver) (j : Job) :
    Tended s (s.beginExplicit j).saver s.timer.cancel := by
  unfold beginExplicit
  dsimp only
  split
  · exact ⟨rfl, rfl, id, id⟩
  · split <;> exact ⟨rfl, rfl, id, id⟩
  · split
    · exact ⟨rfl, rfl, id, id⟩
    · split
      · split <;> exact ⟨rfl, rfl, id, id⟩
      · exact ⟨rfl, rfl, id, id⟩

/-- The timer is cancelled exactly when a queued explicit save begins. -/
theorem tended_begin (now : Nat) (s : Autosaver) (job : Nat) :
    Tended s (s.begin job).saver ((s.call? (.begin job)).elim s.timer (s.timer.perform now)) := by
  unfold begin call? signal?
  dsimp only
  cases s.job? job with
  | none => exact ⟨rfl, rfl, id, id⟩
  | some j =>
    obtain ⟨i, kind, phase⟩ := j
    cases phase with
    | queued =>
      cases kind with
      | explicit => exact tended_beginExplicit s _
      | automatic byTimer => exact tended_beginAutomatic s _
    | _ => cases kind <;> exact ⟨rfl, rfl, id, id⟩

/-- The end of a remote check does nothing to the timer. -/
theorem tended_checked (s : Autosaver) (job : Nat) (answer : CheckAnswer) :
    Tended s (s.checked job answer).saver s.timer := by
  unfold checked
  split
  · split
    · split <;> exact ⟨rfl, rfl, id, id⟩
    all_goals exact ⟨rfl, rfl, id, id⟩
  · exact ⟨rfl, rfl, id, id⟩

/-- The listeners of the editor are not touched by an identity. -/
theorem stays_applySaved (e : Editor) (d : Definition) {t : Nat} (h : e.listeners.Stays t) :
    (e.applySaved d).1.listeners.Stays t := by
  rw [Editor.applySaved_editor]
  exact h

/-- An answer may bring an identity to the editor, from which on triggers start the timer. -/
theorem tended_apply (s : Autosaver) (g : Nat) (r : Receipt) :
    Tended s (s.apply g r).1.saver s.timer := by
  unfold apply
  split
  · exact ⟨rfl, rfl, id, id⟩
  · cases r with
    | definition d => exact ⟨rfl, rfl, isStored_applySaved s.editor d, stays_applySaved s.editor d⟩
    | _ => exact ⟨rfl, rfl, id, id⟩

theorem tended_stored (s : Autosaver) (job : Nat) (answer : StorageAnswer) :
    Tended s (s.stored job answer).saver s.timer := by
  rcases stored_cases (s.job? job) job answer with hrests | ⟨j, g, result, told, hends⟩
  · rw [hrests s rfl]
    exact ⟨rfl, rfl, id, id⟩
  · rw [hends s rfl]
    have hfreed : Tended s (s.freed j.kind) s.timer := by
      cases j.kind <;> exact ⟨rfl, rfl, id, id⟩
    cases answer.receipt? with
    | none => exact ⟨hfreed.timer, hfreed.closed, hfreed.stored, hfreed.stays⟩
    | some r =>
      obtain ⟨htimer, hclosed, hstored, hstays⟩ := tended_apply (s.freed j.kind) g r
      rw [Option.elim_some, endStored_eq]
      exact ⟨htimer.trans hfreed.timer, hclosed.trans hfreed.closed,
        fun h => hstored (hfreed.stored h), fun h => hstays (hfreed.stays h)⟩

/-- **Every step** but closing and the report of the timer calls the timer and leaves the rest. -/
theorem tended_step (now : Nat) (s : Autosaver) (hclose : a ≠ .close) (htimer : a ≠ .timer) :
    Tended s (s.step now a).saver ((s.call? a).elim s.timer (s.timer.perform now)) := by
  cases a with
  | edit c => exact tended_edit now s c
  | adopt d => exact ⟨rfl, rfl, isStored_applySaved s.editor d, stays_applySaved s.editor d⟩
  | trigger =>
    obtain ⟨htimer, hclosed, hstored, hstays⟩ := tended_trigger now s
    refine ⟨htimer.trans ?_, hclosed, hstored, hstays⟩
    unfold call? signal?
    cases s.closed <;> cases s.editor.isStored <;> rfl
  | close => exact absurd rfl hclose
  | timer => exact absurd rfl htimer
  | request kind => exact ⟨rfl, rfl, id, id⟩
  | begin id => exact tended_begin now s id
  | checked id answer => exact tended_checked s id answer
  | stored id answer => exact tended_stored s id answer

/-- The timer after a step is the one before, or that after the call that the step makes. -/
theorem timer_step (now : Nat) (s : Autosaver) (htimer : a ≠ .timer) :
    (s.step now a).saver.timer = (s.call? a).elim s.timer (s.timer.perform now) := by
  by_cases hclose : a = .close
  · subst hclose
    rfl
  · exact (tended_step now s hclose htimer).timer

/-- A report of the timer is its firing, if it is pending. -/
theorem timer_timer (now : Nat) (s : Autosaver) :
    (s.step now .timer).saver.timer = if s.timer.pending then s.timer.fire else s.timer := by
  unfold step
  dsimp only
  split <;> rfl

/-- Nothing but closing closes an autosaver, a stored form stays stored, and the autosaver stays
among the listeners. -/
theorem kept_step (now : Nat) (s : Autosaver) (hclose : a ≠ .close) :
    Tended s (s.step now a).saver (s.step now a).saver.timer := by
  by_cases htimer : a = .timer
  · subst htimer
    unfold step
    dsimp only
    split <;> exact ⟨rfl, rfl, id, id⟩
  · exact { tended_step now s hclose htimer with timer := rfl }

/-! ## Attention

That the autosaver hears of edits is an invariant of its own: it is among the listeners and nobody
takes it out, until it is closed and takes itself out. -/

/-- An autosaver that is open is among the listeners of its editor, and none of these takes it
out. -/
def Attends (s : Autosaver) : Prop := s.closed = false → s.editor.listeners.Stays s.ticket

theorem Attends.watch {e : Editor} (h : e.listeners.Issued) (delay : Option Nat)
    (checksRemotely : Bool) : Attends (watch e delay checksRemotely) :=
  fun _ => h.stays_subscribe

/-- One step keeps the autosaver among the listeners. -/
theorem Attends.step (h : Attends s) (now : Nat) (a : Action) : Attends (s.step now a).saver := by
  intro hopen
  by_cases hclose : a = .close
  · subst hclose
    exact Bool.noConfusion hopen
  · have hkept := kept_step now s hclose
    exact hkept.stays (h (hkept.closed.symm.trans hopen))

theorem Attends.course (h : Attends s) (actions : List (Nat × Action)) :
    Attends (s.course actions).saver := by
  induction actions generalizing s with
  | nil => exact h
  | cons a rest ih => exact ih (h.step a.1 a.2)

/-- An autosaver that is open hears of the edits that are announced. -/
theorem Attends.signal?_edit (h : Attends s) (hopen : s.closed = false) (c : Command) :
    s.signal? (.edit c) = some .start ↔ (s.editor.perform c).Announced s.editor := by
  rw [signal?_edit_iff, and_iff_left (h hopen).mem]

/-- An autosaver that is open hears of the edits that listeners have to be told of. -/
theorem Attends.signal?_edit_owed (h : Attends s) (hopen : s.closed = false) (c : Command) :
    s.signal? (.edit c) = some .start ↔
      ((s.editor.perform c).owed? (c.reason? s.editor)).isSome = true := by
  rw [signal?_edit_iff_owed, and_iff_left (h hopen).mem]

/-! ## Timers of autosavers

An autosaver begins with a timer that is not armed, and its period is never changed. -/

/-- A timer with this period that is pending whenever it is due some time. -/
structure Timed (delay : Option Nat) (s : Autosaver) : Prop where
  delay : s.timer.delay = delay
  pending : s.timer.due ≠ none → s.timer.pending = true

variable {delay : Option Nat}

theorem Timed.watch (e : Editor) (delay : Option Nat) (checksRemotely : Bool) :
    Timed delay (watch e delay checksRemotely) :=
  ⟨rfl, fun h => absurd rfl h⟩

/-- Every step keeps the period, and arms the timer together with its mark. -/
theorem Timed.step (h : Timed delay s) (now : Nat) (a : Action) :
    Timed delay (s.step now a).saver := by
  by_cases htimer : a = .timer
  · subst htimer
    constructor <;> rw [timer_timer]
    · split <;> exact h.delay
    · split
      · exact fun hdue => absurd rfl hdue
      · exact h.pending
  · constructor <;> rw [timer_step now s htimer]
    · cases s.call? a with
      | none => exact h.delay
      | some c => exact (Timer.perform_delay now s.timer c).trans h.delay
    · cases s.call? a with
      | none => exact h.pending
      | some c => cases c <;> simp [Timer.perform, Timer.start, Timer.cancel]

theorem Timed.course (h : Timed delay s) (actions : List (Nat × Action)) :
    Timed delay (s.course actions).saver := by
  induction actions generalizing s with
  | nil => exact h
  | cons a rest ih => exact ih (h.step a.1 a.2)

/-! ## The clock

The reports of the timer are put in between the actions where they belong. Between two actions there
is one report at most, and what it does to the autosaver is to fire the timer and to queue a job. -/

/-- The timer of an autosaver fires when it is reported. -/
theorem expiry_cases (h : Timed delay s) (limit : Nat) :
    (s.expiry limit = [] ∧ s.timer.advance limit = ([], s.timer)) ∨
      ∃ time, s.expiry limit = [(time, .timer)] ∧ s.timer.pending = true ∧
        s.timer.advance limit = ([time], s.timer.fire) := by
  unfold expiry
  cases hdue : s.timer.due with
  | none => exact .inl (by simp [Timer.advance, hdue])
  | some time =>
    by_cases hlimit : time ≤ limit
    · have hpending : s.timer.pending = true := h.pending (by simp [hdue])
      exact .inr ⟨time, by simp [Timer.advance, hdue, hlimit], hpending,
        by simp [Timer.advance, hdue, hlimit]⟩
    · exact .inl (by simp [Timer.advance, hdue, hlimit])

/-- After the reports the timer is what it is when the time has passed. -/
theorem timer_course_expiry (h : Timed delay s) (limit : Nat) :
    (s.course (s.expiry limit)).saver.timer = (s.timer.advance limit).2 := by
  rcases expiry_cases h limit with ⟨hnone, hadvance⟩ | ⟨time, hone, hpending, hadvance⟩
  · rw [hnone, hadvance]
    rfl
  · rw [hone, hadvance]
    exact (timer_timer time s).trans (if_pos hpending)

/-- Each report of the timer asks for a save at its time. -/
theorem attempts_expiry (h : Timed delay s) (limit : Nat) :
    (s.along attempt? (s.expiry limit)).map Prod.fst = (s.timer.advance limit).1 := by
  rcases expiry_cases h limit with ⟨hnone, hadvance⟩ | ⟨time, hone, hpending, hadvance⟩
  · rw [hnone, hadvance]
    rfl
  · rw [hone, hadvance]
    simp [along, attempt?, hpending]

/-- The reports of the timer show nothing but themselves. -/
theorem along_expiry {α : Type} {f : Autosaver → Action → Option α} (hf : ∀ s, f s .timer = none)
    (limit : Nat) : s.along f (s.expiry limit) = [] := by
  suffices h : ∀ (times : List Nat) (s : Autosaver),
      s.along f (times.map (·, .timer)) = [] from h _ s
  intro times
  induction times with
  | nil => exact fun _ => rfl
  | cons time rest ih => exact fun s => by rw [List.map_cons, along, hf, ih]; rfl

/-- What a course on the clock shows: first the reports up to the next action, then the action, then
the rest. -/
theorem along_clocked_cons {α : Type} (f : Autosaver → Action → Option α) :
    s.along f (s.clocked limit ((now, a) :: actions)) =
      s.along f (s.expiry now) ++
        ((f (s.course (s.expiry now)).saver a).toList.map (now, ·) ++
          ((s.course (s.expiry now)).saver.step now a).saver.along f
            (((s.course (s.expiry now)).saver.step now a).saver.clocked limit actions)) := by
  rw [clocked, along_append, along]

/-- What other actions show on the clock, they show at their own times. -/
theorem along_clocked_sublist {α : Type} {f : Autosaver → Action → Option α}
    (hf : ∀ s, f s .timer = none) (limit : Nat) (s : Autosaver) (actions : List (Nat × Action)) :
    ((s.along f (s.clocked limit actions)).map Prod.fst).Sublist (actions.map Prod.fst) := by
  induction actions generalizing s with
  | nil =>
    rw [clocked, along_expiry hf]
    exact .slnil
  | cons a rest ih =>
    obtain ⟨now, a⟩ := a
    rw [along_clocked_cons, along_expiry hf, List.nil_append, List.map_append]
    have hone : (((f (s.course (s.expiry now)).saver a).toList.map (now, ·)).map Prod.fst).Sublist
        [now] := by
      cases f (s.course (s.expiry now)).saver a <;> simp
    exact hone.append (ih _)

theorem signal?_timer (s : Autosaver) : s.signal? .timer = none := rfl

theorem call?_timer (s : Autosaver) : s.call? .timer = none := rfl

/-- **Attempts on the clock.** The automatic saves that the timer asks for are the firings of the
timer that gets the calls of the course. -/
theorem attempts_clocked (h : Timed delay s) (ho : InOrder limit actions)
    (ha : ∀ a ∈ actions, a.2 ≠ .timer) :
    (s.along attempt? (s.clocked limit actions)).map Prod.fst =
      (s.timer.course limit (s.along call? (s.clocked limit actions))).1 := by
  induction actions generalizing s with
  | nil => rw [clocked, along_expiry call?_timer, attempts_expiry h, Timer.course]
  | cons a rest ih =>
    obtain ⟨now, a⟩ := a
    obtain ⟨hfirst, hrest⟩ := List.forall_mem_cons.mp ha
    rw [along_clocked_cons, along_clocked_cons, along_expiry call?_timer, List.nil_append]
    -- the autosaver when the timer has been reported, and when the action has been done
    have hreported := timer_course_expiry h now
    generalize hu : (s.course (s.expiry now)).saver = u at hreported ⊢
    have hstep : (u.step now a).saver.timer = (u.call? a).elim u.timer (u.timer.perform now) :=
      timer_step now u hfirst
    have hattempt : u.attempt? a = none := by cases a <;> first | rfl | exact absurd rfl hfirst
    have hlater := ih (hu ▸ (h.course (s.expiry now)).step now a) ho.tail hrest
    have hnow := ho.head_le_of_sublist
      (along_clocked_sublist call?_timer limit (u.step now a).saver rest)
    rw [hattempt, List.map_append, attempts_expiry h, List.map_append, hlater, hstep]
    -- what comes later enters the statement through its calls only
    generalize (u.step now a).saver.along call? _ = calls at hnow ⊢
    cases u.call? a with
    | none =>
      -- without a call the time that has passed is passed over
      change (s.timer.advance now).1 ++ (u.timer.course limit calls).1 =
        (s.timer.course limit calls).1
      rw [Timer.course_advance ho.head_le_limit hnow s.timer, hreported]
    | some c =>
      rw [hreported]
      rfl

/-! ## Bursts

If signals come in quick succession, only the last of them is followed by a whole period. -/

/-- For a stored form all signals are calls, as long as the autosaver is not closed. -/
theorem calls_eq_signals (hopen : s.closed = false) (hstored : s.editor.isStored = true)
    (harms : ∀ e ∈ s.along signal? actions, e.2.arms = true) :
    s.along call? actions = s.along signal? actions := by
  induction actions generalizing s with
  | nil => rfl
  | cons a rest ih =>
    obtain ⟨now, a⟩ := a
    rw [along] at harms
    obtain ⟨hfirst, hrest⟩ := List.forall_mem_append.mp harms
    have hclose : a ≠ .close := by
      rintro rfl
      exact Bool.noConfusion (hfirst (now, .cancel) List.mem_cons_self)
    have hkept := kept_step now s hclose
    have hcall : s.call? a = s.signal? a := by
      unfold call?
      rw [hopen, hstored]
      cases s.signal? a <;> simp
    rw [along, along, hcall, ih (hkept.closed.trans hopen) (hkept.stored hstored) hrest]

/-- **A burst.** Edits less than a period apart, with nothing in between that ends the quiet period,
lead to one automatic save, a period after the last of them. -/
theorem attempts_burst {d : Nat} {first last : Nat × Timer.Call} (h : Timed (some d) s)
    (ho : InOrder limit actions) (ha : ∀ a ∈ actions, a.2 ≠ .timer) (hopen : s.closed = false)
    (hstored : s.editor.isStored = true)
    (harms : ∀ e ∈ s.along signal? (s.clocked limit actions), e.2.arms = true)
    (hgaps : (s.along signal? (s.clocked limit actions)).IsChain fun a b => b.1 < a.1 + d)
    (hfirst : (s.along signal? (s.clocked limit actions)).head? = some first)
    (hlast : (s.along signal? (s.clocked limit actions)).getLast? = some last)
    (hdue : ∀ time, s.timer.due = some time → first.1 < time) :
    (s.along attempt? (s.clocked limit actions)).map Prod.fst =
      if last.1 + d ≤ limit then [last.1 + d] else [] := by
  have hsignals : InOrder limit (s.along signal? (s.clocked limit actions)) :=
    ho.of_sublist (along_clocked_sublist signal?_timer limit s actions)
  -- the timer as it was found is called before it is due
  have hfound : s.timer.due.filter
      (Timer.quietUntil limit (s.along signal? (s.clocked limit actions))) = none := by
    refine Option.filter_eq_none_iff.mpr fun time htime hquiet => ?_
    have hle : time ≤ first.1 :=
      (Timer.quietUntil_iff.mp hquiet).2 first (List.mem_of_head? hfirst)
    exact absurd (hdue time htime) (Nat.not_lt.mpr hle)
  -- from saves to firings, from firings to the ends of periods, and of these there is one
  rw [attempts_clocked h ho ha, calls_eq_signals hopen hstored harms, Timer.course_fst hsignals,
    hfound, h.delay, Timer.quietEnds_burst hlast harms hgaps]
  rfl

/-- **Debouncing.** A timer with a period of some length, called at times in order, fires at the
ends of the periods after those calls that arm it and are followed by no call before. It is pending
while such a call is followed by no firing and no cancelling. For an autosaver in any state that it
can reach, open and for a stored form, this means: a burst of edits, each less than a period after
the one before, leads to one automatic save by the timer, a period after the last of them, whatever
else happens but closing and explicit saves. The save is a job that has really been queued, under a
new number and by nobody but the timer. Every edit counts that listeners have to be told of, as it is
announced and the autosaver hears of it. -/
theorem debounced :
    (∀ (delay : Option Nat) (limit : Nat) (calls : List (Nat × Timer.Call)),
      delay ≠ some 0 → InOrder limit calls →
      let run := ({ delay := delay } : Timer).course limit calls
      run.1.Pairwise (· < ·) ∧
      (∀ time, time ∈ run.1 ↔ ∃ before now c after, calls = before ++ (now, c) :: after ∧
        c.arms = true ∧ delay.map (now + ·) = some time ∧ (∀ e ∈ after, time ≤ e.1) ∧
        time ≤ limit) ∧
      (run.2.pending = true ↔ ∃ before now c after, calls = before ++ (now, c) :: after ∧
        c.arms = true ∧ (∀ e ∈ after, e.2.arms = true) ∧ ∀ time ∈ run.1, time ≤ now)) ∧
    (∀ (e : Editor) (d : Nat) (checksRemotely : Bool) (past actions : List (Nat × Action))
      (limit : Nat) (first last : Nat × Timer.Call),
      let s := ((watch e (some d) checksRemotely).course past).saver
      let run := s.clocked limit actions
      s.closed = false → s.editor.isStored = true → InOrder limit actions →
      (∀ a ∈ actions, a.2 ≠ .timer ∧ a.2 ≠ .request (.automatic true)) →
      (∀ call ∈ s.along signal? run, call.2.arms = true) →
      ((s.along signal? run).IsChain fun a b => b.1 < a.1 + d) →
      (s.along signal? run).head? = some first → (s.along signal? run).getLast? = some last →
      (∀ time, s.timer.due = some time → first.1 < time) →
      (s.attempts run).map Prod.fst = (if last.1 + d ≤ limit then [last.1 + d] else []) ∧
        ∀ e ∈ s.attempts run, e.2.phase = .queued) ∧
    ∀ (e : Editor) (delay : Option Nat) (checksRemotely : Bool) (past : List (Nat × Action))
      (c : Command), e.listeners.Issued →
      let s := ((watch e delay checksRemotely).course past).saver
      s.closed = false →
      (s.signal? (.edit c) = some .start ↔ (s.editor.perform c).Announced s.editor) ∧
        (s.signal? (.edit c) = some .start ↔
          ((s.editor.perform c).owed? (c.reason? s.editor)).isSome = true) := by
  refine ⟨?_, ?_, ?_⟩
  -- the timer alone: it fires at the ends of quiet periods
  · intro delay limit calls hdelay ho run
    have hfired : run.1 = Timer.quietEnds delay limit calls := Timer.course_fst ho _
    have hpending := Timer.pending_course (t := { delay := delay }) hdelay ho
    rw [hfired]
    refine ⟨Timer.quietEnds_pairwise hdelay, fun time => Timer.mem_quietEnds, ?_⟩
    rw [← hfired, hpending]
    exact ⟨fun h => h.resolve_left fun hfresh => Bool.noConfusion hfresh.1, .inr⟩
  · intro e d checksRemotely past actions limit first last s run hopen hstored ho ha harms hgaps
      hfirst hlast hdue
    have htimed : Timed (some d) s := (Timed.watch e (some d) checksRemotely).course past
    have horderly : s.Orderly := (Orderly.watch e (some d) checksRemotely).course past
    -- nobody else asks in the name of the timer, so the jobs are those that it asks for
    have hown : ∀ a ∈ run, a.2 ≠ .request (.automatic true) :=
      forall_mem_clocked (P := (· ≠ .request (.automatic true))) nofun fun a ha' => (ha a ha').2
    have hasked : s.attempts run = s.along attempt? run := horderly.attempts_eq hown
    rw [hasked]
    exact ⟨attempts_burst htimed ho (fun a ha' => (ha a ha').1) hopen hstored harms hgaps hfirst
      hlast hdue, fun e => phase_of_along_attempt⟩
  -- and what starts the timer is an edit that listeners are told of
  · intro e delay checksRemotely past c hissued s hopen
    have hattends := (Attends.watch hissued delay checksRemotely).course past
    exact ⟨hattends.signal?_edit hopen c, hattends.signal?_edit_owed hopen c⟩

/-- A name that is typed in two pieces. -/
def typing : List (Nat × Action) := [
  (0, .edit (.updateMetadata [("name", .text "Ne")])),
  (3, .edit (.updateMetadata [("name", .text "New")]))]

/-- A timer that is reset once and cancelled later fires once; so does that of an autosaver, which
hears of what is typed. -/
theorem debounced_typing :
    let run := ({ delay := some 5 } : Timer).course 40
      [(0, .start), (3, .reset), (20, .start), (22, .cancel)]
    let s := watch Ledger.edited (some 5) false
    run.1 = [8] ∧ run.1.Pairwise (· < ·) ∧ run.2.pending = false ∧
      (s.attempts (s.clocked 20 typing)).map Prod.fst = [8] ∧
      (s.editor.perform (.updateMetadata [("name", .text "Ne")])).Announced s.editor := by
  intro run s
  obtain ⟨htimer, hburst, hheard⟩ := debounced
  obtain ⟨honce, -, -⟩ := htimer (some 5) 40
    [(0, .start), (3, .reset), (20, .start), (22, .cancel)] (by decide) ⟨by decide, by decide⟩
  have hsignals : s.along signal? (s.clocked 20 typing) = [(0, .start), (3, .start)] := rfl
  refine ⟨rfl, honce, rfl, ?_, (hheard Ledger.edited (some 5) false [] _ nofun rfl).1.mp rfl⟩
  refine (hburst Ledger.edited 5 false [] typing 20 (0, .start) (3, .start) rfl rfl
    ⟨?_, ?_⟩ ?_ ?_ ?_ ?_ ?_ ?_).1
  · simp [typing]
  · simp [typing]
  · simp [typing]
  · change ∀ call ∈ s.along signal? (s.clocked 20 typing), call.2.arms = true
    rw [hsignals]
    decide
  · change (s.along signal? (s.clocked 20 typing)).IsChain fun a b => b.1 < a.1 + 5
    rw [hsignals]
    decide
  · exact congrArg List.head? hsignals
  · exact congrArg List.getLast? hsignals
  · exact fun time htime => by cases htime

end Autosaver

end DynamicForm

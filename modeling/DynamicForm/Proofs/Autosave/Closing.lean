import DynamicForm.Proofs.Autosave.Completion
import DynamicForm.Proofs.Editor.Listeners

/-!
# Closing

An autosaver that is closed starts its timer no more, whatever is done to it or to the editor. Saves
that have been asked for go on as if nothing had happened: they are finished, told of and applied by
the same rule.

The comparison is between two runs of the same actions, and the difference between the autosavers is
kept as small as it really is: one flag, a timer that is idle, and a list of listeners. Three fields
have to be left open because closing touches all three, and because listeners come and go afterwards
on both sides. Everything that a job looks at lies in the remaining fields. So each function that
carries a job on gives the same progress on both sides, which is what `Follows` says, and the proofs
go along the functions without asking what they compute.

A report of the timer is the one action that tells the two apart. It is left out on the side of the
open autosaver, which is a fair description of what it means that a timer is cancelled.

- `Autosaver.Shut`: two autosavers that differ in that one is closed.
- `Autosaver.Shut.course`: they do the same, as long as the timer of the other one does not fire.
- `Autosaver.Kin`: all of an autosaver that has a say in what an answer leads to.
- `Autosaver.close_final`: what closing changes, in every run, and what it does not.
-/

namespace DynamicForm

open Autosaver (Action Orderly)

/-- The timer is not armed. -/
structure Timer.Idle (t : Timer) : Prop where
  pending : t.pending = false
  due : t.due = none

theorem Timer.idle_cancel (t : Timer) : t.cancel.Idle := ⟨rfl, rfl⟩

namespace Autosaver

/-- The autosaver when it has been closed, with this timer and these listeners of the editor. -/
def shut (s : Autosaver) (t : Timer) (l : Subscribers) : Autosaver :=
  { s with closed := true, timer := t, editor := s.editor.withListeners l }

/-- The second autosaver is like the first one, but closed. -/
inductive Shut (s : Autosaver) : Autosaver → Prop where
  | intro (t : Timer) (l : Subscribers) : t.Idle → Shut s (s.shut t l)

/-- The second step does the same as the first one, for an autosaver that is closed. -/
structure Follows (p q : Progress) : Prop where
  saver : Shut p.saver q.saver
  effects : q.effects = p.effects

variable {s u : Autosaver} {a : Action}

theorem Shut.idle (h : Shut s u) : u.timer.Idle := by
  cases h with
  | intro t l ht => exact ht

/-- Closing gives such a pair, whatever the autosaver was doing. -/
theorem shut_close (s : Autosaver) : Shut s s.close := .intro _ _ s.timer.idle_cancel

/-! ## Jobs

What is done with jobs, on both sides. None of it reads the flag, the timer or the listeners. -/

theorem Shut.rests (h : Shut s u) (told : List Effect) : Follows ⟨s, told⟩ ⟨u, told⟩ := ⟨h, rfl⟩

/-- The same job ends on both sides with the same result. A crash is told of under the key of the
form, which both have. -/
theorem Shut.finish (h : Shut s u) (j : Job) (result : JobResult) (told : List Effect) :
    Follows (s.finish j result told) (u.finish j result told) := by
  cases h with
  | intro t l ht => exact ⟨.intro t l ht, rfl⟩

/-- The same number is drawn for the same definition. -/
theorem Shut.issue (h : Shut s u) (j : Job) (d : Definition) (told : List Effect) :
    Follows (s.issue j d told) (u.issue j d told) := by
  cases h with
  | intro t l ht => exact ⟨.intro t l ht, rfl⟩

/-- An automatic save is skipped, refused or sent on both sides. -/
theorem Shut.beginAutomatic (h : Shut s u) (j : Job) :
    Follows (s.beginAutomatic j) (u.beginAutomatic j) := by
  have hends : ∀ result, Follows (s.finish j result []) (u.finish j result []) :=
    fun result => h.finish j result []
  cases h with
  | intro t l ht =>
    -- the guard is looked at first, then the names, then the definition
    have hguard : (s.shut t l).inFlight = s.inFlight := rfl
    have hnames : (s.shut t l).editor.hasNames = s.editor.hasNames := rfl
    have hsnapshot : (s.shut t l).editor.snapshot = s.editor.snapshot := rfl
    unfold Autosaver.beginAutomatic
    rw [hguard, hnames, hsnapshot]
    split
    · exact hends _
    · cases s.editor.hasNames with
      | error e => exact hends _
      | ok named =>
        cases named with
        | false => exact hends _
        | true => cases s.editor.snapshot <;> exact ⟨.intro t l ht, rfl⟩

/-- An explicit save cancels the timer first. That of the closed autosaver is idle before and after.
-/
theorem Shut.beginExplicit (h : Shut s u) (j : Job) :
    Follows (s.beginExplicit j) (u.beginExplicit j) := by
  cases h with
  | intro t l _ =>
    have hends : ∀ result told, Follows
        (Autosaver.finish { s with timer := s.timer.cancel } j result told)
        (Autosaver.finish { s.shut t l with timer := t.cancel } j result told) :=
      fun _ _ => ⟨.intro t.cancel l t.idle_cancel, rfl⟩
    -- everything that decides the course of the save is the same on both sides
    have hnames : (s.shut t l).editor.hasNames = s.editor.hasNames := rfl
    have hproblems : (s.shut t l).editor.nameProblems = s.editor.nameProblems := rfl
    have hsnapshot : (s.shut t l).editor.snapshot = s.editor.snapshot := rfl
    have hremote : (s.shut t l).checksRemotely = s.checksRemotely := rfl
    unfold Autosaver.beginExplicit
    dsimp only
    rw [hnames, hproblems, hsnapshot, hremote]
    cases s.editor.hasNames with
    | error e => exact hends _ _
    | ok named =>
      cases named with
      | false =>
        cases s.editor.nameProblems with
        | error e => exact hends _ _
        | ok problems => cases s.editor.snapshot <;> exact hends _ _
      | true =>
        cases s.editor.snapshot with
        | bad issues => exact hends _ _
        | ok d =>
          dsimp only
          split
          · split
            · exact ⟨.intro t.cancel l t.idle_cancel, rfl⟩
            · exact hends _ _
          · exact ⟨.intro t.cancel l t.idle_cancel, rfl⟩

theorem Shut.job?_eq (h : Shut s u) (id : Nat) : u.job? id = s.job? id := by
  cases h with
  | intro t l ht => rfl

theorem Shut.begin (h : Shut s u) (id : Nat) : Follows (s.begin id) (u.begin id) := by
  unfold Autosaver.begin
  rw [h.job?_eq]
  split
  · split
    · exact h.beginExplicit _
    · exact h.beginAutomatic _
    · exact h.rests []
  · exact h.rests []

/-- The end of a remote check leads to the same on both sides. -/
theorem Shut.checked (h : Shut s u) (id : Nat) (answer : CheckAnswer) :
    Follows (s.checked id answer) (u.checked id answer) := by
  unfold Autosaver.checked
  rw [h.job?_eq]
  split
  · split
    · split
      · exact h.issue _ _ _
      · exact h.finish _ _ _
    · exact h.issue _ _ _
    · exact h.finish _ _ _
    · exact h.finish _ _ _
    · exact h.rests []
  · exact h.rests []

/-! ## Answers of the storage

An answer may bring an identity, which is written to both editors; the listeners are not told of it.
-/

/-- What has been stored is applied or discarded in the same way. -/
theorem Shut.apply (h : Shut s u) (g : Nat) (r : Receipt) :
    Follows (s.apply g r).1 (u.apply g r).1 ∧ (u.apply g r).2 = (s.apply g r).2 := by
  cases h with
  | intro t l ht =>
    have happlied : (s.shut t l).applied = s.applied := rfl
    unfold Autosaver.apply
    rw [happlied]
    split
    · exact ⟨⟨.intro t l ht, rfl⟩, rfl⟩
    · cases r with
      | nothing => exact ⟨⟨.intro t l ht, rfl⟩, rfl⟩
      | other v => exact ⟨⟨.intro t l ht, rfl⟩, rfl⟩
      -- the identity is written into editors that differ in their listeners only
      | definition d =>
        have hsaved : (s.shut t l).editor.applySaved d =
            ((s.editor.applySaved d).1.withListeners l, (s.editor.applySaved d).2) :=
          s.editor.applySaved_withListeners l d
        dsimp only
        rw [hsaved]
        exact ⟨⟨.intro t l ht, rfl⟩, rfl⟩

theorem Shut.endStored (h : Shut s u) (j : Job) (g : Nat) (r : Receipt) (result : JobResult)
    (told : List Effect) :
    Follows (s.endStored j g r result told) (u.endStored j g r result told) := by
  obtain ⟨⟨hsaver, heffects⟩, hfailure⟩ := h.apply g r
  rw [endStored_eq, endStored_eq, heffects, hfailure]
  exact hsaver.finish _ _ _

theorem Shut.freed (h : Shut s u) (kind : JobKind) : Shut (s.freed kind) (u.freed kind) := by
  cases h with
  | intro t l ht => cases kind <;> exact .intro t l ht

/-- An answer of the storage leads to the same on both sides. -/
theorem Shut.stored (h : Shut s u) (id : Nat) (answer : StorageAnswer) :
    Follows (s.stored id answer) (u.stored id answer) := by
  have hjob : u.job? id = s.job? id := h.job?_eq id
  rcases stored_cases (s.job? id) id answer with hrests | ⟨j, g, result, told, hends⟩
  · rw [hrests s rfl, hrests u hjob]
    exact h.rests []
  · rw [hends s rfl, hends u hjob]
    have hfreed := h.freed j.kind
    cases answer.receipt? with
    | none => exact hfreed.finish j result told
    | some r => exact hfreed.endStored j g r result told

/-! ## Every step

Edits and triggers would start the timer. They do so on the open side only, and the relation does
not look at that timer. An edit may also call different listeners on the two sides; what it makes of
the rest of the editor is known not to depend on them. -/

/-- An autosaver that is closed does not start its timer. -/
theorem Shut.trigger_eq (h : Shut s u) (now : Nat) : u.trigger now = u := by
  cases h with
  | intro t l ht => rfl

/-- The timer of the other one is of no account. -/
theorem Shut.of_trigger (h : Shut s u) (now : Nat) : Shut (s.trigger now) u := by
  cases h with
  | intro t l ht =>
    unfold trigger
    split
    · exact .intro t l ht
    · exact .intro t l ht

/-- An edit is followed by a trigger on one side at most, and the closed one does not listen to it.
-/
theorem Shut.afterEdit (h : Shut s u) (now : Nat) (e : Editor) (l : Subscribers)
    (calls others : List EditCall) :
    Shut (s.afterEdit now e calls) (u.afterEdit now (e.withListeners l) others) := by
  have hedited : Shut { s with editor := e } { u with editor := e.withListeners l } := by
    cases h with
    | intro t l' ht => exact .intro t l ht
  have hclosed : u.afterEdit now (e.withListeners l) others =
      { u with editor := e.withListeners l } := by
    unfold Autosaver.afterEdit
    dsimp only
    split
    · exact hedited.trigger_eq now
    · rfl
  rw [hclosed]
  unfold Autosaver.afterEdit
  dsimp only
  split
  · exact hedited.of_trigger now
  · exact hedited

theorem Shut.editor (h : Shut s u) : ∃ l, u.editor = s.editor.withListeners l := by
  cases h with
  | intro t l ht => exact ⟨l, rfl⟩

/-- **Every step** but that of the timer does the same to both. -/
theorem Shut.step (h : Shut s u) (now : Nat) (ha : a ≠ .timer) :
    Follows (s.step now a) (u.step now a) := by
  cases a with
  -- an edit does the same whoever listens, and nobody who is closed arms a timer
  | edit c =>
    obtain ⟨l, hl⟩ := h.editor
    have hechoes := s.editor.perform_echoes l c
    rw [← hl] at hechoes
    obtain ⟨l', heditor⟩ := hechoes.editor
    have hnotices := hechoes.notices
    unfold Autosaver.step
    dsimp only
    rw [heditor, hnotices]
    exact (h.afterEdit now _ l' _ _).rests _
  -- what the storage gives an editor is written into it, listeners or not
  | adopt d =>
    cases h with
    | intro t l ht =>
      have hsaved : (s.shut t l).editor.applySaved d =
          ((s.editor.applySaved d).1.withListeners l, (s.editor.applySaved d).2) :=
        s.editor.applySaved_withListeners l d
      unfold Autosaver.step
      dsimp only
      rw [hsaved]
      exact ⟨.intro t l ht, rfl⟩
  | trigger =>
    unfold Autosaver.step
    rw [h.trigger_eq now]
    exact (h.of_trigger now).rests []
  | close =>
    cases h with
    | intro t l ht => exact ⟨.intro t.cancel _ t.idle_cancel, rfl⟩
  -- the one action that tells the two apart is left to the caller
  | timer => exact absurd rfl ha
  | request kind =>
    cases h with
    | intro t l ht => exact ⟨.intro t l ht, rfl⟩
  | begin id => exact h.begin id
  | checked id answer => exact h.checked id answer
  | stored id answer => exact h.stored id answer

/-- The timer of an autosaver that is closed does not fire. -/
theorem Shut.step_timer (h : Shut s u) (now : Nat) : u.step now .timer = ⟨u, []⟩ := by
  unfold Autosaver.step
  dsimp only
  rw [h.idle.pending]
  rfl

/-- The actions apart from those of the timer. -/
def untimed (actions : List (Nat × Action)) : List (Nat × Action) :=
  actions.filter fun a => !(a.2 matches .timer)

/-- **Courses.** An autosaver that is closed does what another one does whose timer does not
fire. -/
theorem Shut.course (h : Shut s u) (actions : List (Nat × Action)) :
    Follows (s.course (untimed actions)) (u.course actions) := by
  induction actions generalizing s u with
  | nil => exact h.rests []
  | cons a rest ih =>
    obtain ⟨now, action⟩ := a
    -- a timer that was armed before may still be reported, but does not fire
    by_cases htimer : action = .timer
    · subst htimer
      have hcourse : u.course ((now, .timer) :: rest) = u.course rest := by
        rw [Autosaver.course, h.step_timer now]
        rfl
      rw [hcourse]
      exact ih h
    · have hkept : untimed ((now, action) :: rest) = (now, action) :: untimed rest := by
        unfold untimed
        rw [List.filter_cons_of_pos]
        cases action <;> first | rfl | exact absurd rfl htimer
      rw [hkept]
      obtain ⟨hsaver, heffects⟩ := h.step now htimer
      obtain ⟨hlast, hlater⟩ := ih hsaver
      refine ⟨hlast, ?_⟩
      rw [Autosaver.course, Autosaver.course]
      dsimp only
      rw [heffects, hlater]

/-! ## The rule for answers

For the last part of the result the two autosavers need not be alike in any other respect than that
the same stands under the same key. What an answer leads to is decided by the number applied last,
and what is told of it mentions the identity, the key and the receipt. -/

/-- The two autosavers have the same standing, for a form of the same key. -/
structure Kin (s u : Autosaver) : Prop where
  standing : u.standing = s.standing
  key : u.editor.key = s.editor.key

/-- A job that ends is told of under the key of the form. -/
theorem Kin.finish (h : s.editor.key = u.editor.key) (j : Job) (result : JobResult)
    (told : List Effect) : (u.finish j result told).effects = (s.finish j result told).effects := by
  unfold Autosaver.finish crash
  rw [h]

/-- The answer is stale for both or for neither, and is told of in the same way. -/
theorem Kin.apply (h : Kin s u) (g : Nat) (r : Receipt) :
    (u.apply g r).1.effects = (s.apply g r).1.effects ∧ (u.apply g r).2 = (s.apply g r).2 := by
  have happlied : u.applied = s.applied := congrArg Standing.applied h.standing
  unfold Autosaver.apply
  rw [happlied]
  split
  · exact ⟨rfl, rfl⟩
  · cases r with
    | nothing => exact ⟨rfl, rfl⟩
    | other v => exact ⟨rfl, rfl⟩
    -- what is said of an answer depends on the identity and the key before it
    | definition d =>
      have hnotices : (u.editor.applySaved d).2 = (s.editor.applySaved d).2 := by
        have hid : u.editor.formId = s.editor.formId := congrArg Standing.formId h.standing
        unfold Editor.applySaved
        rw [hid, h.key]
        split
        · rfl
        · split <;> rfl
      exact ⟨congrArg (List.map Effect.log) hnotices, rfl⟩

/-- Applying leaves the key of the form alone. -/
theorem key_apply (s : Autosaver) (g : Nat) (r : Receipt) :
    (s.apply g r).1.saver.editor.key = s.editor.key := by
  rw [(spares_apply s g r).editor]

/-- Whether the job ends well is decided by the answer. -/
theorem Kin.endStored (h : Kin s u) (j : Job) (g : Nat) (r : Receipt) (result : JobResult)
    (told : List Effect) :
    (u.endStored j g r result told).effects = (s.endStored j g r result told).effects := by
  obtain ⟨heffects, hfailure⟩ := h.apply g r
  have hkey : (s.apply g r).1.saver.editor.key = (u.apply g r).1.saver.editor.key := by
    rw [key_apply, key_apply, h.key]
  rw [endStored_eq, endStored_eq, heffects, hfailure]
  exact finish hkey _ _ _

theorem Kin.freed (h : Kin s u) (kind : JobKind) : Kin (s.freed kind) (u.freed kind) := by
  cases kind <;> exact ⟨h.standing, h.key⟩

/-- **The rule.** What follows from an answer depends on what stands, and on nothing else. -/
theorem Kin.stored (h : Kin s u) {id : Nat} (hjob : u.job? id = s.job? id)
    (answer : StorageAnswer) : (u.stored id answer).effects = (s.stored id answer).effects := by
  rcases stored_cases (s.job? id) id answer with hrests | ⟨j, g, result, told, hends⟩
  · rw [hrests s rfl, hrests u hjob]
  · rw [hends s rfl, hends u hjob]
    have hfreed := h.freed j.kind
    cases answer.receipt? with
    | none => exact finish hfreed.key.symm j result told
    | some r => exact hfreed.endStored j g r result told

/-- What stands after the answer to a save in flight. -/
theorem standing_of_saving {id g : Nat} {kind : JobKind} {d : Definition}
    (hjob : s.job? id = some ⟨id, kind, .saving g d⟩) (answer : StorageAnswer) :
    (s.stored id answer).saver.standing =
      answer.receipt?.elim s.standing (s.standing.hear g) := by
  rw [standing_stored, success?, hjob]
  cases answer <;> rfl

/-! ## Closing -/

/-- **Closing.** Take any run, close the autosaver, and take any course after that. The timer is not
armed and does not fire. What is told and what becomes of the jobs is what it would have been
without closing, had the timer not fired. A save that was in flight waits for its answer and is over
then; what has been stored is applied if its number is higher than that of the answer applied last.
The same is told and the same stands as for the autosaver that has not been closed, whatever has
happened to that one, when the same stood before under the same key. -/
theorem close_final (e : Editor) (delay : Option Nat) (checksRemotely : Bool)
    (before after : List (Nat × Action)) :
    let s := ((watch e delay checksRemotely).course before).saver
    let t := (s.close.course after).saver
    (t.timer.pending = false ∧ t.timer.due = none ∧ ∀ now, t.step now .timer = ⟨t, []⟩) ∧
    Follows (s.course (untimed after)) (s.close.course after) ∧
    ∀ j ∈ s.jobs, ∀ g d, j.phase = .saving g d →
      (∀ a ∈ after, ∀ answer, a.2 ≠ .stored j.id answer) →
      t.job? j.id = some j ∧ ∀ now answer,
        let p := t.step now (.stored j.id answer)
        p.saver.job? j.id = none ∧
        p.saver.standing = answer.receipt?.elim t.standing (t.standing.hear g) ∧
        ∀ other : List (Nat × Action), (∀ a ∈ other, ∀ answer, a.2 ≠ .stored j.id answer) →
          let u := (s.course other).saver
          let q := u.step now (.stored j.id answer)
          u.job? j.id = some j ∧ (u.standing = t.standing → u.editor.key = t.editor.key →
            q.effects = p.effects ∧ q.saver.standing = p.saver.standing) := by
  intro s t
  have ho : s.Orderly := (Orderly.watch e delay checksRemotely).course before
  have hfollows : Follows (s.course (untimed after)) (s.close.course after) :=
    (shut_close s).course after
  have hidle : t.timer.Idle := hfollows.saver.idle
  -- the first two parts are read off the relation; the rest is about a single save in flight
  refine ⟨⟨hidle.pending, hidle.due, hfollows.saver.step_timer⟩, hfollows, ?_⟩
  intro j hj g d hp hafter
  have hclosed : s.close.Orderly := ⟨ho.nodup, ho.lt, ho.checking⟩
  have hjob : t.job? j.id = some j := stays_course hclosed (ho.job?_eq hj) hp hafter
  refine ⟨hjob, fun now answer => ?_⟩
  obtain ⟨i, kind, phase⟩ := j
  obtain rfl : phase = .saving g d := hp
  refine ⟨job?_stored_of_saving (hclosed.course after) hjob rfl answer,
    standing_of_saving hjob answer, fun other hother => ?_⟩
  intro u q
  have hjob' : u.job? i = some ⟨i, kind, .saving g d⟩ := stays_course ho (ho.job?_eq hj) rfl hother
  refine ⟨hjob', fun hstanding hkey => ⟨?_, ?_⟩⟩
  · exact Kin.stored ⟨hstanding, hkey⟩ (hjob'.trans hjob.symm) answer
  · change (u.stored i answer).saver.standing = (t.stored i answer).saver.standing
    rw [standing_of_saving hjob', standing_of_saving hjob, hstanding]

/-- What is done after closing: the form is edited, a save is asked for, and the time is up that the
timer had been started for. -/
def lingering : List (Nat × Action) := [
  (7, .edit (.updateMetadata [("name", .text "Newer")])), (8, .trigger),
  (9, .request .explicit), (9, .begin 1), (11, .timer)]

/-- An autosaver is closed while its timer is armed and a save is in flight. The save is applied. -/
theorem close_final_autosaving :
    let s := ((watch Ledger.edited (some 5) false).course (autosaving ++ [(6, .trigger)])).saver
    let t := (s.close.course lingering).saver
    let p := t.step 12 (.stored 0 (.stored (.definition (Ledger.renamed "New"))))
    s.timer.due = some 11 ∧ t.timer.due = none ∧
      p.saver.standing = ⟨1, .definition (Ledger.renamed "New"), some (.number 1)⟩ ∧
      p.effects = ((s.course (untimed lingering)).saver.step 12
        (.stored 0 (.stored (.definition (Ledger.renamed "New"))))).effects := by
  intro s t p
  have hj : ⟨0, .automatic true, .saving 1 (Ledger.renamed "New")⟩ ∈ s.jobs :=
    List.mem_singleton.mpr rfl
  have hafter : ∀ a ∈ lingering, ∀ answer, a.2 ≠ .stored 0 answer := by
    simp [lingering]
  have hother : ∀ a ∈ untimed lingering, ∀ answer, a.2 ≠ .stored 0 answer :=
    fun a ha => hafter a (List.mem_filter.mp ha).1
  obtain ⟨⟨-, hdue, -⟩, -, hsaves⟩ :=
    close_final Ledger.edited (some 5) false (autosaving ++ [(6, .trigger)]) lingering
  obtain ⟨-, hanswers⟩ := hsaves _ hj 1 (Ledger.renamed "New") rfl hafter
  obtain ⟨-, hstands, hrule⟩ :=
    hanswers 12 (.stored (.definition (Ledger.renamed "New")))
  obtain ⟨-, hsame⟩ := hrule (untimed lingering) hother
  exact ⟨rfl, hdue, hstands, (hsame rfl rfl).1.symm⟩

end Autosaver

end DynamicForm

import DynamicForm.Proofs.Autosave.Jobs

/-!
# The way of a job

An action is about one job or none, and what it does to the jobs it does to that one: it is moved on
to a phase, or it ends. Automatic saves pass the guard `inFlight` on their way: it is closed when
one of them begins and opened when the storage answers. One that begins and cannot take the
definition from the editor ends behind the closed guard.

Many statements about runs follow one job and do not care for the others. They need two facts about
a step: which job it can have moved, and how. Both are read off the action, since an action names
its job, and what it does to it depends on the phase in which it finds it. The guard is part of the
description because three of the ways in which a job goes on are told apart by what they do to it.

The constructors mention the autosaver `u` that there is when the job moves. Up to then other things
may have changed, such as the timer or the identity of the form, but neither the jobs nor the guard,
unless the constructor says so.

- `Autosaver.Passage` lists the ways in which an action can move the job that it is about.
- `Autosaver.passage_step`: there is no other.
- `Autosaver.Passage.job?_eq`: other jobs stay as they are.
- `Autosaver.Orderly.step`: jobs keep their order.
- `Autosaver.queued`: the jobs that a step has queued, known by their numbers.
-/

namespace DynamicForm

open Autosaver (Action)

/-- The job that an action is about. -/
def Autosaver.Action.job? : Action → Option Nat
  | .begin id => some id
  | .checked id _ => some id
  | .stored id _ => some id
  | _ => none

/-- The kind of job that an action may queue. The timer asks for automatic saves, and everything else
has to be asked for from outside. -/
def Autosaver.Action.queues? : Action → Option JobKind
  | .timer => some (.automatic true)
  | .request kind => some kind
  | _ => none

/-- The job has asked for the storage and is an automatic save. -/
def Job.isAutosaving (j : Job) : Bool := decide (j.kind ≠ .explicit) && j.phase matches .saving _ _

/-- The save has ended because the definition could not be taken from the editor. -/
def JobResult.isUntaken : JobResult → Bool
  | .failed (.edit (.unreadable _)) => true
  | _ => false

namespace Effect

/-- A job that ends, and how. -/
def finished? : Effect → Option (Nat × JobResult)
  | finished job result => some (job, result)
  | _ => none

/-- No job ends. -/
def Ongoing (told : List Effect) : Prop := told.filterMap finished? = []

theorem ongoing_nil : Ongoing [] := rfl

theorem Ongoing.append {before after : List Effect} (h₁ : Ongoing before) (h₂ : Ongoing after) :
    Ongoing (before ++ after) := by
  rw [Ongoing, List.filterMap_append, h₁, h₂, List.nil_append]

theorem ongoing_logs (notices : List Notice) : Ongoing (notices.map log) := by
  simp [Ongoing, finished?]

end Effect

namespace Autosaver

open Effect (Ongoing)

variable {s u : Autosaver} {j : Job} {id : Nat} {a : Action}

/-! ## The ways of a job

`Level` is the frame: the same jobs and the same counter, with the guard as it is said to be. -/

/-- The same jobs, with the guard in this state. -/
structure Level (s : Autosaver) (guard : Bool) (u : Autosaver) : Prop where
  jobs : u.jobs = s.jobs
  nextJob : u.nextJob = s.nextJob
  inFlight : u.inFlight = guard

theorem Level.refl (s : Autosaver) : Level s s.inFlight s := ⟨rfl, rfl, rfl⟩

/-- The guard is in the state in which the last of two changes has left it. -/
theorem Level.trans {first guard : Bool} {v : Autosaver} (h₁ : Level s first u)
    (h₂ : Level u guard v) : Level s guard v :=
  ⟨h₂.jobs.trans h₁.jobs, h₂.nextJob.trans h₁.nextJob, h₂.inFlight⟩

theorem Level.job?_eq {guard : Bool} (h : Level s guard u) (id : Nat) : u.job? id = s.job? id :=
  congrArg (List.find? _) h.jobs

/-- What an action does to the job that it is about. -/
inductive Passage (s : Autosaver) : Action → Progress → Prop where
  /-- Nothing happens to a job. -/
  | rests {a : Action} {u : Autosaver} {told : List Effect} :
      Level s s.inFlight u → Ongoing told → Passage s a ⟨u, told⟩
  | queues {a : Action} {u : Autosaver} (kind : JobKind) :
      a.queues? = some kind → Level s s.inFlight u → Passage s a ⟨(u.request kind).2, []⟩
  /-- An explicit save goes on. -/
  | moves {a : Action} {j : Job} {u : Autosaver} {phase : Phase} {told : List Effect} :
      j ∈ s.jobs → a.job? = some j.id → j.kind = .explicit → Level s s.inFlight u → Ongoing told →
      Passage s a ⟨u.moveTo j.id phase, told⟩
  /-- A job ends that is not behind the guard. -/
  | ends {a : Action} {j : Job} {u : Autosaver} {result : JobResult} {told : List Effect} :
      j ∈ s.jobs → a.job? = some j.id → j.isAutosaving = false →
      (j.kind = .explicit ∨ result.isUntaken = false) → Level s s.inFlight u → Ongoing told →
      Passage s a (u.finish j result told)
  /-- An automatic save passes the guard and asks for the storage. -/
  | launches {a : Action} {j : Job} {u : Autosaver} {g : Nat} {d : Definition}
      {told : List Effect} : j ∈ s.jobs → a.job? = some j.id → j.kind ≠ .explicit →
      j.isAutosaving = false → s.inFlight = false → Level s true u → Ongoing told →
      Passage s a ⟨u.moveTo j.id (.saving g d), told⟩
  /-- An automatic save passes the guard and cannot take the definition. -/
  | strands {a : Action} {j : Job} {u : Autosaver} {issues : List Issue} : j ∈ s.jobs →
      a.job? = some j.id → j.kind ≠ .explicit → j.isAutosaving = false → s.inFlight = false →
      Level s true u →
      Passage s a (u.finish j (.failed (.edit (.unreadable issues))) [])
  /-- The storage answers an automatic save. -/
  | lands {a : Action} {j : Job} {u : Autosaver} {result : JobResult} {told : List Effect} :
      j ∈ s.jobs → a.job? = some j.id → j.isAutosaving = true → result.isUntaken = false →
      Level s false u → Ongoing told →
      Passage s a (u.finish j result told)

theorem ongoing_warnOf (problems : List String) : Ongoing (warnOf problems) := by
  unfold warnOf
  split <;> rfl

/-! ## Beginning

A queued job begins. An automatic save has to pass the guard, while an explicit one does not look at
it. -/

/-- Only for a name that is no text it cannot be seen whether there are names. -/
theorem untaken_hasNames {e : Editor} {error : EditError} (h : e.hasNames = .error error) :
    (JobResult.failed (.edit error)).isUntaken = false := by
  have hblank : ∀ v, Editor.isBlankName v = .error error →
      (JobResult.failed (.edit error)).isUntaken = false := by
    intro v hv
    unfold Editor.isBlankName at hv
    split at hv
    · cases hv
    · split at hv
      · cases hv
      · obtain rfl := Except.error.inj hv
        rfl
  -- the name is looked at before the key, and either may be something that is no text
  unfold Editor.hasNames at h
  cases hname : Editor.isBlankName e.name with
  | error f =>
    rw [hname] at h
    obtain rfl := Except.error.inj h
    exact hblank _ hname
  | ok noName =>
    cases noName with
    | true =>
      rw [hname] at h
      cases h
    | false =>
      cases hkey : Editor.isBlankName e.key with
      | error f =>
        rw [hname, hkey] at h
        obtain rfl := Except.error.inj h
        exact hblank _ hkey
      | ok noKey =>
        rw [hname, hkey] at h
        cases h

/-- An automatic save ends in front of the guard, or closes it behind itself. In that case it goes
on to the storage, or is stranded because the definition cannot be taken. -/
theorem passage_beginAutomatic (hj : j ∈ s.jobs) (hk : j.kind ≠ .explicit)
    (hp : j.phase = .queued) : Passage s (.begin j.id) (s.beginAutomatic j) := by
  have hidle : j.isAutosaving = false := by simp [Job.isAutosaving, hp]
  unfold beginAutomatic
  split
  -- another one is under way, so this one is skipped
  · exact .ends hj rfl hidle (.inr rfl) (.refl s) rfl
  · next hfree =>
    have hfree : s.inFlight = false := Bool.eq_false_iff.mpr hfree
    split
    · next error herror =>
      exact .ends hj rfl hidle (.inr (untaken_hasNames herror)) (.refl s) rfl
    · exact .ends hj rfl hidle (.inr rfl) (.refl s) rfl
    · split
      · exact .strands hj rfl hk hidle hfree ⟨rfl, rfl, rfl⟩
      · exact .launches hj rfl hk hidle hfree ⟨rfl, rfl, rfl⟩ rfl

/-- An explicit save ends or goes on. The guard stays as it is in either case. -/
theorem passage_beginExplicit (hj : j ∈ s.jobs) (hk : j.kind = .explicit) :
    Passage s (.begin j.id) (s.beginExplicit j) := by
  have hidle : j.isAutosaving = false := by simp [Job.isAutosaving, hk]
  have hl : Level s s.inFlight { s with timer := s.timer.cancel } := ⟨rfl, rfl, rfl⟩
  have hends : ∀ result told, Ongoing told →
      Passage s (.begin j.id) (finish { s with timer := s.timer.cancel } j result told) :=
    fun _ _ hq => .ends hj rfl hidle (.inl hk) hl hq
  -- the save ends at once, or the job moves on to the check or to the storage
  unfold beginExplicit
  simp only
  split
  · exact hends _ _ rfl
  · split <;> exact hends _ _ rfl
  · split
    · exact hends _ _ rfl
    · split
      · split
        · exact .moves hj rfl hk hl rfl
        · exact hends _ _ rfl
      · exact .moves hj rfl hk ⟨rfl, rfl, rfl⟩ ((ongoing_warnOf _).append rfl)

/-- Only a queued job begins. For another one nothing happens. -/
theorem passage_begin (s : Autosaver) (id : Nat) : Passage s (.begin id) (s.begin id) := by
  unfold begin
  split
  · next j hjob =>
    obtain ⟨hj, rfl⟩ := job?_eq_some hjob
    split
    · next hk => exact passage_beginExplicit hj hk
    · next hp hk => exact passage_beginAutomatic hj (by rw [hk]; exact nofun) hp
    · exact .rests (.refl s) rfl
  · exact .rests (.refl s) rfl

/-! ## Answers

The remote check and the storage come to an end. Each of them means something only to a job in the
phase that waits for it. -/

/-- Only an explicit save is checked, so the guard is not concerned. -/
theorem passage_checked (h : s.Orderly) (id : Nat) (answer : CheckAnswer) :
    Passage s (.checked id answer) (s.checked id answer) := by
  unfold checked
  split
  · next j hjob =>
    obtain ⟨hj, rfl⟩ := job?_eq_some hjob
    have hmoves : ∀ d told, j.phase = .checking d → Ongoing told →
        Passage s (.checked j.id answer) (s.issue j d told) :=
      fun d told hp hq => .moves hj rfl (h.checking j hj d hp) ⟨rfl, rfl, rfl⟩ (hq.append rfl)
    have hends : ∀ d result, j.phase = .checking d →
        Passage s (.checked j.id answer) (s.finish j result []) :=
      fun d result hp => .ends hj rfl (by simp [Job.isAutosaving, hp])
        (.inl (h.checking j hj d hp)) (.refl s) rfl
    -- the job waits for this answer, or it is in another phase and nothing happens
    split
    · next d _ hp =>
      split
      · exact hmoves d _ hp (ongoing_warnOf _)
      · exact hends d _ hp
    · next d _ _ hp =>
      exact hmoves d _ hp ((show Ongoing [.log _] from rfl).append (ongoing_warnOf _))
    · next d _ _ hp => exact hends d _ hp
    · next d hp => exact hends d _ hp
    · exact .rests (.refl s) rfl
  · exact .rests (.refl s) rfl

/-- Applying an answer does nothing to jobs, and ends none. -/
theorem level_apply (s : Autosaver) (g : Nat) (r : Receipt) :
    Level s s.inFlight (s.apply g r).1.saver ∧ Ongoing (s.apply g r).1.effects := by
  unfold apply
  split
  · exact ⟨.refl s, rfl⟩
  · cases r with
    | nothing => exact ⟨⟨rfl, rfl, rfl⟩, rfl⟩
    | definition d => exact ⟨⟨rfl, rfl, rfl⟩, Effect.ongoing_logs _⟩
    | other v => exact ⟨⟨rfl, rfl, rfl⟩, rfl⟩

/-- A job ends, and not because the definition could not be taken. -/
inductive Concludes (s : Autosaver) (guard : Bool) (j : Job) : Progress → Prop where
  | intro {u : Autosaver} {result : JobResult} {told : List Effect} :
      Level s guard u → result.isUntaken = false → Ongoing told →
        Concludes s guard j (u.finish j result told)

/-- What has changed before the job ends does not matter as long as it has left the jobs alone. -/
theorem Concludes.of_level {first guard : Bool} {p : Progress} (h : Concludes u guard j p)
    (hl : Level s first u) : Concludes s guard j p := by
  obtain ⟨hl', hr, hq⟩ := h
  exact ⟨hl.trans hl', hr, hq⟩

theorem Concludes.job?_eq_none {guard : Bool} {p : Progress} (h : Concludes s guard j p) :
    p.saver.job? j.id = none := by
  obtain ⟨-, -, -⟩ := h
  exact job?_dropJob_self ..

/-- What is no definition can only be applied in part, which is a failure of the service. -/
theorem concludes_endStored (s : Autosaver) (j : Job) (g : Nat) (r : Receipt) {result : JobResult}
    {told : List Effect} (hr : result.isUntaken = false) (hq : Ongoing told) :
    Concludes s s.inFlight j (s.endStored j g r result told) := by
  obtain ⟨hl, hquiet⟩ := level_apply s g r
  unfold endStored
  split
  · next p happly =>
    rw [happly] at hl hquiet
    exact ⟨hl, hr, hquiet.append hq⟩
  · next p e happly =>
    rw [happly] at hl hquiet
    refine ⟨hl, ?_, hquiet⟩
    unfold apply at happly
    split at happly
    · cases happly
    · cases r <;> cases happly
      rfl

/-- An explicit save ends, whatever the storage answers. -/
theorem concludes_endExplicit (s : Autosaver) (j : Job) (g : Nat) (d : Definition)
    (answer : StorageAnswer) : Concludes s s.inFlight j (s.endExplicit j g d answer) := by
  unfold endExplicit
  split
  · exact concludes_endStored _ _ _ _ rfl rfl
  · split <;> exact ⟨.refl s, rfl, rfl⟩
  · exact ⟨.refl s, rfl, rfl⟩
  · exact ⟨.refl s, rfl, rfl⟩

/-- An automatic save ends, whatever the storage answers, and opens the guard. -/
theorem concludes_endAutomatic (s : Autosaver) (j : Job) (g : Nat) (d : Definition)
    (answer : StorageAnswer) :
    Concludes s false j (s.endAutomatic j g d answer) := by
  have hl : Level s false { s with inFlight := false } := ⟨rfl, rfl, rfl⟩
  unfold endAutomatic
  simp only
  split
  · refine (concludes_endStored _ _ _ _ ?_ ?_).of_level hl <;> rfl
  · split <;> exact ⟨hl, rfl, rfl⟩
  · exact ⟨hl, rfl, rfl⟩
  · exact ⟨hl, rfl, rfl⟩

/-- An answer of the storage ends the job that waits for it. -/
theorem passage_stored (s : Autosaver) (id : Nat) (answer : StorageAnswer) :
    Passage s (.stored id answer) (s.stored id answer) := by
  unfold stored
  split
  · next j hjob =>
    obtain ⟨hj, rfl⟩ := job?_eq_some hjob
    split
    -- what an explicit save does with its answer does not matter here, only that the job ends
    · next g d hp hk =>
      have hc := concludes_endExplicit s j g d answer
      generalize s.endExplicit j g d answer = p at hc
      obtain ⟨hl, hr, hq⟩ := hc
      exact .ends hj rfl (by simp [Job.isAutosaving, hk]) (.inl hk) hl hq
    · next g d _ hp hk =>
      have hc := concludes_endAutomatic s j g d answer
      generalize s.endAutomatic j g d answer = p at hc
      obtain ⟨hl, hr, hq⟩ := hc
      exact .lands hj rfl (by simp [Job.isAutosaving, hk, hp]) hr hl hq
    · exact .rests (.refl s) rfl
  · exact .rests (.refl s) rfl

/-! ## Every step

The remaining actions do nothing to jobs, except for those that queue one. -/

theorem level_trigger (now : Nat) (s : Autosaver) : Level s s.inFlight (s.trigger now) := by
  unfold trigger
  split <;> exact ⟨rfl, rfl, rfl⟩

/-- An edit changes the editor, and may start the timer. -/
theorem level_afterEdit (now : Nat) (s : Autosaver) (e : Editor) (calls : List EditCall) :
    Level s s.inFlight (s.afterEdit now e calls) := by
  have hl : Level s s.inFlight { s with editor := e } := ⟨rfl, rfl, rfl⟩
  unfold afterEdit
  simp only
  split
  · exact hl.trans (level_trigger now _)
  · exact hl

/-- **Every step** is one of the passages. -/
theorem passage_step (h : s.Orderly) (now : Nat) (a : Action) : Passage s a (s.step now a) := by
  cases a with
  | edit c => exact .rests (level_afterEdit ..) (Effect.ongoing_logs _)
  | adopt d => exact .rests ⟨rfl, rfl, rfl⟩ (Effect.ongoing_logs _)
  | trigger => exact .rests (level_trigger now s) rfl
  | close => exact .rests ⟨rfl, rfl, rfl⟩ rfl
  | timer =>
    unfold step
    simp only
    split
    · exact .queues (.automatic true) rfl ⟨rfl, rfl, rfl⟩
    · exact .rests (.refl s) rfl
  | request kind => exact .queues kind rfl (.refl s)
  | begin id => exact passage_begin s id
  | checked id answer => exact passage_checked h id answer
  | stored id answer => exact passage_stored s id answer

/-- **Others stay.** A job that has been asked for is left alone by actions not about it. -/
theorem Passage.job?_eq {p : Progress} (h : Passage s a p) (ha : a.job? ≠ some id)
    (hid : id < s.nextJob) : p.saver.job? id = s.job? id := by
  have hne : ∀ {j : Job}, a.job? = some j.id → j.id ≠ id :=
    fun hj heq => ha (heq ▸ hj)
  cases h with
  | rests hl => exact hl.job?_eq id
  | queues kind _ hl => exact (job?_request kind (hl.nextJob ▸ hid)).trans (hl.job?_eq id)
  | moves _ hj _ hl => exact (job?_moveTo_of_ne (hne hj) _).trans (hl.job?_eq id)
  | ends _ hj _ _ hl => exact (job?_dropJob_of_ne (hne hj)).trans (hl.job?_eq id)
  | launches _ hj _ _ _ hl => exact (job?_moveTo_of_ne (hne hj) _).trans (hl.job?_eq id)
  | strands _ hj _ _ _ hl => exact (job?_dropJob_of_ne (hne hj)).trans (hl.job?_eq id)
  | lands _ hj _ _ hl => exact (job?_dropJob_of_ne (hne hj)).trans (hl.job?_eq id)

/-- A job stays as it is when an action about it comes to nothing. -/
theorem job?_step_of_rests (ho : s.Orderly) (hjob : s.job? id = some j) (now : Nat)
    (h : a.job? = some id → s.step now a = ⟨s, []⟩) : (s.step now a).saver.job? id = some j := by
  by_cases hid : a.job? = some id
  · rw [h hid]
    exact hjob
  · obtain ⟨hmem, rfl⟩ := job?_eq_some hjob
    exact ((passage_step ho now a).job?_eq hid (ho.lt j hmem)).trans hjob

/-! ## Order

What `Orderly` asks of the jobs is checked for each way in which one of them can go on. -/

theorem Orderly.level {guard : Bool} (h : s.Orderly) (hl : Level s guard u) : u.Orderly where
  nodup := by rw [hl.jobs]; exact h.nodup
  lt := by rw [hl.jobs, hl.nextJob]; exact h.lt
  checking := by rw [hl.jobs]; exact h.checking

/-- **Every step** keeps the jobs in order. -/
theorem Orderly.step (h : s.Orderly) (now : Nat) (a : Action) : (s.step now a).saver.Orderly := by
  have hp := passage_step h now a
  generalize s.step now a = p at hp
  cases hp with
  | rests hl => exact h.level hl
  | queues kind _ hl => exact (h.level hl).request kind
  | moves hj _ hk hl => exact (h.level hl).moveTo (hl.jobs ▸ hj) (.inl hk)
  | ends _ _ _ _ hl => exact (h.level hl).dropJob _
  | launches hj _ _ _ _ hl => exact (h.level hl).moveTo (hl.jobs ▸ hj) (.inr ⟨_, _, rfl⟩)
  | strands _ _ _ _ _ hl => exact (h.level hl).dropJob _
  | lands _ _ _ _ hl => exact (h.level hl).dropJob _

/-! ## New jobs

Numbers are given out one after the other, so the jobs that a step has queued are those whose numbers
had not been given out before it. This tells them from the others without a look at the action. -/

/-- The jobs that a step has queued. -/
def queued (s : Autosaver) (now : Nat) (a : Action) : List Job :=
  (s.step now a).saver.jobs.filter fun j => s.nextJob ≤ j.id

/-- A number is given out only by an action that queues a job. -/
theorem Passage.nextJob_eq {p : Progress} (h : Passage s a p) (ha : a.queues? = none) :
    p.saver.nextJob = s.nextJob := by
  cases h with
  | rests hl => exact hl.nextJob
  | queues kind hkind =>
    rw [ha] at hkind
    cases hkind
  | moves _ _ _ hl => exact hl.nextJob
  | ends _ _ _ _ hl => exact hl.nextJob
  | launches _ _ _ _ _ hl => exact hl.nextJob
  | strands _ _ _ _ _ hl => exact hl.nextJob
  | lands _ _ _ _ hl => exact hl.nextJob

/-- An action that may queue nothing has queued nothing. -/
theorem Orderly.queued_eq_nil (h : s.Orderly) (now : Nat) (ha : a.queues? = none) :
    s.queued now a = [] := by
  have hnext := (passage_step h now a).nextJob_eq ha
  refine List.filter_eq_nil_iff.mpr fun j hj => ?_
  have hlt : j.id < s.nextJob := hnext ▸ (h.step now a).lt j hj
  simpa using hlt

/-- A job that has been put behind the others is what has been queued. -/
theorem Orderly.queued_of_append (h : s.Orderly) {now : Nat} {kind : JobKind} {phase : Phase}
    (hjobs : (s.step now a).saver.jobs = s.jobs ++ [⟨s.nextJob, kind, phase⟩]) :
    s.queued now a = [⟨s.nextJob, kind, phase⟩] := by
  have hold : s.jobs.filter (fun j => s.nextJob ≤ j.id) = [] :=
    List.filter_eq_nil_iff.mpr fun j hj => by simpa using h.lt j hj
  rw [queued, hjobs, List.filter_append, hold]
  simp

end Autosaver

end DynamicForm

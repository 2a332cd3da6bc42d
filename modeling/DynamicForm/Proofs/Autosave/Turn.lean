import DynamicForm.Proofs.Autosave.Jobs

/-!
# What a step does to the jobs

An autosaver has many steps, but few things that can happen to a job: it is queued, it asks for the
remote check, it asks for the storage, it ends, or its answer is applied. `Autosaver.Turn` lists
them, and says of each what else may change.

A turn is a coarser view of a step than the branches of the program, and a different one from the
view of the guard: it tells apart what is asked of the services, and what of the answers is applied.
The relation `Steady` has to leave one thing open that one would not expect. A save may draw a
number and then fail to take the definition, so the counter of an autosaver can be ahead of all
numbers that anyone has ever asked the storage under.

- `Autosaver.turn_step`: every step is one of them.
- `Autosaver.Steady` is the frame: what is kept for the jobs is the same.
- `Effect.Quiet` says that nothing has been asked of a service.
-/

namespace DynamicForm

/-! ## Requests among the effects

Effects are a list, and the requests to services are those that are found in it. -/

namespace Effect

/-- The job for which the storage is asked. -/
def stores? : Effect → Option Nat
  | store job _ => some job
  | _ => none

/-- The job for which the remote check is asked. -/
def checks? : Effect → Option Nat
  | check job _ => some job
  | _ => none

/-- No service is asked for anything. -/
structure Quiet (effects : List Effect) : Prop where
  stores : effects.filterMap stores? = []
  checks : effects.filterMap checks? = []

theorem Quiet.nil : Quiet [] := ⟨rfl, rfl⟩

theorem Quiet.append {before after : List Effect} (h₁ : Quiet before) (h₂ : Quiet after) :
    Quiet (before ++ after) where
  stores := by rw [List.filterMap_append, h₁.stores, h₂.stores, List.nil_append]
  checks := by rw [List.filterMap_append, h₁.checks, h₂.checks, List.nil_append]

theorem Quiet.logs (notices : List Notice) : Quiet (notices.map log) where
  stores := by simp [stores?]
  checks := by simp [checks?]

end Effect

/-- What has been stored last, once an answer has come. -/
def Receipt.over (old : Receipt) : Receipt → Receipt
  | nothing => old
  | r => r

namespace Autosaver

open Effect (Quiet)

/-- Two autosavers with the same jobs and the same record of answers. Generations may have been
drawn for nothing. -/
structure Steady (s t : Autosaver) : Prop where
  jobs : t.jobs = s.jobs
  nextJob : t.nextJob = s.nextJob
  checksRemotely : t.checksRemotely = s.checksRemotely
  applied : t.applied = s.applied
  lastSaved : t.lastSaved = s.lastSaved
  generation : s.generation ≤ t.generation

/-- What a step does to the jobs. -/
inductive Turn (s : Autosaver) : Action → Progress → Prop where
  /-- Nothing happens to a job. -/
  | rests {a : Action} {t : Autosaver} {told : List Effect} :
      Steady s t → Quiet told → Turn s a ⟨t, told⟩
  | queues {a : Action} {t : Autosaver} (kind : JobKind) :
      Steady (s.request kind).2 t → Turn s a ⟨t, []⟩
  /-- A job ends, and no answer is applied. -/
  | ends {a : Action} {j : Job} {t : Autosaver} {told : List Effect} :
      Steady s t → Quiet told → Turn s a ⟨t.dropJob j.id, told⟩
  /-- A job takes the definition from the editor and has it checked. -/
  | asks {j : Job} {t : Autosaver} {d : Definition} : j ∈ s.jobs → j.phase = .queued →
      s.checksRemotely = true → s.editor.snapshot = .ok d → Steady s t →
      Turn s (.begin j.id) ⟨t.moveTo j.id (.checking d), [.check j.id d]⟩
  /-- A job takes the definition from the editor and has it stored. -/
  | begins {j : Job} {t : Autosaver} {d : Definition} {told : List Effect} : j ∈ s.jobs →
      j.phase = .queued → s.editor.snapshot = .ok d → Steady s t → Quiet told →
      Turn s (.begin j.id) (t.issue j d told)
  /-- A job has a definition stored that has been checked. -/
  | resumes {j : Job} {d : Definition} {answer : CheckAnswer} {told : List Effect} : j ∈ s.jobs →
      j.phase = .checking d → Quiet told → Turn s (.checked j.id answer) (s.issue j d told)
  /-- A job ends, and its answer is applied. -/
  | hears {j : Job} {g : Nat} {d : Definition} {r : Receipt} {t : Autosaver} {told : List Effect} :
      j ∈ s.jobs → j.phase = .saving g d → s.applied < g →
      Steady { s with applied := g, lastSaved := s.lastSaved.over r } t → Quiet told →
      Turn s (.stored j.id (.stored r)) ⟨t.dropJob j.id, told⟩

variable {s t : Autosaver}

theorem Steady.refl (s : Autosaver) : Steady s s := ⟨rfl, rfl, rfl, rfl, rfl, Nat.le_refl _⟩

theorem Steady.trans {u : Autosaver} (h₁ : Steady s t) (h₂ : Steady t u) : Steady s u where
  jobs := h₂.jobs.trans h₁.jobs
  nextJob := h₂.nextJob.trans h₁.nextJob
  checksRemotely := h₂.checksRemotely.trans h₁.checksRemotely
  applied := h₂.applied.trans h₁.applied
  lastSaved := h₂.lastSaved.trans h₁.lastSaved
  generation := Nat.le_trans h₁.generation h₂.generation

/-- The same answer is recorded by both. -/
theorem Steady.over {u : Autosaver} {g : Nat} {r : Receipt} (h : Steady s t)
    (hu : Steady { t with applied := g, lastSaved := t.lastSaved.over r } u) :
    Steady { s with applied := g, lastSaved := s.lastSaved.over r } u := by
  have hboth : Steady { s with applied := g, lastSaved := s.lastSaved.over r }
      { t with applied := g, lastSaved := t.lastSaved.over r } :=
    ⟨h.jobs, h.nextJob, h.checksRemotely, rfl, congrArg (Receipt.over · r) h.lastSaved,
      h.generation⟩
  exact hboth.trans hu

/-! ## Ending

Most ways through the program end the job that they are about, with a notification or a notice on
the way. -/

theorem quiet_crash (s : Autosaver) (e : JobFailure) : Quiet (s.crash e) := ⟨rfl, rfl⟩

theorem quiet_finish (s : Autosaver) (j : Job) (result : JobResult) {before : List Effect}
    (h : Quiet before) : Quiet (s.finish j result before).effects := by
  refine (h.append ⟨rfl, rfl⟩).append ?_
  split
  · exact quiet_crash s _
  · exact .nil

theorem Turn.finish {a : Action} {j : Job} (result : JobResult) {before : List Effect}
    (h : Steady s t) (hq : Quiet before) : Turn s a (t.finish j result before) :=
  .ends h (quiet_finish t j result hq)

theorem quiet_warnOf (problems : List String) : Quiet (warnOf problems) := by
  unfold warnOf
  split
  · exact .nil
  · exact ⟨rfl, rfl⟩

/-! ## Beginning

A queued job takes the definition from the editor, or ends before it can. -/

/-- An automatic save takes the definition and asks for its storage in one step. -/
theorem turn_beginAutomatic {j : Job} (hj : j ∈ s.jobs) (hp : j.phase = .queued) :
    Turn s (.begin j.id) (s.beginAutomatic j) := by
  unfold beginAutomatic
  split
  -- another one is under way
  · exact .finish _ (.refl s) .nil
  · split
    · exact .finish _ (.refl s) .nil
    · exact .finish _ (.refl s) .nil
    · split
      · -- the generation is drawn before the definition is taken
        exact .finish _ ⟨rfl, rfl, rfl, rfl, rfl, Nat.le_succ _⟩ .nil
      · next d hd =>
        exact .begins hj hp hd ⟨rfl, rfl, rfl, rfl, rfl, Nat.le_refl _⟩ .nil

/-- An explicit save takes the definition and has it checked, or asks for its storage at once. -/
theorem turn_beginExplicit {j : Job} (hj : j ∈ s.jobs) (hp : j.phase = .queued) :
    Turn s (.begin j.id) (s.beginExplicit j) := by
  have hs : Steady s { s with timer := s.timer.cancel } :=
    ⟨rfl, rfl, rfl, rfl, rfl, Nat.le_refl _⟩
  -- the timer has been cancelled, which is nothing that anybody is asked for
  unfold beginExplicit
  simp only
  split
  · exact .finish _ hs .nil
  · split
    · exact .finish _ hs ⟨rfl, rfl⟩
    · exact .finish _ hs ⟨rfl, rfl⟩
    · exact .finish _ hs ⟨rfl, rfl⟩
  · split
    · exact .finish _ hs .nil
    · next d hd =>
      split
      · next hr =>
        split
        · exact .asks hj hp hr hd hs
        · exact .finish _ hs .nil
      · exact .begins hj hp hd hs (quiet_warnOf _)

theorem turn_begin (s : Autosaver) (id : Nat) : Turn s (.begin id) (s.begin id) := by
  unfold begin
  split
  · next j hj =>
    obtain ⟨hmem, rfl⟩ := job?_eq_some hj
    split
    · next hp _ => exact turn_beginExplicit hmem hp
    · next hp _ => exact turn_beginAutomatic hmem hp
    · exact .rests (.refl s) .nil
  · exact .rests (.refl s) .nil

/-! ## Answers

Here the definition is the one that was taken before, and it is not taken again. -/

/-- A job whose check allows it asks for the storage of the definition that has been checked. -/
theorem turn_checked (s : Autosaver) (id : Nat) (answer : CheckAnswer) :
    Turn s (.checked id answer) (s.checked id answer) := by
  unfold checked
  split
  · next j hj =>
    obtain ⟨hmem, rfl⟩ := job?_eq_some hj
    split
    · next hp =>
      split
      · exact .resumes hmem hp (quiet_warnOf _)
      · exact .finish _ (.refl s) .nil
    · next hp =>
      exact .resumes hmem hp ((show Quiet [_] from ⟨rfl, rfl⟩).append (quiet_warnOf _))
    · exact .finish _ (.refl s) .nil
    · exact .finish _ (.refl s) .nil
    · exact .rests (.refl s) .nil
  · exact .rests (.refl s) .nil

/-- **Applying.** An answer that is not later than one applied before changes nothing. -/
theorem apply_cases (s : Autosaver) (g : Nat) (r : Receipt) :
    (g ≤ s.applied ∧ (s.apply g r).1.saver = s ∨
      s.applied < g ∧
        Steady { s with applied := g, lastSaved := s.lastSaved.over r } (s.apply g r).1.saver) ∧
    Quiet (s.apply g r).1.effects := by
  unfold apply
  split
  · next hle => exact ⟨.inl ⟨hle, rfl⟩, rfl, rfl⟩
  · next hlt =>
    have hlt' : s.applied < g := Nat.lt_of_not_le hlt
    cases r with
    | nothing => exact ⟨.inr ⟨hlt', .refl _⟩, .nil⟩
    | definition d =>
      exact ⟨.inr ⟨hlt', ⟨rfl, rfl, rfl, rfl, rfl, Nat.le_refl _⟩⟩, .logs _⟩
    | other v => exact ⟨.inr ⟨hlt', .refl _⟩, .nil⟩

/-- A job ends with an answer of the storage, which is applied unless it is stale. -/
theorem turn_endStored {j : Job} {g : Nat} {d : Definition} {r : Receipt} (hj : j ∈ s.jobs)
    (hp : j.phase = .saving g d) (h : Steady s t) (result : JobResult) {told : List Effect}
    (hq : Quiet told) : Turn s (.stored j.id (.stored r)) (t.endStored j g r result told) := by
  obtain ⟨hcases, hquiet⟩ := apply_cases t g r
  unfold endStored
  generalize t.apply g r = applied at hcases hquiet
  rcases applied with ⟨p, _ | e⟩
  all_goals
    rcases hcases with ⟨-, rfl⟩ | ⟨hlt, happlied⟩
  · exact .finish _ h (hquiet.append hq)
  · exact .hears hj hp (h.applied ▸ hlt) (h.over happlied) (quiet_finish _ _ _ (hquiet.append hq))
  · exact .finish _ h hquiet
  · exact .hears hj hp (h.applied ▸ hlt) (h.over happlied) (quiet_finish _ _ _ hquiet)

/-- What an automatic save does with an answer: the guard is opened, and the rest is as for any
save. -/
theorem turn_endAutomatic {j : Job} {g : Nat} {d : Definition} (hj : j ∈ s.jobs)
    (hp : j.phase = .saving g d) (answer : StorageAnswer) :
    Turn s (.stored j.id answer) (s.endAutomatic j g d answer) := by
  have hs : Steady s { s with inFlight := false } := ⟨rfl, rfl, rfl, rfl, rfl, Nat.le_refl _⟩
  unfold endAutomatic
  simp only
  split
  · exact turn_endStored hj hp hs _ ⟨rfl, rfl⟩
  · split
    · exact .finish _ hs ⟨rfl, rfl⟩
    · exact .finish _ hs .nil
  · exact .finish _ hs .nil
  · exact .finish _ hs .nil

theorem turn_endExplicit {j : Job} {g : Nat} {d : Definition} (hj : j ∈ s.jobs)
    (hp : j.phase = .saving g d) (answer : StorageAnswer) :
    Turn s (.stored j.id answer) (s.endExplicit j g d answer) := by
  unfold endExplicit
  split
  · exact turn_endStored hj hp (.refl s) _ ⟨rfl, rfl⟩
  · split
    · exact .finish _ (.refl s) ⟨rfl, rfl⟩
    · exact .finish _ (.refl s) .nil
  · exact .finish _ (.refl s) .nil
  · exact .finish _ (.refl s) .nil

/-- An answer of the storage is applied or stale, or there is nobody who waits for it. -/
theorem turn_stored (s : Autosaver) (id : Nat) (answer : StorageAnswer) :
    Turn s (.stored id answer) (s.stored id answer) := by
  unfold stored
  split
  · next j hj =>
    obtain ⟨hmem, rfl⟩ := job?_eq_some hj
    split
    · next hp _ => exact turn_endExplicit hmem hp answer
    · next hp _ => exact turn_endAutomatic hmem hp answer
    · exact .rests (.refl s) .nil
  · exact .rests (.refl s) .nil

/-! ## Every step

Edits, the timer and closing do nothing to the jobs. -/

theorem steady_trigger (now : Nat) (s : Autosaver) : Steady s (s.trigger now) := by
  unfold trigger
  split <;> exact ⟨rfl, rfl, rfl, rfl, rfl, Nat.le_refl _⟩

/-- An edit changes the editor, and may start the timer. -/
theorem steady_afterEdit (now : Nat) (s : Autosaver) (e : Editor) (calls : List EditCall) :
    Steady s (s.afterEdit now e calls) := by
  have hs : Steady s { s with editor := e } := ⟨rfl, rfl, rfl, rfl, rfl, Nat.le_refl _⟩
  unfold afterEdit
  simp only
  split
  · exact hs.trans (steady_trigger now _)
  · exact hs

/-- **Every step** is one of the turns. -/
theorem turn_step (now : Nat) (s : Autosaver) (a : Action) : Turn s a (s.step now a) := by
  cases a with
  | edit c => exact .rests (steady_afterEdit ..) (.logs _)
  | adopt d => exact .rests ⟨rfl, rfl, rfl, rfl, rfl, Nat.le_refl _⟩ (.logs _)
  | trigger => exact .rests (steady_trigger now s) .nil
  | close => exact .rests ⟨rfl, rfl, rfl, rfl, rfl, Nat.le_refl _⟩ .nil
  | timer =>
    unfold step
    simp only
    split
    · exact .queues (.automatic true) ⟨rfl, rfl, rfl, rfl, rfl, Nat.le_refl _⟩
    · exact .rests (.refl s) .nil
  | request kind => exact .queues kind (.refl _)
  | begin job => exact turn_begin s job
  | checked job answer => exact turn_checked s job answer
  | stored job answer => exact turn_stored s job answer

/-- Whether definitions are checked is settled at the start. -/
theorem Turn.checksRemotely_eq {a : Action} {p : Progress} (h : Turn s a p) :
    p.saver.checksRemotely = s.checksRemotely := by
  cases h with
  | rests hs _ => exact hs.checksRemotely
  | queues _ hs => exact hs.checksRemotely
  | ends hs _ => exact hs.checksRemotely
  | asks _ _ _ _ hs => exact hs.checksRemotely
  | begins _ _ _ hs _ => exact hs.checksRemotely
  | resumes => rfl
  | hears _ _ _ hs _ => exact hs.checksRemotely

end Autosaver

end DynamicForm

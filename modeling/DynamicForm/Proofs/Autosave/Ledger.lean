import DynamicForm.Proofs.Autosave.Turn

/-!
# Ledgers of runs

A save takes the definition from the editor, draws a generation number when it asks the storage, and
has its answer applied when that number is higher than all applied before. A `Ledger` writes down
who did each of these things, in order, beside a run of the autosaver; it is read off the actions
and their effects and has no influence on the run.

The autosaver itself remembers only counters: the number drawn last and the number applied last.
That is too little to say in which order things have happened, so the ledger keeps whole lists and
never forgets. Every statement about the order of saves is a statement about these lists, and what
the autosaver does remember is tied to them by an invariant.

- `Ledger.run` is the ledger of a run.
- `Ledger.write_quiet` and the lemmas after it say what each turn adds to the ledger.
- `Filed` ties the ledger to the jobs under way: it knows how far each of them has come.
-/

namespace DynamicForm

/-- A number that a job has drawn. -/
structure Draw where
  job : Nat
  generation : Nat
deriving DecidableEq, Repr

/-- What an onlooker writes down about a run. -/
structure Ledger where
  saver : Autosaver
  /-- The jobs in the order in which they took the definition from the editor. -/
  taken : List Nat := []
  /-- The jobs whose definition the remote check was asked for. -/
  asked : List Nat := []
  /-- The numbers that were drawn when the storage was asked, in order. -/
  drawn : List Draw := []
  /-- The saves whose answers became what was stored last, in the order in which they did. -/
  kept : List (Draw × Receipt) := []

/-- The answer that has become what was stored last, if the action brought one. -/
def Autosaver.heard (before after : Autosaver) : Autosaver.Action → List (Draw × Receipt)
  | .stored _ (.stored .nothing) => []
  | .stored job (.stored r) =>
    if after.applied = before.applied then [] else [(⟨job, after.applied⟩, r)]
  | _ => []

namespace Ledger

open Autosaver (Action Steady forall_jobs_request forall_jobs_moveTo)
open Effect (Quiet)

/-- The ledger of an autosaver that begins to watch an editor. -/
def start (e : Editor) (delay : Option Nat) (checksRemotely : Bool) : Ledger where
  saver := .watch e delay checksRemotely

/-- Writes down what an action leaves behind. Definitions are taken when jobs begin. -/
def write (l : Ledger) (a : Action) (p : Progress) : Ledger :=
  let stores := p.effects.filterMap Effect.stores?
  let checks := p.effects.filterMap Effect.checks?
  { saver := p.saver
    taken := l.taken ++ if a matches .begin _ then checks ++ stores else []
    asked := l.asked ++ checks
    drawn := l.drawn ++ stores.map fun job => ⟨job, p.saver.generation⟩
    kept := l.kept ++ l.saver.heard p.saver a }

/-- Follows one action. -/
def step (now : Nat) (l : Ledger) (a : Action) : Ledger := l.write a (l.saver.step now a)

/-- Follows actions, each at its time. -/
def run (l : Ledger) (actions : List (Nat × Action)) : Ledger :=
  actions.foldl (fun l a => l.step a.1 a.2) l

variable {s t : Autosaver} {l : Ledger} {a : Action} {told : List Effect}

/-! ## What is written down -/

theorem heard_of_applied_eq (h : t.applied = s.applied) (a : Action) : s.heard t a = [] := by
  unfold Autosaver.heard
  split
  · rfl
  · exact if_pos h
  · rfl

/-- When nothing is asked and no answer is applied, there is nothing to write down. -/
theorem write_quiet (hq : Quiet told) (h : t.applied = l.saver.applied) (a : Action) :
    l.write a ⟨t, told⟩ = { l with saver := t } := by
  simp only [write, hq.stores, hq.checks, heard_of_applied_eq h, List.map_nil, List.append_nil,
    ite_self]

/-- A job takes the definition and asks for the remote check; its number comes later. -/
theorem write_ask (h : t.applied = l.saver.applied) (id : Nat) (d : Definition) :
    l.write (.begin id) ⟨t, [.check id d]⟩ =
      { l with saver := t, taken := l.taken ++ [id], asked := l.asked ++ [id] } := by
  simp [write, heard_of_applied_eq h, Effect.stores?, Effect.checks?]

/-- A job takes the definition and asks for the storage in one step. -/
theorem write_begin (hq : Quiet told) (h : t.applied = l.saver.applied) (j : Job)
    (d : Definition) :
    l.write (.begin j.id) (t.issue j d told) =
      { l with saver := (t.issue j d told).saver, taken := l.taken ++ [j.id]
               drawn := l.drawn ++ [⟨j.id, t.generation + 1⟩] } := by
  have happlied : (t.issue j d told).saver.applied = l.saver.applied := h
  simp only [write, heard_of_applied_eq happlied]
  simp [Autosaver.issue, Autosaver.moveTo, hq.stores, hq.checks, Effect.stores?, Effect.checks?]

/-- A job whose check has come to an end asks for the storage of what it took before. -/
theorem write_resume (hq : Quiet told) (j : Job) (answer : CheckAnswer) (d : Definition) :
    l.write (.checked j.id answer) (l.saver.issue j d told) =
      { l with saver := (l.saver.issue j d told).saver
               drawn := l.drawn ++ [⟨j.id, l.saver.generation + 1⟩] } := by
  have happlied : (l.saver.issue j d told).saver.applied = l.saver.applied := rfl
  simp only [write, heard_of_applied_eq happlied]
  simp [Autosaver.issue, Autosaver.moveTo, hq.stores, hq.checks, Effect.stores?, Effect.checks?]

/-- What a receipt that is applied adds to the record of answers. -/
def entry (i : Draw) : Receipt → List (Draw × Receipt)
  | .nothing => []
  | r => [(i, r)]

/-- An answer is applied, and is written down unless the storage gave nothing back. -/
theorem write_hear (hq : Quiet told) (h : t.applied ≠ l.saver.applied) (id : Nat) (r : Receipt) :
    l.write (.stored id (.stored r)) ⟨t, told⟩ =
      { l with saver := t, kept := l.kept ++ entry ⟨id, t.applied⟩ r } := by
  cases r <;> simp [write, hq.stores, hq.checks, Autosaver.heard, entry, h]

/-! ## The jobs and the ledger

A job that is queued has not taken the definition, one that is checked has taken it and drawn no
number, and one that waits for the storage has drawn the number that it waits under. Numbers of jobs
that have not been given out occur nowhere, which keeps the lists free of duplicates when a new job
is written into them. -/

/-- The ledger knows how far every job has come. -/
structure Filed (s : Autosaver) (taken : List Nat) (drawn : List Draw) : Prop where
  jobs_lt : ∀ j ∈ s.jobs, j.id < s.nextJob
  taken_lt : ∀ id ∈ taken, id < s.nextJob
  nodup_taken : taken.Nodup
  nodup_drawn : (drawn.map Draw.job).Nodup
  drawn_taken : ∀ i ∈ drawn, i.job ∈ taken
  queued : ∀ j ∈ s.jobs, j.phase = .queued → j.id ∉ taken
  checking : ∀ j ∈ s.jobs, ∀ d, j.phase = .checking d →
    j.id ∈ taken ∧ ∀ i ∈ drawn, i.job ≠ j.id
  saving : ∀ j ∈ s.jobs, ∀ g d, j.phase = .saving g d → ⟨j.id, g⟩ ∈ drawn

variable {taken : List Nat} {drawn : List Draw} {j : Job} {d : Definition}

/-- In the beginning there are no jobs and nothing has been written down. -/
theorem Filed.start (e : Editor) (delay : Option Nat) (checksRemotely : Bool) :
    Filed (.watch e delay checksRemotely) [] [] where
  jobs_lt := List.forall_mem_nil _
  taken_lt := List.forall_mem_nil _
  nodup_taken := List.nodup_nil
  nodup_drawn := List.nodup_nil
  drawn_taken := List.forall_mem_nil _
  queued := List.forall_mem_nil _
  checking := List.forall_mem_nil _
  saving := List.forall_mem_nil _

/-- The lists stay true of an autosaver with the same jobs. -/
theorem Filed.steady (h : Filed s taken drawn) (hs : Steady s t) : Filed t taken drawn where
  jobs_lt := by rw [hs.jobs, hs.nextJob]; exact h.jobs_lt
  taken_lt := by rw [hs.nextJob]; exact h.taken_lt
  nodup_taken := h.nodup_taken
  nodup_drawn := h.nodup_drawn
  drawn_taken := h.drawn_taken
  queued := by rw [hs.jobs]; exact h.queued
  checking := by rw [hs.jobs]; exact h.checking
  saving := by rw [hs.jobs]; exact h.saving

/-- A job may be forgotten; the lists go on to mention it. -/
theorem Filed.drop (h : Filed s taken drawn) (id : Nat) : Filed (s.dropJob id) taken drawn where
  jobs_lt := Autosaver.forall_jobs_dropJob h.jobs_lt
  taken_lt := h.taken_lt
  nodup_taken := h.nodup_taken
  nodup_drawn := h.nodup_drawn
  drawn_taken := h.drawn_taken
  queued := Autosaver.forall_jobs_dropJob h.queued
  checking := Autosaver.forall_jobs_dropJob h.checking
  saving := Autosaver.forall_jobs_dropJob h.saving

theorem Filed.request (h : Filed s taken drawn) (kind : JobKind) :
    Filed (s.request kind).2 taken drawn where
  jobs_lt := forall_jobs_request (fun j hj => Nat.lt_succ_of_lt (h.jobs_lt j hj))
    (Nat.lt_succ_self _)
  taken_lt id hid := Nat.lt_succ_of_lt (h.taken_lt id hid)
  nodup_taken := h.nodup_taken
  nodup_drawn := h.nodup_drawn
  drawn_taken := h.drawn_taken
  queued := forall_jobs_request h.queued fun _ hmem => Nat.lt_irrefl _ (h.taken_lt _ hmem)
  checking := forall_jobs_request h.checking fun _ hp => by cases hp
  saving := forall_jobs_request h.saving fun _ _ hp => by cases hp

theorem Filed.jobs_lt_moveTo (h : Filed s taken drawn) (hj : j ∈ s.jobs) (phase : Phase) :
    ∀ i ∈ (s.moveTo j.id phase).jobs, i.id < s.nextJob :=
  forall_jobs_moveTo (fun _ hid _ => hid ▸ h.jobs_lt j hj) fun i hi _ => h.jobs_lt i hi

/-- A job takes the definition. -/
theorem Filed.take (h : Filed s taken drawn) (hj : j ∈ s.jobs) (hp : j.phase = .queued)
    (d : Definition) : Filed (s.moveTo j.id (.checking d)) (taken ++ [j.id]) drawn where
  jobs_lt := h.jobs_lt_moveTo hj _
  taken_lt := List.forall_mem_append.mpr
    ⟨h.taken_lt, List.forall_mem_singleton.mpr (h.jobs_lt j hj)⟩
  -- a queued job has taken no snapshot yet
  nodup_taken := by
    rw [← List.concat_eq_append]
    exact h.nodup_taken.concat (h.queued j hj hp)
  nodup_drawn := h.nodup_drawn
  drawn_taken i hi := List.mem_append_left _ (h.drawn_taken i hi)
  queued := by
    refine forall_jobs_moveTo (fun i _ hphase hip => ?_) fun i hi hne hip => ?_
    · rw [hphase] at hip
      cases hip
    · simpa [hne] using h.queued i hi hip
  -- the job that moves on has just taken its snapshot, and has drawn nothing
  checking := by
    refine forall_jobs_moveTo (fun i hid _ e _ => ?_) fun i hi _ e hip => ?_
    · rw [hid]
      refine ⟨List.mem_append_right _ List.mem_cons_self, fun k hk heq => ?_⟩
      exact h.queued j hj hp (heq ▸ h.drawn_taken k hk)
    · obtain ⟨htaken, hdrawn⟩ := h.checking i hi e hip
      exact ⟨List.mem_append_left _ htaken, hdrawn⟩
  saving := by
    refine forall_jobs_moveTo (fun i _ hphase g e hip => ?_) fun i hi _ => h.saving i hi
    rw [hphase] at hip
    cases hip

/-- A job that has taken the definition draws a number. -/
theorem Filed.draw (h : Filed s taken drawn) (hj : j ∈ s.jobs) (hp : j.phase = .checking d)
    (g : Nat) : Filed (s.moveTo j.id (.saving g d)) taken (drawn ++ [⟨j.id, g⟩]) where
  jobs_lt := h.jobs_lt_moveTo hj _
  taken_lt := h.taken_lt
  nodup_taken := h.nodup_taken
  -- a job that waits for the check has not drawn a number yet
  nodup_drawn := by
    rw [List.map_append, List.map_singleton, ← List.concat_eq_append]
    refine h.nodup_drawn.concat fun hmem => ?_
    obtain ⟨i, hi, hid⟩ := List.mem_map.mp hmem
    exact (h.checking j hj d hp).2 i hi hid
  drawn_taken := List.forall_mem_append.mpr
    ⟨h.drawn_taken, List.forall_mem_singleton.mpr (h.checking j hj d hp).1⟩
  queued := by
    refine forall_jobs_moveTo (fun i _ hphase hip => ?_) fun i hi _ => h.queued i hi
    rw [hphase] at hip
    cases hip
  checking := by
    refine forall_jobs_moveTo (fun i _ hphase e hip => ?_) fun i hi hne e hip => ?_
    · rw [hphase] at hip
      cases hip
    · obtain ⟨htaken, hdrawn⟩ := h.checking i hi e hip
      exact ⟨htaken, List.forall_mem_append.mpr
        ⟨hdrawn, List.forall_mem_singleton.mpr (Ne.symm hne)⟩⟩
  -- the number that a job draws is the one that is filed for it
  saving := by
    refine forall_jobs_moveTo (fun i hid hphase g' e hip => ?_) fun i hi _ g' e hip => ?_
    · rw [hphase] at hip
      obtain ⟨rfl, -⟩ := Phase.saving.inj hip
      rw [hid]
      exact List.mem_append_right _ List.mem_cons_self
    · exact List.mem_append_left _ (h.saving i hi g' e hip)

/-- A job takes the definition and draws a number at once. -/
theorem Filed.takeAndDraw (h : Filed s taken drawn) (hj : j ∈ s.jobs) (hp : j.phase = .queued)
    (g : Nat) (d : Definition) :
    Filed (s.moveTo j.id (.saving g d)) (taken ++ [j.id]) (drawn ++ [⟨j.id, g⟩]) := by
  have hmem : { j with phase := .checking d } ∈ (s.moveTo j.id (.checking d)).jobs :=
    List.mem_map.mpr ⟨j, hj, if_pos rfl⟩
  have hdrawn := (h.take hj hp d).draw hmem rfl g
  rwa [Autosaver.moveTo_moveTo] at hdrawn

end Ledger

end DynamicForm

import DynamicForm.Proofs.Autosave.Latest

/-!
# Automatic saves

There is no second automatic save while one waits for the storage. A save that the timer asks for
stores what the editor holds when the storage is asked, and that has a name, a key and an identity:
the names are looked at when the save begins, and the identity was there when the timer was started
and is never lost.

Whether a save waits is not asked of the autosaver. The list `waiting` is kept from outside: a job
enters it when the storage is asked for it and leaves it when the storage answers, whatever the flag
`inFlight` says at the time. That the flag is raised whenever the list is not empty is then
something to be proved, and it is the half of the invariant from which the exclusion follows. The
other half is about identities: the timer is only started for a stored form, a stored form stays
stored, and so a save that the timer asks for finds an identity when it begins.

- `Traffic` writes down which automatic saves wait for the storage.
- `Calm` is the frame of the guards: what a step may change without doing harm.
- `Traffic.Sound` is the invariant of all runs, with a lemma for every way in which a job goes on;
  `Traffic.Sound.run` is the induction.
- `Traffic.run_exclusive` says what holds of every run.
-/

namespace DynamicForm

open Autosaver (Action)
open Effect (Quiet)

/-- Whether an action is the answer of the storage to a job. -/
def Autosaver.Action.answers (id : Nat) : Action → Bool
  | .stored job _ => job == id
  | _ => false

/-- The automatic saves among the jobs for which the storage is asked. -/
def Autosaver.autosaves (s : Autosaver) (told : List Effect) : List Nat :=
  (told.filterMap Effect.stores?).filter fun id => (s.job? id).any fun j => j.kind ≠ .explicit

/-- An autosaver, with the automatic saves for which the storage has been asked and has not
answered. -/
structure Traffic where
  saver : Autosaver
  waiting : List Nat := []

namespace Traffic

/-- Writes down what an action leaves behind. -/
def write (t : Traffic) (a : Action) (p : Progress) : Traffic where
  saver := p.saver
  waiting := (t.waiting.filter fun id => !a.answers id) ++ t.saver.autosaves p.effects

/-- Follows one action. -/
def step (now : Nat) (t : Traffic) (a : Action) : Traffic := t.write a (t.saver.step now a)

/-- Follows actions, each at its time. -/
def run (t : Traffic) (actions : List (Nat × Action)) : Traffic :=
  actions.foldl (fun t a => t.step a.1 a.2) t

end Traffic

/-! ## The guards

Most of what an action does cannot disturb the invariant, because it leaves the jobs alone and moves
the guards in one direction only. `Calm` says this of two autosavers. It is a preorder, so an action
that does several such things in a row needs no argument of its own. -/

namespace Autosaver

/-- What may change at any time: nothing happens to a job, an automatic save that is under way
stays so, an identity stays, and the timer is started for a stored form only. -/
structure Calm (s u : Autosaver) : Prop where
  jobs : u.jobs = s.jobs
  nextJob : u.nextJob = s.nextJob
  inFlight : s.inFlight → u.inFlight
  stored : s.editor.isStored → u.editor.isStored
  armed : u.timer.pending → s.timer.pending ∨ u.editor.isStored

variable {s u : Autosaver} {told : List Effect}

theorem Calm.refl (s : Autosaver) : Calm s s := ⟨rfl, rfl, id, id, .inl⟩

/-- One harmless change after the other is harmless. If the timer runs in the end, it ran in between
or was started then, for a form that was stored and still is. -/
theorem Calm.trans {v : Autosaver} (h₁ : Calm s u) (h₂ : Calm u v) : Calm s v where
  jobs := h₂.jobs.trans h₁.jobs
  nextJob := h₂.nextJob.trans h₁.nextJob
  inFlight h := h₂.inFlight (h₁.inFlight h)
  stored h := h₂.stored (h₁.stored h)
  armed h := (h₂.armed h).elim (fun h => (h₁.armed h).imp_right h₂.stored) .inr

theorem Calm.drop (h : Calm s u) (id : Nat) : Calm (s.dropJob id) (u.dropJob id) :=
  { h with jobs := congrArg (List.filter _) h.jobs }

/-- An identity is replaced by an answer of the storage, but never taken away. -/
theorem isStored_applySaved (e : Editor) (d : Definition) (h : e.isStored) :
    (e.applySaved d).1.isStored := by
  unfold Editor.isStored at h ⊢
  rw [Editor.applySaved_formId, Option.isSome_or, h, Bool.or_true]

/-- A trigger starts the timer, but for a stored form only. -/
theorem calm_trigger (now : Nat) (s : Autosaver) : Calm s (s.trigger now) := by
  unfold trigger
  split
  · exact .refl s
  · next h =>
    refine ⟨rfl, rfl, id, id, fun _ => .inr ?_⟩
    simp only [Bool.or_eq_true, Bool.not_eq_true', not_or, Bool.not_eq_false] at h
    exact h.2

/-- An edit changes the editor but not its identity, and may trigger the timer. -/
theorem calm_edit (now : Nat) (s : Autosaver) (c : Command) :
    Calm s (s.step now (.edit c)).saver := by
  have hstored : (s.editor.perform c).editor.isStored = s.editor.isStored :=
    congrArg Option.isSome (Editor.perform_formId s.editor c)
  have hedited : Calm s { s with editor := (s.editor.perform c).editor } :=
    ⟨rfl, rfl, id, fun h => hstored.trans h, .inl⟩
  unfold step afterEdit
  simp only
  split
  · exact hedited.trans (calm_trigger now _)
  · exact hedited

/-- An answer of the storage may bring an identity; it touches no job. -/
theorem calm_apply (s : Autosaver) (g : Nat) (r : Receipt) : Calm s (s.apply g r).1.saver := by
  unfold apply
  split
  · exact .refl s
  · cases r with
    | nothing => exact ⟨rfl, rfl, id, id, .inl⟩
    | definition d => exact ⟨rfl, rfl, id, isStored_applySaved s.editor d, .inl⟩
    | other v => exact ⟨rfl, rfl, id, id, .inl⟩

/-! ## How a job goes on

The functions that carry a job on have many branches, and most of them differ only in what they tell
the user. Here they are sorted by what they do to the job, so that the invariant has to be proved of
three ways in which a job goes on, and not of every branch. -/

/-- A job ends. -/
inductive Ends (s : Autosaver) (j : Job) : Progress → Prop where
  | intro {u : Autosaver} {result : JobResult} {told : List Effect} :
      Calm s u → Quiet told → Ends s j (u.finish j result told)

/-- An explicit save ends, or asks for the remote check or the storage. -/
inductive Proceeds (s : Autosaver) (j : Job) : Progress → Prop where
  | ends {p : Progress} : Ends s j p → Proceeds s j p
  | checks {u : Autosaver} {d : Definition} :
      Calm s u → Proceeds s j ⟨u.moveTo j.id (.checking d), [.check j.id d]⟩
  | stores {u : Autosaver} {d : Definition} {told : List Effect} :
      Calm s u → Quiet told → Proceeds s j (u.issue j d told)

/-- **An automatic save** asks the storage only when no other waits for it, there are names, and the
definition can be taken; otherwise it ends. -/
theorem beginAutomatic_cases (s : Autosaver) (j : Job) :
    Ends s j (s.beginAutomatic j) ∨
      ∃ d, s.inFlight = false ∧ s.editor.hasNames = .ok true ∧ s.editor.snapshot = .ok d ∧
        s.beginAutomatic j = { s with inFlight := true }.issue j d [] := by
  unfold beginAutomatic
  split
  · exact .inl ⟨.refl s, .nil⟩
  · next hfree =>
    split
    · exact .inl ⟨.refl s, .nil⟩
    · exact .inl ⟨.refl s, .nil⟩
    · next hnames =>
      split
      · -- what cannot be taken leaves the guard closed
        exact .inl ⟨⟨rfl, rfl, fun _ => rfl, id, .inl⟩, .nil⟩
      · next d hd => exact .inr ⟨d, Bool.eq_false_iff.mpr hfree, hnames, hd, rfl⟩

/-- An explicit save is not held up by an automatic one: it looks at the names and the definition,
and then asks for the check or the storage. -/
theorem proceeds_beginExplicit (s : Autosaver) (j : Job) : Proceeds s j (s.beginExplicit j) := by
  have hc : Calm s { s with timer := s.timer.cancel } := ⟨rfl, rfl, id, id, nofun⟩
  unfold beginExplicit
  simp only
  split
  · exact .ends ⟨hc, .nil⟩
  · split <;> exact .ends ⟨hc, ⟨rfl, rfl⟩⟩
  · split
    · exact .ends ⟨hc, .nil⟩
    · split
      · split
        · exact .checks hc
        · exact .ends ⟨hc, .nil⟩
      · exact .stores hc (quiet_warnOf _)

/-- However the answer is applied, the job ends with it. -/
theorem ends_endStored (j : Job) (g : Nat) (r : Receipt) (result : JobResult) (hc : Calm s u)
    (hq : Quiet told) : Ends s j (u.endStored j g r result told) := by
  have happlied := calm_apply u g r
  have hquiet := (apply_cases u g r).2
  unfold endStored
  generalize u.apply g r = applied at happlied hquiet
  rcases applied with ⟨p, _ | e⟩
  · exact ⟨hc.trans happlied, hquiet.append hq⟩
  · exact ⟨hc.trans happlied, hquiet⟩

/-- Whatever the storage answers, an automatic save ends and opens the guard before it does. -/
theorem ends_endAutomatic (s : Autosaver) (j : Job) (g : Nat) (d : Definition)
    (answer : StorageAnswer) :
    Ends { s with inFlight := false } j (s.endAutomatic j g d answer) := by
  unfold endAutomatic
  simp only
  split
  · exact ends_endStored _ _ _ _ (.refl _) ⟨rfl, rfl⟩
  · split
    · exact ⟨.refl _, ⟨rfl, rfl⟩⟩
    · exact ⟨.refl _, .nil⟩
  · exact ⟨.refl _, .nil⟩
  · exact ⟨.refl _, .nil⟩

/-- Whatever the storage answers, an explicit save ends; the guard is not its business. -/
theorem ends_endExplicit (s : Autosaver) (j : Job) (g : Nat) (d : Definition)
    (answer : StorageAnswer) : Ends s j (s.endExplicit j g d answer) := by
  unfold endExplicit
  split
  · exact ends_endStored _ _ _ _ (.refl s) ⟨rfl, rfl⟩
  · split
    · exact ⟨.refl s, ⟨rfl, rfl⟩⟩
    · exact ⟨.refl s, .nil⟩
  · exact ⟨.refl s, .nil⟩
  · exact ⟨.refl s, .nil⟩

end Autosaver

/-! ## The invariant

The first three parts say that jobs are well numbered and that only explicit saves are checked. The
next two are about the exclusion: who has asked for the storage is written down, and at most one is
while the guard is closed, none while it is open. The last two follow the identity from the timer to
the saves that it asks for. -/

namespace Traffic

open Autosaver (Calm Ends Proceeds forall_jobs_request forall_jobs_dropJob)

/-- What holds of every run. -/
structure Sound (t : Traffic) : Prop where
  nodup : (t.saver.jobs.map Job.id).Nodup
  jobs_lt : ∀ j ∈ t.saver.jobs, j.id < t.saver.nextJob
  checking : ∀ j ∈ t.saver.jobs, ∀ d, j.phase = .checking d → j.kind = .explicit
  waits : ∀ j ∈ t.saver.jobs, ∀ g d, j.kind ≠ .explicit → j.phase = .saving g d → j.id ∈ t.waiting
  waiting_le : t.waiting.length ≤ if t.saver.inFlight then 1 else 0
  armed : t.saver.timer.pending → t.saver.editor.isStored
  driven : ∀ j ∈ t.saver.jobs, j.kind = .automatic true → t.saver.editor.isStored

variable {t : Traffic} {u : Autosaver} {a : Action} {told : List Effect} {j : Job}

theorem Sound.start (e : Editor) (delay : Option Nat) (checksRemotely : Bool) :
    Sound ⟨.watch e delay checksRemotely, []⟩ where
  nodup := List.nodup_nil
  jobs_lt := List.forall_mem_nil _
  checking := List.forall_mem_nil _
  waits := List.forall_mem_nil _
  waiting_le := Nat.zero_le _
  armed h := by cases h
  driven := List.forall_mem_nil _

theorem Sound.waiting_le_one (h : t.Sound) : t.waiting.length ≤ 1 := by
  have hle := h.waiting_le
  split at hle
  · exact hle
  · exact Nat.le_succ_of_le hle

/-- While the guard is open nobody waits, which is why the next save may pass. -/
theorem Sound.waiting_eq_nil (h : t.Sound) (hfree : t.saver.inFlight = false) : t.waiting = [] := by
  have hle := h.waiting_le
  rw [hfree] at hle
  exact List.eq_nil_of_length_eq_zero (Nat.le_zero.mp hle)

/-- The part of the invariant that other modules know under this name. -/
theorem Sound.orderly (h : t.Sound) : t.saver.Orderly := ⟨h.nodup, h.jobs_lt, h.checking⟩

/-! ## Steps

What single changes do to the invariant. They are combined below into what an action does. -/

/-- Harmless changes keep the invariant. The list of those who wait stays, and the guard can only
have been closed, so the bound on its length is not exceeded. -/
theorem Sound.calm (h : t.Sound) (hc : Calm t.saver u) : Sound { t with saver := u } where
  nodup := by rw [hc.jobs]; exact h.nodup
  jobs_lt := by rw [hc.jobs, hc.nextJob]; exact h.jobs_lt
  checking := by rw [hc.jobs]; exact h.checking
  waits := by rw [hc.jobs]; exact h.waits
  waiting_le := by
    refine Nat.le_trans h.waiting_le ?_
    by_cases hfree : t.saver.inFlight
    · rw [if_pos hfree, if_pos (hc.inFlight hfree)]
    · rw [if_neg hfree]
      exact Nat.zero_le _
  armed hp := (hc.armed hp).elim (fun hold => hc.stored (h.armed hold)) id
  driven := by rw [hc.jobs]; exact fun j hj hk => hc.stored (h.driven j hj hk)

/-- A new job has a new number and has not asked for anything. If it is one of the timer's, the form
has to be stored already. -/
theorem Sound.request (h : t.Sound) {kind : JobKind}
    (hk : kind = .automatic true → t.saver.editor.isStored) :
    Sound { t with saver := (t.saver.request kind).2 } where
  nodup := (h.orderly.request kind).nodup
  jobs_lt := (h.orderly.request kind).lt
  checking := (h.orderly.request kind).checking
  waits := forall_jobs_request h.waits fun _ _ _ hp => by cases hp
  waiting_le := h.waiting_le
  armed := h.armed
  driven := forall_jobs_request h.driven hk

/-- Only saves that no job is waiting for are struck out. -/
theorem Sound.keep (h : t.Sound) {keep : Nat → Bool}
    (hkeep : ∀ j ∈ t.saver.jobs, ∀ g d, j.phase = .saving g d → keep j.id) :
    Sound { t with waiting := t.waiting.filter keep } :=
  { h with
    waits := fun j hj g d hk hp =>
      List.mem_filter.mpr ⟨h.waits j hj g d hk hp, hkeep j hj g d hp⟩
    waiting_le := Nat.le_trans (List.length_filter_le _ _) h.waiting_le }

theorem Sound.drop (h : t.Sound) (id : Nat) {keep : Nat → Bool} (hkeep : ∀ i, i ≠ id → keep i) :
    Sound ⟨t.saver.dropJob id, t.waiting.filter keep⟩ := by
  have hdropped : Sound { t with saver := t.saver.dropJob id } :=
    { h with
      nodup := (h.orderly.dropJob id).nodup
      jobs_lt := (h.orderly.dropJob id).lt
      checking := (h.orderly.dropJob id).checking
      waits := forall_jobs_dropJob h.waits
      driven := forall_jobs_dropJob h.driven }
  refine hdropped.keep fun j hj _ _ _ => hkeep j.id ?_
  simpa using (List.mem_filter.mp hj).2

/-- The guard may be opened when nobody waits. -/
theorem Sound.free (h : t.Sound) (hnone : t.waiting = []) :
    Sound { t with saver := { t.saver with inFlight := false } } :=
  { h with waiting_le := by rw [hnone]; exact Nat.zero_le _ }

/-- The automatic save that waits for the storage is the only one. -/
theorem Sound.filter_waiting (h : t.Sound) {g : Nat} {d : Definition} (hj : j ∈ t.saver.jobs)
    (hk : j.kind ≠ .explicit) (hp : j.phase = .saving g d) {keep : Nat → Bool}
    (hkeep : keep j.id = false) : t.waiting.filter keep = [] := by
  have hlt : (t.waiting.filter keep).length < t.waiting.length :=
    List.length_filter_lt_length_iff_exists.mpr ⟨j.id, h.waits j hj g d hk hp, by simp [hkeep]⟩
  exact List.eq_nil_of_length_eq_zero (Nat.lt_one_iff.mp (Nat.lt_of_lt_of_le hlt h.waiting_le_one))

/-- A job moves on. An automatic save only moves on to the storage, and waits for it. -/
theorem Sound.move (h : t.Sound) (hj : j ∈ t.saver.jobs) {phase : Phase}
    (hk : j.kind = .explicit ∨ ∃ g d, phase = .saving g d ∧ j.id ∈ t.waiting) :
    Sound { t with saver := t.saver.moveTo j.id phase } := by
  have hmoved : (t.saver.moveTo j.id phase).Orderly :=
    h.orderly.moveTo hj (hk.imp_right fun ⟨g, d, hp, _⟩ => ⟨g, d, hp⟩)
  exact
    { h with
      nodup := hmoved.nodup
      jobs_lt := hmoved.lt
      checking := hmoved.checking
      waits := by
        refine h.orderly.forall_jobs_moved hj (fun g d hne _ => ?_) h.waits
        rcases hk with hk | ⟨-, -, -, hmem⟩
        · exact absurd hk hne
        · exact hmem
      driven := h.orderly.forall_jobs_moved hj (h.driven j hj) h.driven }

/-! ## What is written down

An action is followed in two parts, the autosaver and the list of those who wait. These lemmas put
the two together again for each way in which a job can go on. -/

/-- Where the storage is not asked, the list can only become shorter. -/
theorem write_unasked {p : Progress} (h : p.effects.filterMap Effect.stores? = []) (a : Action) :
    t.write a p = ⟨p.saver, t.waiting.filter fun id => !a.answers id⟩ := by
  simp only [write, Autosaver.autosaves, h, List.filter_nil, List.append_nil]

/-- A job that asks for the storage is written down if it is an automatic save. What else is told
does not matter. -/
theorem Sound.autosaves_issue (h : t.Sound) (hj : j ∈ t.saver.jobs) (hq : Quiet told)
    (d : Definition) :
    t.saver.autosaves (told ++ [.store j.id d]) = if j.kind = .explicit then [] else [j.id] := by
  unfold Autosaver.autosaves
  rw [List.filterMap_append, hq.stores, List.nil_append]
  by_cases hk : j.kind = .explicit <;> simp [Effect.stores?, h.orderly.job?_eq hj, hk]

theorem filter_answers (ha : ∀ id, a.answers id = false) (ids : List Nat) :
    (ids.filter fun id => !a.answers id) = ids :=
  List.filter_eq_self.mpr fun id _ => by simp [ha id]

/-- A job asks for the storage, and nobody has been answered. -/
theorem Sound.write_issue (h : t.Sound) (hj : j ∈ t.saver.jobs) (hq : Quiet told)
    (ha : ∀ id, a.answers id = false) (u : Autosaver) (d : Definition) :
    t.write a (u.issue j d told) =
      ⟨(u.issue j d told).saver, t.waiting ++ if j.kind = .explicit then [] else [j.id]⟩ := by
  rw [← h.autosaves_issue hj hq d, write, filter_answers ha]
  rfl

theorem Sound.ends {p : Progress} (h : t.Sound) (hp : Ends t.saver j p)
    (ha : ∀ id, id ≠ j.id → a.answers id = false) : (t.write a p).Sound := by
  obtain ⟨hc, hq⟩ := hp
  rw [write_unasked (Autosaver.quiet_finish _ _ _ hq).stores]
  exact (h.drop j.id fun id hid => by simp [ha id hid]).calm (hc.drop j.id)

/-- An answer to an automatic save leaves none waiting, and the next one may come. -/
theorem Sound.frees {p : Progress} {g : Nat} {d : Definition} (h : t.Sound)
    (hj : j ∈ t.saver.jobs) (hk : j.kind ≠ .explicit) (hphase : j.phase = .saving g d)
    (hp : Ends { t.saver with inFlight := false } j p) (ha : ∀ id, a.answers id = (j.id == id)) :
    (t.write a p).Sound := by
  obtain ⟨hc, hq⟩ := hp
  -- the guard is open again, so it has to be seen that nobody else waits
  have hnone : t.waiting.filter (fun id => !a.answers id) = [] :=
    h.filter_waiting hj hk hphase (by simp [ha])
  have hdropped : Sound ⟨t.saver.dropJob j.id, t.waiting.filter fun id => !a.answers id⟩ :=
    h.drop j.id fun id hid => by simp [ha, Ne.symm hid]
  rw [write_unasked (Autosaver.quiet_finish _ _ _ hq).stores]
  exact (hdropped.free hnone).calm (hc.drop j.id)

/-- However an explicit save goes on, no automatic save is affected. -/
theorem Sound.proceeds {p : Progress} (h : t.Sound) (hj : j ∈ t.saver.jobs)
    (hk : j.kind = .explicit) (hp : Proceeds t.saver j p) (ha : ∀ id, a.answers id = false) :
    (t.write a p).Sound := by
  cases hp with
  | ends hends => exact h.ends hends fun id _ => ha id
  | @checks u d hc =>
    rw [write_unasked rfl, filter_answers ha]
    exact (h.calm hc).move (hc.jobs ▸ hj) (.inl hk)
  | @stores u d told hc hq =>
    -- it does not pass the guard, and is not counted
    have hdrawing : Calm t.saver { u with generation := u.generation + 1 } :=
      hc.trans ⟨rfl, rfl, id, id, .inl⟩
    rw [h.write_issue hj hq ha, if_pos hk, List.append_nil]
    exact (h.calm hdrawing).move (hdrawing.jobs ▸ hj) (.inl hk)

/-- The automatic save for which the storage is asked is the first that waits. -/
theorem Sound.autosave (h : t.Sound) (hj : j ∈ t.saver.jobs) (hfree : t.saver.inFlight = false)
    (hk : j.kind ≠ .explicit) (ha : ∀ id, a.answers id = false) (d : Definition) :
    (t.write a ({ t.saver with inFlight := true }.issue j d [])).Sound := by
  rw [h.write_issue hj .nil ha, if_neg hk, h.waiting_eq_nil hfree, List.nil_append]
  have hclosed : Sound
      ⟨{ t.saver with inFlight := true, generation := t.saver.generation + 1 }, [j.id]⟩ :=
    { h with
      waits := fun i hi g d hne hp => by
        have hmem := h.waits i hi g d hne hp
        rw [h.waiting_eq_nil hfree] at hmem
        cases hmem
      waiting_le := Nat.le_refl 1 }
  exact hclosed.move hj (.inr ⟨_, _, rfl, List.mem_cons_self⟩)

/-- Nothing happens to a job. -/
theorem Sound.rests (h : t.Sound) (hc : Calm t.saver u) (hq : Quiet told)
    (ha : ∀ i ∈ t.saver.jobs, ∀ g d, i.phase = .saving g d → a.answers i.id = false) :
    (t.write a ⟨u, told⟩).Sound := by
  rw [write_unasked hq.stores]
  exact (h.keep fun i hi g d hp => by simp [ha i hi g d hp]).calm hc

theorem Sound.queues (h : t.Sound) (hc : Calm t.saver u) {kind : JobKind}
    (hk : kind = .automatic true → u.editor.isStored) (ha : ∀ id, a.answers id = false) :
    (t.write a ⟨(u.request kind).2, []⟩).Sound := by
  rw [write_unasked rfl, filter_answers ha]
  exact (h.calm hc).request hk

/-- A job begins. Of an automatic save it has to be seen that the guard was open; for any other
phase than the first nothing happens. -/
theorem Sound.begin (h : t.Sound) (id : Nat) :
    (t.write (.begin id) (t.saver.begin id)).Sound := by
  have ha : ∀ i, (Action.begin id).answers i = false := fun _ => rfl
  unfold Autosaver.begin
  split
  · next j hjob =>
    obtain ⟨hj, rfl⟩ := Autosaver.job?_eq_some hjob
    split
    · next hk => exact h.proceeds hj hk (Autosaver.proceeds_beginExplicit t.saver j) ha
    · next byTimer _ hk =>
      have hne : j.kind ≠ .explicit := by rw [hk]; exact nofun
      rcases Autosaver.beginAutomatic_cases t.saver j with hends | ⟨d, hfree, -, -, heq⟩
      · exact h.ends hends fun i _ => ha i
      · rw [heq]
        exact h.autosave hj hfree hne ha d
    · exact h.rests (.refl _) .nil fun i _ _ _ _ => ha i.id
  · exact h.rests (.refl _) .nil fun i _ _ _ _ => ha i.id

/-- The remote check has come to its end, which concerns explicit saves only. -/
theorem Sound.checked (h : t.Sound) (id : Nat) (answer : CheckAnswer) :
    (t.write (.checked id answer) (t.saver.checked id answer)).Sound := by
  have ha : ∀ i, (Action.checked id answer).answers i = false := fun _ => rfl
  -- a save that is given up here has not been sent, so nobody is asked to wait for it
  have hends : ∀ j result, (t.write (.checked id answer) (t.saver.finish j result [])).Sound :=
    fun j _ => h.ends (j := j) ⟨.refl _, .nil⟩ fun i _ => ha i
  unfold Autosaver.checked
  split
  · next j hjob =>
    obtain ⟨hj, rfl⟩ := Autosaver.job?_eq_some hjob
    split
    · next d _ hp =>
      split
      · exact h.proceeds hj (h.checking j hj d hp)
          (.stores (.refl _) (Autosaver.quiet_warnOf _)) ha
      · exact hends ..
    · next d _ _ hp =>
      exact h.proceeds hj (h.checking j hj d hp)
        (.stores (.refl _) ((show Quiet [_] from ⟨rfl, rfl⟩).append (Autosaver.quiet_warnOf _))) ha
    · exact hends ..
    · exact hends ..
    · exact h.rests (.refl _) .nil fun i _ _ _ _ => ha i.id
  · exact h.rests (.refl _) .nil fun i _ _ _ _ => ha i.id

/-- The storage answers a job. An answer to a job that does not wait for one is nobody's answer. -/
theorem Sound.stored (h : t.Sound) (id : Nat) (answer : StorageAnswer) :
    (t.write (.stored id answer) (t.saver.stored id answer)).Sound := by
  unfold Autosaver.stored
  split
  · next j hjob =>
    obtain ⟨hj, rfl⟩ := Autosaver.job?_eq_some hjob
    split
    · exact h.ends (Autosaver.ends_endExplicit ..) fun i hi => by
        simp [Autosaver.Action.answers, Ne.symm hi]
    · next g d byTimer hp hk =>
      exact h.frees hj (by rw [hk]; exact nofun) hp (Autosaver.ends_endAutomatic ..) fun _ => rfl
    -- the job is in another phase, so the answer strikes nobody out
    · next hexplicit hautomatic =>
      refine h.rests (.refl _) .nil fun i hi g d hp => beq_eq_false_iff_ne.mpr fun hid => ?_
      obtain rfl := h.orderly.job_eq hj hi hid
      cases hk : j.kind with
      | explicit => exact hexplicit g d hp hk
      | automatic byTimer => exact hautomatic g d byTimer hp hk
  -- there is no such job any more
  · next hnone =>
    refine h.rests (.refl _) .nil fun i hi g d _ => beq_eq_false_iff_ne.mpr fun hid => ?_
    rw [hid, h.orderly.job?_eq hi] at hnone
    cases hnone

/-- **Every step** keeps the invariant, where saves that the timer asks for are asked for by the timer
alone. -/
theorem Sound.step (h : t.Sound) (now : Nat) (ha : a ≠ .request (.automatic true)) :
    (t.step now a).Sound := by
  cases a with
  | edit c => exact h.rests (Autosaver.calm_edit now t.saver c) (.logs _) fun _ _ _ _ _ => rfl
  | adopt d =>
    have hc : Calm t.saver { t.saver with editor := (t.saver.editor.applySaved d).1 } :=
      ⟨rfl, rfl, id, Autosaver.isStored_applySaved t.saver.editor d, .inl⟩
    exact h.rests hc (.logs _) fun _ _ _ _ _ => rfl
  | trigger => exact h.rests (Autosaver.calm_trigger now t.saver) .nil fun _ _ _ _ _ => rfl
  | close =>
    -- the timer is cancelled, so it runs for no form at all
    have hc : Calm t.saver t.saver.close := ⟨rfl, rfl, id, id, nofun⟩
    exact h.rests hc .nil fun _ _ _ _ _ => rfl
  | timer =>
    unfold Traffic.step Autosaver.step
    simp only
    split
    -- the timer has run, which it does for a stored form only
    · next hpending =>
      have hc : Calm t.saver { t.saver with timer := t.saver.timer.fire } :=
        ⟨rfl, rfl, id, id, nofun⟩
      exact h.queues hc (fun _ => h.armed hpending) fun _ => rfl
    · exact h.rests (.refl _) .nil fun _ _ _ _ _ => rfl
  | request kind => exact h.queues (.refl _) (fun hk => absurd (congrArg _ hk) ha) fun _ => rfl
  | begin id => exact h.begin id
  | checked id answer => exact h.checked id answer
  | stored id answer => exact h.stored id answer

/-- **Every run** keeps the invariant. -/
theorem Sound.run (h : t.Sound) {actions : List (Nat × Action)}
    (ha : ∀ a ∈ actions, a.2 ≠ .request (.automatic true)) : (t.run actions).Sound := by
  induction actions generalizing t with
  | nil => exact h
  | cons a rest ih =>
    obtain ⟨hfirst, hrest⟩ := List.forall_mem_cons.mp ha
    exact ih (h.step a.1 hfirst) hrest

/-! ## What is stored

The invariant says who asks for the storage. What they ask for is read off the step itself: a save
takes the definition from the editor in the step in which it asks, unless it has been checked
before, which automatic saves are not. -/

/-- Who asks for nothing does not ask for this either. -/
theorem not_mem_of_quiet (hq : Quiet told) (id : Nat) (d : Definition) :
    Effect.store id d ∉ told := by
  intro hmem
  have hstores : id ∈ told.filterMap Effect.stores? :=
    List.mem_filterMap.mpr ⟨.store id d, hmem, rfl⟩
  rw [hq.stores] at hstores
  cases hstores

theorem mem_issue (hq : Quiet told) {id : Nat} {d e : Definition}
    (hmem : Effect.store id e ∈ (u.issue j d told).effects) : id = j.id ∧ e = d := by
  rcases List.mem_append.mp hmem with hmem | hmem
  · exact absurd hmem (not_mem_of_quiet hq id e)
  · obtain ⟨rfl, rfl⟩ := Effect.store.inj (List.mem_singleton.mp hmem)
    exact ⟨rfl, rfl⟩

/-- A queued save that is not explicit begins as an automatic one. -/
theorem Sound.begin_eq (h : t.Sound) (hj : j ∈ t.saver.jobs) (hphase : j.phase = .queued)
    (hk : j.kind ≠ .explicit) : t.saver.begin j.id = t.saver.beginAutomatic j := by
  have hjob := h.orderly.job?_eq hj
  unfold Autosaver.begin
  rw [hjob]
  obtain ⟨id, kind, phase⟩ := j
  obtain rfl : phase = .queued := hphase
  cases kind with
  | explicit => exact absurd rfl hk
  | automatic byTimer => rfl

/-- **The storage is asked** for jobs only, and by an automatic save for what the editor holds. -/
theorem Sound.store (h : t.Sound) {now id : Nat} {d : Definition}
    (hmem : .store id d ∈ (t.saver.step now a).effects) :
    ∃ j ∈ t.saver.jobs, j.id = id ∧ (j.kind ≠ .explicit →
      t.saver.editor.Holds d ∧ t.saver.editor.hasNames = .ok true ∧
        (t.saver.step now a).saver.editor = t.saver.editor) := by
  have ht := Autosaver.turn_step now t.saver a
  generalize hp : t.saver.step now a = p at ht hmem ⊢
  cases ht with
  | rests _ hq => exact absurd hmem (not_mem_of_quiet hq id d)
  | queues => cases hmem
  | ends _ hq => exact absurd hmem (not_mem_of_quiet hq id d)
  | asks => cases List.mem_singleton.mp hmem
  -- the save begins: if it is automatic, it has looked at the names first
  | @begins j s d' told hj hphase hd hs hq =>
    obtain ⟨rfl, rfl⟩ := mem_issue hq hmem
    refine ⟨j, hj, rfl, fun hk => ?_⟩
    have hbegin : t.saver.beginAutomatic j = s.issue j d told :=
      (h.begin_eq hj hphase hk).symm.trans hp
    rw [← hbegin] at hmem ⊢
    rcases Autosaver.beginAutomatic_cases t.saver j with hends | ⟨d', -, hnames, hd', heq⟩
    · generalize t.saver.beginAutomatic j = p at hends hmem
      obtain ⟨-, hq⟩ := hends
      exact absurd hmem (not_mem_of_quiet (Autosaver.quiet_finish _ _ _ hq) _ _)
    · rw [heq] at hmem ⊢
      obtain ⟨-, rfl⟩ := mem_issue .nil hmem
      exact ⟨Editor.snapshot_eq_ok.mp hd', hnames, rfl⟩
  -- the save has been checked, so it is explicit
  | @resumes j d' answer told hj hphase hq =>
    obtain ⟨rfl, rfl⟩ := mem_issue hq hmem
    exact ⟨j, hj, rfl, fun hk => absurd (h.checking j hj _ hphase) hk⟩
  | hears _ _ _ _ hq => exact absurd hmem (not_mem_of_quiet hq id d)

/-- **Automatic saves exclude each other.** In every run where nobody else asks for saves in the name
of the timer, at most one automatic save waits for the storage. The storage is asked for jobs only,
and a save that the timer asks for stores what the editor holds at that moment, which has a name, a
key and an identity. -/
theorem run_exclusive (e : Editor) (delay : Option Nat) (checksRemotely : Bool)
    (actions : List (Nat × Action)) (ha : ∀ a ∈ actions, a.2 ≠ .request (.automatic true)) :
    let t := run ⟨.watch e delay checksRemotely, []⟩ actions
    t.waiting.length ≤ 1 ∧
    ∀ now a id d, .store id d ∈ (t.saver.step now a).effects →
      ∃ j ∈ t.saver.jobs, j.id = id ∧ (j.kind = .automatic true →
        Text.isBlankText d.name = false ∧ Text.isBlankText d.key = false ∧ d.id ≠ none ∧
          t.saver.editor.Holds d ∧ (t.saver.step now a).saver.editor = t.saver.editor) := by
  intro t
  have h : t.Sound := (Sound.start e delay checksRemotely).run ha
  refine ⟨h.waiting_le_one, fun now a id d hmem => ?_⟩
  obtain ⟨j, hj, hid, hauto⟩ := h.store hmem
  refine ⟨j, hj, hid, fun hk => ?_⟩
  obtain ⟨hholds, hnames, heditor⟩ := hauto (by rw [hk]; exact nofun)
  obtain ⟨hname, hkey⟩ := hholds.not_blank hnames
  have hstored : d.id ≠ none := by
    rw [hholds.id]
    exact Option.isSome_iff_ne_none.mp (h.driven j hj hk)
  exact ⟨hname, hkey, hstored, hholds, heditor⟩

/-- An edit of a stored form, and the end of the quiet period after it. -/
def editing : List (Nat × Action) := [
  (0, .edit (.updateMetadata [("name", .text "New")])), (5, .timer)]

/-- After an edit and a period the save that the timer asks for does reach the storage. -/
theorem run_exclusive_editing :
    let t := run ⟨.watch Ledger.edited (some 5) false, []⟩ editing
    (∀ a ∈ editing, a.2 ≠ .request (.automatic true)) ∧ t.waiting.length ≤ 1 ∧
      (t.saver.step 5 (.begin 0)).effects = [.store 0 (Ledger.renamed "New")] ∧
      (t.step 5 (.begin 0)).waiting = [0] ∧
      Text.isBlankText "New" = false ∧ t.saver.editor.Holds (Ledger.renamed "New") := by
  intro t
  have ha : ∀ a ∈ editing, a.2 ≠ .request (.automatic true) := by
    intro a hmem
    rcases List.mem_pair.mp hmem with rfl | rfl <;> exact nofun
  have heffects : (t.saver.step 5 (.begin 0)).effects = [.store 0 (Ledger.renamed "New")] := rfl
  obtain ⟨hone, hstores⟩ := run_exclusive Ledger.edited (some 5) false editing ha
  obtain ⟨j, hj, -, hdriven⟩ := hstores 5 (.begin 0) 0 (Ledger.renamed "New")
    (heffects ▸ List.mem_cons_self)
  have hjob : j = ⟨0, .automatic true, .queued⟩ := List.mem_singleton.mp hj
  obtain ⟨hname, -, -, hholds, -⟩ := hdriven (by rw [hjob])
  exact ⟨ha, hone, heffects, rfl, hname, hholds⟩

end Traffic

end DynamicForm

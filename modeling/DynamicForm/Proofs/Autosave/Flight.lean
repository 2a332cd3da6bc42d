import DynamicForm.Proofs.Autosave.Latest
import DynamicForm.Proofs.Autosave.Passage
import DynamicForm.Proofs.Editor.Snapshot

/-!
# The guard of automatic saves

The guard is closed while an automatic save waits for the storage, and opened whatever the storage
answers. It is closed before the definition is taken from the editor, though. When the editor holds
a description that is no text the definition cannot be taken, the save ends, and nobody opens the
guard again: from then on every automatic save is skipped.

The invariant is an equation between numbers. On the one side is the flag, read as one or nothing;
on the other are the automatic saves that wait for the storage and those that have been stranded.
Each way in which a job can go on changes both sides by the same amount, or neither. Counting is
what makes this work without a case distinction on who closed the flag: a save that is launched
raises the first number, one that is stranded the second, and one that lands lowers the first.

- `Flight` writes down which automatic saves have ended in this way.
- `Flight.Sound`: the guard counts these, and the saves that wait for the storage.
- `Flight.run_inFlight`: so it is closed exactly if there is one of either.
-/

namespace DynamicForm

open Autosaver (Action Passage)
open Effect (Ongoing)

/-- The automatic saves that end because the definition could not be taken. -/
def Autosaver.untaken (s : Autosaver) (told : List Effect) : List Nat :=
  ((told.filterMap Effect.finished?).filter fun e =>
    e.2.isUntaken && (s.job? e.1).any fun j => j.kind ≠ .explicit).map Prod.fst

/-- An autosaver, with the automatic saves that have ended because the definition could not be
taken. -/
structure Flight where
  saver : Autosaver
  stranded : List Nat := []

namespace Flight

/-- Writes down what an action leaves behind. -/
def write (t : Flight) (p : Progress) : Flight where
  saver := p.saver
  stranded := t.stranded ++ t.saver.untaken p.effects

/-- Follows one action. -/
def step (now : Nat) (t : Flight) (a : Action) : Flight := t.write (t.saver.step now a)

/-- Follows actions, each at its time. -/
def run (t : Flight) (actions : List (Nat × Action)) : Flight :=
  actions.foldl (fun t a => t.step a.1 a.2) t

end Flight

/-! ## Counting

How many jobs there are of a kind, before and after one of them is dropped or moved. -/

namespace Autosaver

variable {s u : Autosaver} {j : Job} {told : List Effect}

/-- A job that ends is counted no more. -/
theorem Orderly.countP_dropJob {guard : Bool} (h : s.Orderly) (hl : Level s guard u)
    (hj : j ∈ s.jobs) (p : Job → Bool) :
    s.jobs.countP p = (u.dropJob j.id).jobs.countP p + if p j then 1 else 0 := by
  obtain ⟨before, after, heq, hdropped, -⟩ := (h.level hl).split (hl.jobs ▸ hj)
  rw [← hl.jobs, heq, hdropped, List.countP_append, List.countP_append, List.countP_cons]
  omega

/-- A job that moves on is counted as what it has become. -/
theorem Orderly.countP_moveTo {guard : Bool} (h : s.Orderly) (hl : Level s guard u)
    (hj : j ∈ s.jobs) (p : Job → Bool) (phase : Phase) :
    s.jobs.countP p + (if p { j with phase := phase } then 1 else 0) =
      (u.moveTo j.id phase).jobs.countP p + if p j then 1 else 0 := by
  obtain ⟨before, after, heq, -, hmoved⟩ := (h.level hl).split (hl.jobs ▸ hj)
  rw [← hl.jobs, heq, hmoved, List.countP_append, List.countP_append, List.countP_cons,
    List.countP_cons]
  omega

theorem untaken_of_ongoing (s : Autosaver) (h : Ongoing told) : s.untaken told = [] := by
  rw [untaken, h]
  rfl

/-- One job ends, and it is known why. -/
theorem Orderly.untaken_finish (h : s.Orderly) (hj : j ∈ s.jobs) (hq : Ongoing told)
    (result : JobResult) : s.untaken (u.finish j result told).effects =
      if result.isUntaken = true ∧ j.kind ≠ .explicit then [j.id] else [] := by
  obtain ⟨after, hafter, heq⟩ : ∃ after, Ongoing after ∧
      (u.finish j result told).effects = told ++ [.finished j.id result] ++ after := by
    refine ⟨_, ?_, rfl⟩
    split <;> rfl
  have hended : (u.finish j result told).effects.filterMap Effect.finished? = [(j.id, result)] := by
    rw [heq, List.filterMap_append, List.filterMap_append, hq, hafter]
    rfl
  rw [untaken, hended, List.filter_singleton, h.job?_eq hj]
  by_cases hr : result.isUntaken = true <;> by_cases hk : j.kind = .explicit <;> simp [hr, hk]

/-- **A save that ends** is not counted among those that wait any more, but among the stranded if it
could not take the definition. -/
theorem Orderly.count_finish {guard : Bool} (h : s.Orderly) (hl : Level s guard u) (hj : j ∈ s.jobs)
    (hq : Ongoing told) (result : JobResult) :
    (u.finish j result told).saver.jobs.countP Job.isAutosaving +
        (s.untaken (u.finish j result told).effects).length + (if j.isAutosaving then 1 else 0) =
      s.jobs.countP Job.isAutosaving +
        if result.isUntaken = true ∧ j.kind ≠ .explicit then 1 else 0 := by
  have hended : (s.untaken (u.finish j result told).effects).length =
      if result.isUntaken = true ∧ j.kind ≠ .explicit then 1 else 0 := by
    rw [h.untaken_finish hj hq]
    split <;> rfl
  rw [hended, h.countP_dropJob hl hj Job.isAutosaving]
  exact Nat.add_right_comm ..

end Autosaver

/-! ## The invariant -/

namespace Flight

open Autosaver (Orderly)

/-- The closed guard stands for one automatic save: one that waits for the storage, or one that
could not take the definition. -/
structure Sound (t : Flight) : Prop where
  orderly : t.saver.Orderly
  count : t.saver.jobs.countP Job.isAutosaving + t.stranded.length =
    if t.saver.inFlight then 1 else 0

variable {t : Flight} {a : Action} {p : Progress}

/-- The guard is open, and there is nobody behind it. -/
theorem Sound.start (e : Editor) (delay : Option Nat) (checksRemotely : Bool) :
    Sound ⟨.watch e delay checksRemotely, []⟩ :=
  ⟨.watch e delay checksRemotely, rfl⟩

/-- **One passage** keeps the count. -/
theorem Sound.count_passage (h : t.Sound) (hp : Passage t.saver a p) :
    p.saver.jobs.countP Job.isAutosaving + (t.stranded ++ t.saver.untaken p.effects).length =
      if p.saver.inFlight then 1 else 0 := by
  have hcount := h.count
  rw [List.length_append]
  cases hp with
  | rests hl hq =>
    rw [t.saver.untaken_of_ongoing hq, hl.jobs, hl.inFlight]
    exact hcount
  | @queues u kind _ hl =>
    -- a job that is queued does not wait for the storage yet
    have hjobs : (u.request kind).2.jobs = t.saver.jobs ++ [⟨u.nextJob, kind, .queued⟩] :=
      congrArg (· ++ _) hl.jobs
    have hguard : (u.request kind).2.inFlight = t.saver.inFlight := hl.inFlight
    rw [t.saver.untaken_of_ongoing Effect.ongoing_nil, hjobs, hguard, List.countP_append]
    simpa [Job.isAutosaving] using hcount
  -- an explicit save is counted in no phase
  | @moves j u phase told hj _ hk hl hq =>
    have hmoved := h.orderly.countP_moveTo hl hj Job.isAutosaving phase
    have hguard : (u.moveTo j.id phase).inFlight = t.saver.inFlight := hl.inFlight
    have hexplicit : ∀ phase, Job.isAutosaving { j with phase := phase } = false := by
      simp [Job.isAutosaving, hk]
    rw [hexplicit, show j.isAutosaving = false from hexplicit j.phase] at hmoved
    rw [t.saver.untaken_of_ongoing hq, hguard, ← hcount]
    exact congrArg (· + _) hmoved.symm
  -- the job was not behind the guard, and does not become stranded
  | @ends j u result told hj _ hidle hr hl hq =>
    have hended := h.orderly.count_finish hl hj hq result
    have hguard : (u.finish j result told).saver.inFlight = t.saver.inFlight := hl.inFlight
    have hnone : ¬(result.isUntaken = true ∧ j.kind ≠ .explicit) := by
      rintro ⟨huntaken, hk⟩
      exact hr.elim hk fun htaken => Bool.noConfusion (huntaken.symm.trans htaken)
    rw [hidle, if_neg Bool.false_ne_true, if_neg hnone] at hended
    rw [hguard, ← hcount]
    omega
  | @launches j u g d told hj _ hk hidle hfree hl hq =>
    -- nobody is behind the open guard, and now this one is
    have hmoved := h.orderly.countP_moveTo hl hj Job.isAutosaving (.saving g d)
    have hguard : (u.moveTo j.id (.saving g d)).inFlight = true := hl.inFlight
    have hsaving : Job.isAutosaving { j with phase := .saving g d } = true := by
      simp [Job.isAutosaving, hk]
    rw [hidle, hsaving, if_pos rfl, if_neg Bool.false_ne_true] at hmoved
    rw [hfree, if_neg Bool.false_ne_true] at hcount
    rw [t.saver.untaken_of_ongoing hq, hguard, if_pos rfl]
    change (u.moveTo j.id (.saving g d)).jobs.countP Job.isAutosaving + t.stranded.length = 1
    omega
  -- the guard is closed for a save that ends at once, and is counted among the stranded from now on
  | @strands j u issues hj _ hk hidle hfree hl =>
    have hended := h.orderly.count_finish hl hj Effect.ongoing_nil
      (.failed (.edit (.unreadable issues)))
    have hguard : (u.finish j (.failed (.edit (.unreadable issues))) []).saver.inFlight = true :=
      hl.inFlight
    rw [hidle, if_neg Bool.false_ne_true, if_pos ⟨rfl, hk⟩] at hended
    rw [hfree, if_neg Bool.false_ne_true] at hcount
    rw [hguard, if_pos rfl]
    omega
  | @lands j u result told hj _ hsaving hr hl hq =>
    -- it is the one for which the guard is closed
    have hended := h.orderly.count_finish hl hj hq result
    have hguard : (u.finish j result told).saver.inFlight = false := hl.inFlight
    have hnone : ¬(result.isUntaken = true ∧ j.kind ≠ .explicit) := by
      rw [hr]
      exact fun hand => Bool.false_ne_true hand.1
    rw [hsaving, if_pos rfl, if_neg hnone] at hended
    have hle : (if t.saver.inFlight then 1 else 0) ≤ 1 := by split <;> decide
    rw [hguard, if_neg Bool.false_ne_true]
    omega

/-- The invariant of the jobs and the count are kept together. -/
theorem Sound.step (h : t.Sound) (now : Nat) (a : Action) : (t.step now a).Sound :=
  ⟨h.orderly.step now a, h.count_passage (Autosaver.passage_step h.orderly now a)⟩

theorem Sound.run (h : t.Sound) (actions : List (Nat × Action)) : (t.run actions).Sound := by
  induction actions generalizing t with
  | nil => exact h
  | cons a rest ih => exact ih (h.step a.1 a.2)

/-- The guard is closed while somebody is behind it. -/
theorem Sound.inFlight_iff (h : t.Sound) : t.saver.inFlight = true ↔
    (∃ j ∈ t.saver.jobs, j.isAutosaving = true) ∨ t.stranded ≠ [] := by
  have hcount := h.count
  rw [← List.countP_pos_iff, ← List.length_pos_iff]
  cases hguard : t.saver.inFlight with
  | true =>
    rw [hguard, if_pos rfl] at hcount
    simp only [true_iff]
    omega
  | false =>
    rw [hguard, if_neg Bool.false_ne_true] at hcount
    simp only [Bool.false_eq_true, false_iff]
    omega

/-- An automatic save of a form with names whose definition can be taken is skipped if the guard is
closed, and asks for the storage otherwise. -/
theorem begin_effects {s : Autosaver} {id : Nat} {byTimer : Bool} {d : Definition}
    (hjob : s.job? id = some ⟨id, .automatic byTimer, .queued⟩)
    (hnames : s.editor.hasNames = .ok true) (hd : s.editor.Holds d) :
    (s.begin id).effects =
      if s.inFlight then [.finished id (.autosaved false)] else [.store id d] := by
  unfold Autosaver.begin
  rw [hjob]
  simp only
  unfold Autosaver.beginAutomatic
  rw [hnames, Editor.snapshot_eq_ok.mpr hd]
  cases s.inFlight with
  | true => cases byTimer <;> rfl
  | false => rfl

/-- **The guard.** In every run the guard is closed exactly while an automatic save waits for the
storage and after one that could not take the definition from the editor. An automatic save of a
form with names whose definition can be taken is skipped exactly if the guard is closed. -/
theorem run_inFlight (e : Editor) (delay : Option Nat) (checksRemotely : Bool)
    (actions : List (Nat × Action)) :
    let t := run ⟨.watch e delay checksRemotely, []⟩ actions
    (t.saver.inFlight = true ↔
      (∃ j ∈ t.saver.jobs, j.isAutosaving = true) ∨ t.stranded ≠ []) ∧
    ∀ now id byTimer d, t.saver.job? id = some ⟨id, .automatic byTimer, .queued⟩ →
      t.saver.editor.hasNames = .ok true → t.saver.editor.Holds d →
      (t.saver.step now (.begin id)).effects =
        if t.saver.inFlight then [.finished id (.autosaved false)] else [.store id d] := by
  intro t
  exact ⟨((Sound.start e delay checksRemotely).run actions).inFlight_iff,
    fun _ _ _ _ => begin_effects⟩

/-- A description that is no text, and an automatic save. -/
def illegible : List (Nat × Action) := [
  (0, .edit (.updateMetadata [("description", .int 5)])),
  (0, .request (.automatic false)), (0, .begin 0)]

/-- **The guard stays closed** when the definition cannot be taken. -/
theorem not_reopened_illegible :
    ¬∀ e delay checksRemotely actions,
      let s := (run ⟨.watch e delay checksRemotely, []⟩ actions).saver
      (∀ j ∈ s.jobs, j.kind = .explicit) → s.inFlight = false := by
  intro h
  have hopen := h Ledger.edited none false illegible (List.forall_mem_nil _)
  have hclosed : (run ⟨.watch Ledger.edited none false, []⟩ illegible).saver.inFlight = true := rfl
  rw [hclosed] at hopen
  cases hopen

end Flight

end DynamicForm

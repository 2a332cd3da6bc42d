import DynamicForm.Autosave.Basic
import Mathlib.Data.List.Nodup

/-!
# Jobs by their numbers

An autosaver knows its jobs by their numbers. A job is queued under a new number, moved on to a
phase, or dropped, and each of these leaves the jobs with other numbers alone.

A list with numbers is searched, filtered and mapped, and each of these is an operation on the list
as a whole. What is needed later is a different picture, in which one job stands between the others
and an operation does something to it alone. `Orderly.split` leads from the one picture to the
other. It holds because numbers are different, which is why that is part of the invariant.

- `Autosaver.job?_moveTo` and its neighbours say what is found under a number afterwards.
- `Autosaver.Orderly` is what holds of the jobs in every run: their numbers are different and have
  been given out, and automatic saves are not checked.
- `Autosaver.Orderly.split` takes a job out of the list and says what dropping and moving it does
  there.
-/

namespace DynamicForm.Autosaver

variable {s : Autosaver} {j : Job} {id : Nat}

/-! ## All jobs

A property of every job is kept if the new or the moved job has it. -/

/-- What holds of the jobs and of a new one. -/
theorem forall_jobs_request {p : Job → Prop} {kind : JobKind} (h : ∀ j ∈ s.jobs, p j)
    (hnew : p ⟨s.nextJob, kind, .queued⟩) : ∀ j ∈ (s.request kind).2.jobs, p j :=
  List.forall_mem_append.mpr ⟨h, List.forall_mem_singleton.mpr hnew⟩

/-- What holds of a job that is moved, and of the others. -/
theorem forall_jobs_moveTo {p : Job → Prop} {phase : Phase}
    (hmoved : ∀ j, j.id = id → j.phase = phase → p j) (h : ∀ j ∈ s.jobs, j.id ≠ id → p j) :
    ∀ j ∈ (s.moveTo id phase).jobs, p j := by
  intro j hj
  obtain ⟨i, hi, rfl⟩ := List.mem_map.mp hj
  by_cases hid : i.id = id
  · rw [if_pos hid]
    exact hmoved _ hid rfl
  · rw [if_neg hid]
    exact h i hi hid

/-- What holds of the jobs that are left. -/
theorem forall_jobs_dropJob {p : Job → Prop} (h : ∀ j ∈ s.jobs, p j) :
    ∀ j ∈ (s.dropJob id).jobs, p j :=
  fun j hj => h j (List.mem_filter.mp hj).1

theorem moveTo_moveTo (s : Autosaver) (id : Nat) (first second : Phase) :
    (s.moveTo id first).moveTo id second = s.moveTo id second := by
  unfold moveTo
  simp only [List.map_map]
  congr 2
  funext j
  by_cases hid : j.id = id <;> simp [hid]

theorem ids_moveTo (s : Autosaver) (id : Nat) (phase : Phase) :
    (s.moveTo id phase).jobs.map Job.id = s.jobs.map Job.id := by
  unfold moveTo
  rw [List.map_map]
  refine List.map_congr_left fun j _ => ?_
  simp only [Function.comp_apply]
  split <;> rfl

/-! ## One number

What is found under a number after the list has changed. The job that is looked for is the one that
was changed, or it is another one and found as before. -/

/-- A job that is found is one of the jobs, and has the number. -/
theorem job?_eq_some (h : s.job? id = some j) : j ∈ s.jobs ∧ j.id = id :=
  ⟨List.mem_of_find?_eq_some h, by simpa using List.find?_some h⟩

/-- A number that has been given out does not find a new job. -/
theorem job?_request (kind : JobKind) (hid : id < s.nextJob) :
    (s.request kind).2.job? id = s.job? id := by
  have hne : (s.nextJob == id) = false := beq_eq_false_iff_ne.mpr (Nat.ne_of_gt hid)
  simp [request, job?, List.find?_append, hne]

/-- A job is found as before, in its new phase if it is the one that has been moved. -/
theorem job?_moveTo (s : Autosaver) (i id : Nat) (phase : Phase) :
    (s.moveTo i phase).job? id =
      (s.job? id).map fun j => if j.id = i then { j with phase := phase } else j := by
  unfold moveTo job?
  rw [List.find?_map]
  congr 2
  funext j
  by_cases hid : j.id = i <;> simp [hid]

theorem job?_moveTo_of_ne {i : Nat} (h : i ≠ id) (phase : Phase) :
    (s.moveTo i phase).job? id = s.job? id := by
  rw [job?_moveTo]
  cases hfind : s.job? id with
  | none => rfl
  | some j =>
    have hne : ¬j.id = i := fun hid => h (hid.symm.trans (job?_eq_some hfind).2)
    exact congrArg some (if_neg hne)

theorem job?_dropJob_self (s : Autosaver) (id : Nat) : (s.dropJob id).job? id = none := by
  refine List.find?_eq_none.mpr fun j hj => ?_
  simpa using (List.mem_filter.mp hj).2

theorem job?_dropJob_of_ne {i : Nat} (h : i ≠ id) : (s.dropJob i).job? id = s.job? id := by
  unfold dropJob job?
  rw [List.find?_filter]
  congr 1
  funext j
  by_cases hid : j.id = id
  · simp [hid, Ne.symm h]
  · simp [hid]

/-! ## Order

The invariant of the list, with a lemma for each operation. -/

/-- Jobs have different numbers that have been given out, and only explicit saves are checked. -/
structure Orderly (s : Autosaver) : Prop where
  nodup : (s.jobs.map Job.id).Nodup
  lt : ∀ j ∈ s.jobs, j.id < s.nextJob
  checking : ∀ j ∈ s.jobs, ∀ d, j.phase = .checking d → j.kind = .explicit

/-- Jobs are known by their numbers. -/
theorem Orderly.job_eq (h : s.Orderly) {i : Job} (hi : i ∈ s.jobs) (hj : j ∈ s.jobs)
    (hid : i.id = j.id) : i = j :=
  List.inj_on_of_nodup_map h.nodup hi hj hid

theorem Orderly.job?_eq (h : s.Orderly) (hj : j ∈ s.jobs) : s.job? j.id = some j := by
  cases hfind : s.job? j.id with
  | none => exact absurd (beq_self_eq_true _) (List.find?_eq_none.mp hfind j hj)
  | some i =>
    obtain ⟨hi, hid⟩ := job?_eq_some hfind
    rw [h.job_eq hi hj hid]

/-- A job among the others, and what is left of the jobs when it ends or moves on. -/
theorem Orderly.split (h : s.Orderly) (hj : j ∈ s.jobs) :
    ∃ before after, s.jobs = before ++ j :: after ∧ (s.dropJob j.id).jobs = before ++ after ∧
      ∀ phase, (s.moveTo j.id phase).jobs = before ++ { j with phase := phase } :: after := by
  obtain ⟨before, after, heq⟩ := List.append_of_mem hj
  have hnodup := h.nodup
  rw [heq, List.map_append, List.map_cons, List.nodup_middle, List.nodup_cons, ← List.map_append]
    at hnodup
  have hne : ∀ i ∈ before ++ after, i.id ≠ j.id :=
    fun i hi hid => hnodup.1 (hid ▸ List.mem_map_of_mem hi)
  obtain ⟨hbefore, hafter⟩ := List.forall_mem_append.mp hne
  refine ⟨before, after, heq, ?_, fun phase => ?_⟩
  · simp only [dropJob, heq, List.filter_append, List.filter_cons]
    rw [List.filter_eq_self.mpr (by simpa using hbefore),
      List.filter_eq_self.mpr (by simpa using hafter)]
    simp
  · simp only [moveTo, heq, List.map_append, List.map_cons, if_true]
    rw [List.map_congr_left (fun i hi => if_neg (hbefore i hi)), List.map_id',
      List.map_congr_left (fun i hi => if_neg (hafter i hi)), List.map_id']

/-- What holds of a job when it has moved on, and of all jobs before. -/
theorem Orderly.forall_jobs_moved (h : s.Orderly) (hj : j ∈ s.jobs) {phase : Phase}
    {p : Job → Prop} (hmoved : p { j with phase := phase }) (hall : ∀ i ∈ s.jobs, p i) :
    ∀ i ∈ (s.moveTo j.id phase).jobs, p i := by
  obtain ⟨before, after, heq, -, hmove⟩ := h.split hj
  rw [heq, List.forall_mem_append, List.forall_mem_cons] at hall
  rw [hmove, List.forall_mem_append, List.forall_mem_cons]
  exact ⟨hall.1, hmoved, hall.2.2⟩

theorem Orderly.watch (e : Editor) (delay : Option Nat) (checksRemotely : Bool) :
    (watch e delay checksRemotely).Orderly where
  nodup := List.nodup_nil
  lt := List.forall_mem_nil _
  checking := List.forall_mem_nil _

/-- A new job has the number that is given out next. -/
theorem Orderly.request (h : s.Orderly) (kind : JobKind) : (s.request kind).2.Orderly where
  nodup := by
    change ((s.jobs ++ [_]).map Job.id).Nodup
    rw [List.map_append, List.map_singleton, ← List.concat_eq_append]
    refine h.nodup.concat fun hmem => ?_
    obtain ⟨j, hj, hid⟩ := List.mem_map.mp hmem
    exact Nat.lt_irrefl _ (hid ▸ h.lt j hj)
  lt := forall_jobs_request (fun j hj => Nat.lt_succ_of_lt (h.lt j hj)) (Nat.lt_succ_self _)
  checking := forall_jobs_request h.checking fun _ hp => by cases hp

theorem Orderly.dropJob (h : s.Orderly) (id : Nat) : (s.dropJob id).Orderly where
  nodup := h.nodup.sublist (List.filter_sublist.map _)
  lt := forall_jobs_dropJob h.lt
  checking := forall_jobs_dropJob h.checking

/-- An automatic save moves on to the storage only. -/
theorem Orderly.moveTo (h : s.Orderly) (hj : j ∈ s.jobs) {phase : Phase}
    (hk : j.kind = .explicit ∨ ∃ g d, phase = .saving g d) : (s.moveTo j.id phase).Orderly where
  nodup := by rw [ids_moveTo]; exact h.nodup
  lt := h.forall_jobs_moved hj (h.lt j hj) h.lt
  checking := by
    refine h.forall_jobs_moved hj (fun d hp => ?_) h.checking
    rcases hk with hk | ⟨g, e, rfl⟩
    · exact hk
    · cases hp

end DynamicForm.Autosaver

import DynamicForm.Proofs.Autosave.Latest
import DynamicForm.Proofs.Autosave.Passage
import DynamicForm.Proofs.Editor.Snapshot
import DynamicForm.Proofs.Storage.Verdict

/-!
# Advice before an explicit save

An explicit save has its definition checked first, where definitions are checked remotely. The check
is meant as advice: what it finds is shown as a warning, and then the storage is asked. But a check
that fails, and a verdict that cannot be shown, end the save before the storage is asked.

To say that a save asks for the storage "once" is to say something about everything that happens
after it. The argument follows the job through its phases. While it waits for the check it asks for
nothing, and nothing but the end of the check moves it on; this is `waits_course`. After that it is
spent: it waits for the storage or is gone, and in neither case can it ask again; this is
`Spent.course`. In between lies a single step, and whether the storage is asked in it is decided by
the answer alone.

- `Autosaver.course` is a course of actions with all that is told on the way.
- `Autosaver.Spent`: a job asks for the storage once at most, when the check has come to its end.
- `Autosaver.save_heeds`: an explicit save whose definition is checked by the client asks for the
  storage of what the editor held when it began, and once, exactly if the response to the check is
  one to be heeded.
-/

namespace DynamicForm

open Autosaver (Action Turn Passage Orderly)
open Effect (Quiet)

/-- The end of a remote check that is made by the client. A failure that is no error of the library
goes under the kind and the message that it has elsewhere. -/
def CheckAnswer.ofConclusion (kind message : Storage.CallError → String)
    (c : Storage.Conclusion Storage.Verdict) : CheckAnswer :=
  match c.result with
  | .ok verdict => .answered verdict.toValue
  | .error (.error e) => .failed (.error e)
  | .error e => .failed (.foreign (kind e) (message e))

/-- A save goes on after this end of the check. -/
def CheckAnswer.Advises (answer : CheckAnswer) : Prop :=
  (∃ v problems, answer = .answered v ∧ Autosaver.problemsIn v = .ok problems) ∨
    ∃ message status, answer = .failed (.error (.unavailable message status))

theorem CheckAnswer.ofConclusion_advises (kind message : Storage.CallError → String)
    (c : Storage.Conclusion Storage.Verdict) :
    (ofConclusion kind message c).Advises ↔ c.Advises := by
  unfold Advises Storage.Conclusion.Advises ofConclusion
  rcases c.result with e | verdict
  · cases e <;> simp
  · simp

namespace Effect

/-- The definition for whose storage a job asks. -/
def storedFor? (id : Nat) : Effect → Option Definition
  | store job d => if job = id then some d else none
  | _ => none

end Effect

/-- The definitions for whose storage a job asks, in order. -/
def Progress.storedFor (id : Nat) (p : Progress) : List Definition :=
  p.effects.filterMap (Effect.storedFor? id)

theorem Effect.Quiet.storedFor {told : List Effect} (h : Quiet told) (id : Nat) :
    told.filterMap (storedFor? id) = [] := by
  refine List.filterMap_eq_nil_iff.mpr fun e he => ?_
  have hnone := List.filterMap_eq_nil_iff.mp h.stores e he
  cases e <;> first | rfl | cases hnone

namespace Autosaver

variable {s : Autosaver} {id : Nat} {d : Definition} {a : Action} {p : Progress}

/-! ## Courses

A course is a run in which what is told on the way is kept. It is cut in two where it is convenient,
and each half tells its own part. -/

/-- What actions leave behind, each at its time, with all that is told on the way. -/
def course (s : Autosaver) : List (Nat × Action) → Progress
  | [] => ⟨s, []⟩
  | (now, a) :: rest =>
    let first := s.step now a
    let later := first.saver.course rest
    ⟨later.saver, first.effects ++ later.effects⟩

/-- The first step tells its part, and the rest of the course the rest. -/
theorem storedFor_course_cons (now : Nat) (a : Action) (rest : List (Nat × Action)) :
    (s.course ((now, a) :: rest)).storedFor id =
      (s.step now a).storedFor id ++ ((s.step now a).saver.course rest).storedFor id :=
  List.filterMap_append

theorem storedFor_course_append (first second : List (Nat × Action)) :
    (s.course (first ++ second)).storedFor id =
      (s.course first).storedFor id ++ ((s.course first).saver.course second).storedFor id := by
  induction first generalizing s with
  | nil => rfl
  | cons a rest ih =>
    rw [List.cons_append, storedFor_course_cons, storedFor_course_cons, ih, List.append_assoc]
    rfl

theorem Orderly.course (h : s.Orderly) (actions : List (Nat × Action)) :
    (s.course actions).saver.Orderly := by
  induction actions generalizing s with
  | nil => exact h
  | cons a rest ih => exact ih (h.step a.1 a.2)

/-- Whether definitions are checked remotely does not change along a course. -/
theorem checksRemotely_course (s : Autosaver) (actions : List (Nat × Action)) :
    (s.course actions).saver.checksRemotely = s.checksRemotely := by
  induction actions generalizing s with
  | nil => rfl
  | cons a rest ih => exact (ih _).trans (turn_step a.1 s a.2).checksRemotely_eq

/-! ## Asking for the storage -/

/-- The storage is asked for a job when it begins, or when its check has come to an end. -/
theorem Turn.storedFor_eq_nil (h : Turn s a p) (hbegin : a ≠ .begin id)
    (hchecked : ∀ answer, a ≠ .checked id answer) : p.storedFor id = [] := by
  have hissue : ∀ {t : Autosaver} {j : Job} {told : List Effect} {d : Definition}, Quiet told →
      j.id ≠ id → (t.issue j d told).storedFor id = [] := by
    intro t j told d hq hne
    rw [Progress.storedFor, issue, List.filterMap_append, hq.storedFor]
    exact List.filterMap_cons_none (if_neg hne)
  cases h with
  | rests _ hq => exact hq.storedFor id
  | queues => rfl
  | ends _ hq => exact hq.storedFor id
  | asks => rfl
  | begins _ _ _ _ hq => exact hissue hq fun hid => hbegin (congrArg Action.begin hid)
  | resumes _ _ hq => exact hissue hq fun hid => hchecked _ (congrArg (Action.checked · _) hid)
  | hears _ _ _ _ hq => exact hq.storedFor id

/-- A job that has begun does not begin again. -/
theorem begin_of_begun (h : ∀ j, s.job? id = some j → j.phase ≠ .queued) :
    s.begin id = ⟨s, []⟩ := by
  unfold begin
  cases hjob : s.job? id with
  | none => rfl
  | some j =>
    have hbegun := h j hjob
    obtain ⟨i, kind, phase⟩ := j
    cases phase with
    | queued => exact absurd rfl hbegun
    | checking d => rfl
    | saving g d => rfl

/-- The end of a check means nothing to a job that is not being checked. -/
theorem checked_of_not_checking (h : ∀ j, s.job? id = some j → ∀ d, j.phase ≠ .checking d)
    (answer : CheckAnswer) : s.checked id answer = ⟨s, []⟩ := by
  unfold checked
  cases hjob : s.job? id with
  | none => rfl
  | some j =>
    have hother := h j hjob
    obtain ⟨i, kind, phase⟩ := j
    cases phase with
    | queued => rfl
    | checking d => exact absurd rfl (hother d)
    | saving g d => rfl

/-- An answer of the storage means nothing to a job that does not wait for one. -/
theorem stored_of_not_saving (h : ∀ j, s.job? id = some j → ∀ g d, j.phase ≠ .saving g d)
    (answer : StorageAnswer) : s.stored id answer = ⟨s, []⟩ := by
  unfold stored
  cases hjob : s.job? id with
  | none => rfl
  | some j =>
    have hother := h j hjob
    obtain ⟨i, kind, phase⟩ := j
    cases phase with
    | queued => rfl
    | checking d => rfl
    | saving g d => exact absurd rfl (hother g d)

/-! ## Jobs that wait for the check -/

/-- **Waiting.** A job waits for its check, whatever else happens, asking for nothing meanwhile. -/
theorem waits_step (ho : s.Orderly) {j : Job} (hjob : s.job? id = some j)
    (hp : j.phase = .checking d) (now : Nat) (ha : ∀ answer, a ≠ .checked id answer) :
    (s.step now a).saver.job? id = some j ∧ (s.step now a).storedFor id = [] := by
  -- of the three actions about the job, two find it in a phase that they are not meant for
  have hbegun : s.begin id = ⟨s, []⟩ := begin_of_begun fun i hi => by
    rw [hjob] at hi
    obtain rfl := Option.some.inj hi
    rw [hp]
    exact nofun
  have hunsaved : ∀ answer, s.stored id answer = ⟨s, []⟩ := stored_of_not_saving fun i hi => by
    rw [hjob] at hi
    obtain rfl := Option.some.inj hi
    rw [hp]
    exact nofun
  have hrests : a.job? = some id → s.step now a = ⟨s, []⟩ := by
    -- an action that is about the job, but not the end of its check, comes to nothing
    intro hid
    cases a with
    | begin i =>
      obtain rfl := Option.some.inj hid
      exact hbegun
    | checked i answer =>
      obtain rfl := Option.some.inj hid
      exact absurd rfl (ha answer)
    | stored i answer =>
      obtain rfl := Option.some.inj hid
      exact hunsaved answer
    | _ => cases hid
  refine ⟨job?_step_of_rests ho hjob now hrests, ?_⟩
  by_cases hid : a.job? = some id
  · rw [hrests hid]
    rfl
  · refine (turn_step now s a).storedFor_eq_nil ?_ ha
    rintro rfl
    exact hid rfl

theorem waits_course (ho : s.Orderly) {j : Job} (hjob : s.job? id = some j)
    (hp : j.phase = .checking d) {actions : List (Nat × Action)}
    (ha : ∀ a ∈ actions, ∀ answer, a.2 ≠ .checked id answer) :
    (s.course actions).saver.job? id = some j ∧ (s.course actions).storedFor id = [] := by
  induction actions generalizing s with
  | nil => exact ⟨hjob, rfl⟩
  | cons a rest ih =>
    obtain ⟨hfirst, hrest⟩ := List.forall_mem_cons.mp ha
    obtain ⟨hstays, hnone⟩ := waits_step ho hjob hp a.1 hfirst
    obtain ⟨hlast, hlater⟩ := ih (ho.step a.1 a.2) hstays hrest
    refine ⟨hlast, ?_⟩
    rw [storedFor_course_cons, hnone, hlater]
    rfl

/-! ## Jobs that have asked -/

/-- The job has asked for the storage, or has ended. -/
structure Spent (s : Autosaver) (id : Nat) : Prop where
  lt : id < s.nextJob
  saving : ∀ j, s.job? id = some j → ∃ g d, j.phase = .saving g d

theorem Passage.nextJob_le (h : Passage s a p) : s.nextJob ≤ p.saver.nextJob := by
  cases h with
  | rests hl => exact hl.nextJob.ge
  | queues _ _ hl => exact Nat.le_succ_of_le hl.nextJob.ge
  | moves _ _ _ hl => exact hl.nextJob.ge
  | ends _ _ _ _ hl => exact hl.nextJob.ge
  | launches _ _ _ _ _ hl => exact hl.nextJob.ge
  | strands _ _ _ _ _ hl => exact hl.nextJob.ge
  | lands _ _ _ _ hl => exact hl.nextJob.ge

/-- The answer of the storage ends the job. -/
theorem Spent.job?_stored (h : s.Spent id) (answer : StorageAnswer) :
    (s.stored id answer).saver.job? id = none := by
  cases hjob : s.job? id with
  | none =>
    rw [stored_of_not_saving (by rw [hjob]; exact nofun)]
    exact hjob
  | some j =>
    obtain ⟨g, d, hp⟩ := h.saving j hjob
    obtain ⟨i, kind, phase⟩ := j
    obtain rfl : phase = .saving g d := hp
    obtain rfl : i = id := (job?_eq_some hjob).2
    unfold stored
    rw [hjob]
    cases kind with
    | explicit => exact (concludes_endExplicit ..).job?_eq_none
    | automatic byTimer => exact (concludes_endAutomatic ..).job?_eq_none

/-- **Nothing more.** A job that has asked for the storage does not ask again, whatever happens. -/
theorem Spent.step (h : s.Spent id) (ho : s.Orderly) (now : Nat) (a : Action) :
    (s.step now a).saver.Spent id ∧ (s.step now a).storedFor id = [] := by
  have hpassage := passage_step ho now a
  have hlt : id < (s.step now a).saver.nextJob := Nat.lt_of_lt_of_le h.lt hpassage.nextJob_le
  have hbegun : s.begin id = ⟨s, []⟩ := begin_of_begun fun j hj => by
    obtain ⟨g, d, hp⟩ := h.saving j hj
    rw [hp]
    rintro ⟨⟩
  have hunchecked : ∀ answer, s.checked id answer = ⟨s, []⟩ :=
      checked_of_not_checking fun j hj => by
    obtain ⟨g, d, hp⟩ := h.saving j hj
    rw [hp]
    rintro e ⟨⟩
  -- actions about the job find it in the last phase, where only the answer of the storage means
  -- anything
  by_cases hid : a.job? = some id
  · cases a with
    | begin i =>
      obtain rfl := Option.some.inj hid
      rw [Autosaver.step, hbegun]
      exact ⟨h, rfl⟩
    | checked i answer =>
      obtain rfl := Option.some.inj hid
      rw [Autosaver.step, hunchecked]
      exact ⟨h, rfl⟩
    | stored i answer =>
      obtain rfl := Option.some.inj hid
      refine ⟨⟨hlt, fun j hj => ?_⟩, (turn_step now s _).storedFor_eq_nil ?_ ?_⟩
      · rw [Autosaver.step, h.job?_stored] at hj
        cases hj
      · rintro ⟨⟩
      · rintro answer ⟨⟩
    | _ => cases hid
  · refine ⟨⟨hlt, ?_⟩, (turn_step now s a).storedFor_eq_nil ?_ ?_⟩
    · rw [hpassage.job?_eq hid h.lt]
      exact h.saving
    · rintro rfl
      exact hid rfl
    · rintro answer rfl
      exact hid rfl

theorem Spent.course (h : s.Spent id) (ho : s.Orderly) (actions : List (Nat × Action)) :
    (s.course actions).storedFor id = [] := by
  induction actions generalizing s with
  | nil => rfl
  | cons a rest ih =>
    obtain ⟨hstays, hnone⟩ := h.step ho a.1 a.2
    rw [storedFor_course_cons, hnone, ih hstays (ho.step a.1 a.2)]
    rfl

/-! ## The save -/

/-- An explicit save of a form with names has the definition checked, unless it is too deep for
that. -/
theorem begin_eq_check (hjob : s.job? id = some ⟨id, .explicit, .queued⟩)
    (hremote : s.checksRemotely = true) (hnames : s.editor.hasNames = .ok true)
    (hd : s.editor.Holds d) :
    s.begin id = if d.isShallow then
        ⟨{ s with timer := s.timer.cancel }.moveTo id (.checking d), [.check id d]⟩
      else { s with timer := s.timer.cancel }.finish ⟨id, .explicit, .queued⟩
        (.failed .tooDeep) [] := by
  unfold begin
  rw [hjob]
  simp only
  unfold beginExplicit
  simp only [hnames, Editor.snapshot_eq_ok.mpr hd, hremote, if_true]

/-- The end of the check leads to the storage, or ends the save. -/
theorem checked_cases (hjob : s.job? id = some ⟨id, .explicit, .checking d⟩)
    (answer : CheckAnswer) :
    (answer.Advises ∧ ∃ told, Quiet told ∧
      s.checked id answer = s.issue ⟨id, .explicit, .checking d⟩ d told) ∨
    (¬answer.Advises ∧ ∃ result,
      s.checked id answer = s.finish ⟨id, .explicit, .checking d⟩ result []) := by
  unfold checked
  rw [hjob]
  cases answer with
  | answered v =>
    cases hv : problemsIn v with
    | ok problems =>
      refine .inl ⟨.inl ⟨v, problems, rfl, hv⟩, _, quiet_warnOf problems, ?_⟩
      simp only [hv]
    | error e =>
      refine .inr ⟨?_, .failed e, ?_⟩
      · simp [CheckAnswer.Advises, hv]
      · simp only [hv]
  -- of the errors only one says that no advice can be had
  | failed e =>
    rcases e with (_ | _ | _ | _ | ⟨message, status⟩) | _ | _ | _
    case error.unavailable =>
      exact .inl ⟨.inr ⟨message, status, rfl⟩, _,
        (show Quiet [.log _] from ⟨rfl, rfl⟩).append (quiet_warnOf _), rfl⟩
    all_goals exact .inr ⟨by simp [CheckAnswer.Advises], _, rfl⟩
  | cancelled => exact .inr ⟨by simp [CheckAnswer.Advises], _, rfl⟩

/-- A job that ends without further ado asks for nothing. -/
theorem storedFor_finish (s : Autosaver) (j : Job) (result : JobResult) (id : Nat) :
    (s.finish j result []).storedFor id = [] :=
  (quiet_finish s j result .nil).storedFor id

/-- **The check.** A save that waits for its check asks for the storage, and once, exactly if the
check ends with advice. -/
theorem storedFor_checking (ho : s.Orderly) (hjob : s.job? id = some ⟨id, .explicit, .checking d⟩)
    {during : List (Nat × Action)} (hduring : ∀ a ∈ during, ∀ answer, a.2 ≠ .checked id answer)
    (back : Nat) (answer : CheckAnswer) (after : List (Nat × Action)) :
    let stores := (s.course (during ++ (back, .checked id answer) :: after)).storedFor id
    (answer.Advises → stores = [d]) ∧ (¬answer.Advises → stores = []) := by
  intro stores
  obtain ⟨hwaits, hnone⟩ := waits_course ho hjob rfl hduring
  have hot := ho.course during
  have hstores : stores = ((s.course during).saver.checked id answer).storedFor id ++
      (((s.course during).saver.checked id answer).saver.course after).storedFor id := by
    change (s.course _).storedFor id = _
    rw [storedFor_course_append, hnone, List.nil_append, storedFor_course_cons]
    rfl
  generalize (s.course during).saver = t at hwaits hot hstores
  have hlt : id < t.nextJob := hot.lt _ (job?_eq_some hwaits).1
  -- what comes after the check finds a job that is spent
  have hlater : (t.checked id answer).saver.Spent id →
      stores = (t.checked id answer).storedFor id := by
    intro hspent
    have hafter := hspent.course (hot.step back (.checked id answer)) after
    rw [hstores, hafter, List.append_nil]
  -- in both cases the job is spent after the step: it waits for the storage, or it is gone
  rcases checked_cases hwaits answer with ⟨hadvises, told, hq, heq⟩ | ⟨hrefuses, result, heq⟩
  · refine ⟨fun _ => ?_, fun h => absurd hadvises h⟩
    rw [hlater, heq, issue, Progress.storedFor, List.filterMap_append, hq.storedFor]
    · simp [Effect.storedFor?]
    · rw [heq]
      refine ⟨hlt, fun j hj => ?_⟩
      rw [issue, job?_moveTo] at hj
      obtain ⟨i, hi, rfl⟩ := Option.map_eq_some_iff.mp hj
      rw [if_pos (job?_eq_some hi).2]
      exact ⟨_, _, rfl⟩
  · refine ⟨fun h => absurd h hrefuses, fun _ => ?_⟩
    rw [hlater, heq]
    · exact storedFor_finish ..
    · rw [heq]
      refine ⟨hlt, fun j hj => ?_⟩
      change (t.dropJob id).job? id = some j at hj
      rw [job?_dropJob_self] at hj
      cases hj

/-- **One save.** It asks for the storage of the definition that it has taken, and once, exactly if
the definition can be sent to the check and the check ends with advice. -/
theorem storedFor_save (ho : s.Orderly) (hremote : s.checksRemotely = true)
    (hjob : s.job? id = some ⟨id, .explicit, .queued⟩) (hnames : s.editor.hasNames = .ok true)
    (hd : s.editor.Holds d) (start : Nat) {during : List (Nat × Action)}
    (hduring : ∀ a ∈ during, ∀ answer, a.2 ≠ .checked id answer) (back : Nat)
    (answer : CheckAnswer) (after : List (Nat × Action)) :
    let stores := (s.course
      ((start, .begin id) :: (during ++ (back, .checked id answer) :: after))).storedFor id
    (d.isShallow = true ∧ answer.Advises → stores = [d]) ∧
      (¬(d.isShallow = true ∧ answer.Advises) → stores = []) := by
  intro stores
  have hbegin := begin_eq_check hjob hremote hnames hd
  have hstores : stores = (s.begin id).storedFor id ++ ((s.begin id).saver.course
      (during ++ (back, .checked id answer) :: after)).storedFor id :=
    storedFor_course_cons start (.begin id) _
  have hbegun : (s.begin id).saver.Orderly := ho.step start (.begin id)
  rw [hbegin] at hstores hbegun
  by_cases hshallow : d.isShallow = true
  · rw [if_pos hshallow] at hstores hbegun
    -- the job has moved on to the check, so an answer of the check will find it
    have hwaits : ({ s with timer := s.timer.cancel }.moveTo id (.checking d)).job? id =
        some ⟨id, .explicit, .checking d⟩ := by
      rw [job?_moveTo]
      change (s.job? id).map _ = _
      rw [hjob]
      exact congrArg some (if_pos rfl)
    have hcheck := storedFor_checking hbegun hwaits hduring back answer after
    simp only [hshallow, true_and]
    rw [hstores]
    exact hcheck
  · -- the save has ended, and nobody waits for the check
    rw [if_neg hshallow] at hstores hbegun
    refine ⟨fun h => absurd h.1 hshallow, fun _ => ?_⟩
    have hspent : ({ s with timer := s.timer.cancel }.dropJob id).Spent id := by
      refine ⟨ho.lt _ (job?_eq_some hjob).1, fun j hj => ?_⟩
      rw [job?_dropJob_self] at hj
      cases hj
    rw [hstores, storedFor_finish]
    exact hspent.course hbegun _

/-- **Saving with advice.** Let an explicit save begin, at any point of any run, that is checked by
the client, and let the form have names and a definition that can be taken. Whatever happens until
the response to the check comes, and after it, the storage of this definition is asked for and of no
other, and once, if the definition is not too deep, the request can be sent and the response is one
to be heeded. Otherwise the storage is not asked. -/
theorem save_heeds (e : Editor) (delay : Option Nat) (before : List (Nat × Action)) {id : Nat}
    {d : Definition} (base : Url) (respond : Storage.Dispatch → Storage.Response)
    (kind message : Storage.CallError → String)
    (hjob : ((watch e delay true).course before).saver.job? id = some ⟨id, .explicit, .queued⟩)
    (hnames : ((watch e delay true).course before).saver.editor.hasNames = .ok true)
    (hd : ((watch e delay true).course before).saver.editor.Holds d)
    (start back : Nat) {during : List (Nat × Action)}
    (hduring : ∀ a ∈ during, ∀ answer, a.2 ≠ .checked id answer) (after : List (Nat × Action)) :
    let check := Storage.validate d.payload.entries
    let answer := CheckAnswer.ofConclusion kind message (check.run base respond).2
    let heeded := d.isShallow = true ∧
      ∃ sent, check.request.dispatch base = .ok sent ∧ (respond sent).Heeded
    let stores := (((watch e delay true).course before).saver.course
      ((start, .begin id) :: (during ++ (back, .checked id answer) :: after))).storedFor id
    (heeded → stores = [d]) ∧ (¬heeded → stores = []) := by
  intro check answer heeded stores
  have ho : ((watch e delay true).course before).saver.Orderly :=
    (Orderly.watch e delay true).course _
  have hremote := checksRemotely_course (watch e delay true) before
  have hsave := storedFor_save ho hremote hjob hnames hd start hduring back answer after
  rw [CheckAnswer.ofConclusion_advises, Storage.run_validate_advises] at hsave
  exact hsave

/-- An explicit save of a stored form. -/
def asking : List (Nat × Action) := [(0, .request .explicit)]

/-- The address of the remote check. -/
def place : Url := { scheme := "http", authority := "x" }

/-- A JSON object that names problems. -/
def objection (problems : List Value) : List UInt8 :=
  Text.utf8Bytes (Json.write (.record [("valid", .bool false), ("errors", .list problems)])).toList

/-- The form is edited while a check is made that finds a problem. What is stored is the form as it
was. -/
theorem save_heeds_objection :
    let s := ((watch Ledger.edited none true).course asking).saver
    let answer := CheckAnswer.ofConclusion (fun _ => "") (fun _ => "")
      ((Storage.validate (Ledger.renamed "Old").payload.entries).run place
        fun _ => .answered 200 (objection [.text "No fields"])).2
    (s.course [(0, .begin 0), (1, .edit (.updateMetadata [("name", .text "New")])),
      (2, .checked 0 answer), (3, .stored 0 (.stored .nothing))]).storedFor 0 =
        [Ledger.renamed "Old"] := by
  intro s answer
  have hheld : s.editor.Holds (Ledger.renamed "Old") := ⟨rfl, rfl, rfl, rfl, rfl⟩
  have hduring : ∀ a ∈ [(1, Action.edit (.updateMetadata [("name", .text "New")]))],
      ∀ answer, a.2 ≠ .checked 0 answer := by
    intro a ha answer
    rw [List.mem_singleton.mp ha]
    exact nofun
  have hheeded : (Storage.Response.answered 200 (objection [.text "No fields"])).Heeded := by
    decide +kernel
  obtain ⟨sent, hsent⟩ : ∃ sent,
      (Storage.validate (Ledger.renamed "Old").payload.entries).request.dispatch place = .ok sent :=
    Storage.dispatch_of_isOk (by decide +kernel)
  exact (save_heeds Ledger.edited none asking place
    (fun _ => .answered 200 (objection [.text "No fields"])) (fun _ => "") (fun _ => "") rfl rfl hheld
    0 2 hduring [(3, .stored 0 (.stored .nothing))]).1 ⟨rfl, sent, hsent, hheeded⟩

/-- **The check blocks a save** when the problems that it names are no texts. -/
theorem not_stored_objection :
    ¬∀ (e : Editor) (delay : Option Nat) (before : List (Nat × Action)) (id : Nat) (d : Definition)
      (base : Url) (respond : Storage.Dispatch → Storage.Response)
      (kind message : Storage.CallError → String),
      ((watch e delay true).course before).saver.job? id = some ⟨id, .explicit, .queued⟩ →
      ((watch e delay true).course before).saver.editor.hasNames = .ok true →
      ((watch e delay true).course before).saver.editor.Holds d →
      (∃ sent, (Storage.validate d.payload.entries).request.dispatch base = .ok sent) →
      (∀ sent, ∃ status content es, respond sent = .answered status content ∧
        Storage.jsonOf content = .ok (some (.record es))) →
      (((watch e delay true).course before).saver.course [(0, .begin id),
        (1, .checked id (CheckAnswer.ofConclusion kind message
          ((Storage.validate d.payload.entries).run base respond).2))]).storedFor id = [d] := by
  intro h
  let s := ((watch Ledger.edited none true).course asking).saver
  let answer := CheckAnswer.ofConclusion (fun _ => "") (fun _ => "")
    ((Storage.validate (Ledger.renamed "Old").payload.entries).run place
      fun _ => .answered 200 (objection [.int 1])).2
  have ho : s.Orderly := (Orderly.watch Ledger.edited none true).course asking
  have hjob : s.job? 0 = some ⟨0, .explicit, .queued⟩ := rfl
  have hheld : s.editor.Holds (Ledger.renamed "Old") := ⟨rfl, rfl, rfl, rfl, rfl⟩
  obtain ⟨es, hjson⟩ : ∃ es, Storage.jsonOf (objection [.int 1]) = .ok (some (.record es)) :=
    Storage.jsonOf_record (by decide +kernel)
  -- problems that are no texts are not heeded, so the check does not advise
  have hblocked : ¬(Storage.Response.answered 200 (objection [.int 1])).Heeded := by decide +kernel
  have hadvises : ¬answer.Advises := by
    rw [CheckAnswer.ofConclusion_advises, Storage.run_validate_advises]
    rintro ⟨sent, -, hheeded⟩
    exact hblocked hheeded
  have hstored : (s.course [(0, .begin 0), (1, .checked 0 answer)]).storedFor 0 =
      [Ledger.renamed "Old"] :=
    h Ledger.edited none asking 0 (Ledger.renamed "Old") place
      (fun _ => .answered 200 (objection [.int 1])) (fun _ => "") (fun _ => "") hjob rfl hheld
      (Storage.dispatch_of_isOk (by decide +kernel)) fun _ => ⟨200, _, es, rfl, hjson⟩
  -- but without advice nothing is stored
  have hnone := (storedFor_save ho rfl hjob rfl hheld 0 (List.forall_mem_nil _) 1 answer []).2
    fun hand => hadvises hand.2
  rw [List.nil_append, hstored] at hnone
  cases hnone

end Autosaver

end DynamicForm

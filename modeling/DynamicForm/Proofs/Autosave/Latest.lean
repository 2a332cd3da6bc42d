import DynamicForm.Proofs.Autosave.Order
import DynamicForm.Proofs.Editor.Snapshot

/-!
# The latest save

Saves may be answered in any order. What stands in the end does not depend on it: it is what came
with the highest number among the saves that were stored.

An answer that comes late must not undo one that came before it, so the number under which a save
asked the storage is compared with the number applied last. Seen from outside this is a race with a
simple winner. The successes of a run are a list in the order of their answers, an answer to a save
with a lower number than one before changes nothing, and so the fold over the list keeps its
maximum. What has to be shown is that nothing else in a run changes what stands, and that the
numbers in the list are those that were drawn when the saves asked.

- `Standing` is what an answer of the storage changes: the number applied last, what was stored
  last, and the identity of the form.
- `Autosaver.successes` lists the saves of a run that were stored, in the order of their answers.
- `Ledger.standing_run`: a run changes what stands by its successes alone.
- `Ledger.latest_stands`: after any answers in any order, that with the highest number stands.
-/

namespace DynamicForm

/-- The identity that comes with an answer of the storage. -/
def Receipt.formId? : Receipt → Option FormId
  | definition d => d.id
  | _ => none

/-- What has been stored, unless the storage failed. -/
def StorageAnswer.receipt? : StorageAnswer → Option Receipt
  | stored r => some r
  | _ => none

/-- The number under which a job waits for the storage. -/
def Phase.generation? : Phase → Option Nat
  | saving g _ => some g
  | _ => none

/-- Only a job that waits for the storage has a number. -/
theorem Phase.generation?_eq_some {p : Phase} {g : Nat} :
    p.generation? = some g ↔ ∃ d, p = .saving g d := by
  cases p <;> simp [generation?]

/-- What an answer of the storage changes. -/
structure Standing where
  applied : Nat
  lastSaved : Receipt
  formId : Option FormId

namespace Standing

/-- What stands when a save has been answered: nothing new unless its number is the highest. -/
def hear (k : Standing) (g : Nat) (r : Receipt) : Standing :=
  if g ≤ k.applied then k else ⟨g, k.lastSaved.over r, r.formId?.or k.formId⟩

/-- What comes with a save. -/
def of (w : Draw × Receipt) : Standing := ⟨w.1.generation, w.2, w.2.formId?⟩

/-- What stands after these saves have been answered is what came with the highest number among
them, or what stood before if none is higher than the number applied last. -/
structure Latest (before after : Standing) (won : List (Draw × Receipt)) : Prop where
  unchanged : (∀ w ∈ won, w.1.generation ≤ before.applied) → after = before
  changed : (∃ w ∈ won, before.applied < w.1.generation) →
    ∃ w ∈ won, (∀ v ∈ won, v.1.generation ≤ w.1.generation) ∧ after = of w

variable {k : Standing} {g : Nat} {r : Receipt}

theorem hear_of_le (h : g ≤ k.applied) : k.hear g r = k := if_pos h

/-- A later save replaces everything that stands, since the storage gives back an identity with it.
-/
theorem hear_of_lt (h : k.applied < g) (hid : r.formId?.isSome) : k.hear g r = ⟨g, r, r.formId?⟩ := by
  rw [hear, if_neg (Nat.not_le.mpr h), Option.or_of_isSome hid]
  cases r with
  | definition d => rfl
  | nothing => cases hid
  | other v => cases hid

/-- Answers that come one after the other raise the number to their highest, and what stands comes
from one of them unless nothing changes. -/
theorem foldl_hear (won : List (Draw × Receipt)) (k : Standing)
    (hid : ∀ w ∈ won, w.2.formId?.isSome) :
    let last := won.foldl (fun k w => k.hear w.1.generation w.2) k
    k.applied ≤ last.applied ∧ (∀ w ∈ won, w.1.generation ≤ last.applied) ∧
      (last = k ∨ ∃ w ∈ won, k.applied < w.1.generation ∧ last = of w) := by
  induction won generalizing k with
  | nil => exact ⟨Nat.le_refl _, List.forall_mem_nil _, .inl rfl⟩
  | cons w rest ih =>
    obtain ⟨hw, hrest⟩ := List.forall_mem_cons.mp hid
    rw [List.foldl_cons]
    by_cases hle : w.1.generation ≤ k.applied
    -- an answer that comes too late changes nothing
    · rw [hear_of_le hle]
      obtain ⟨hmono, hmax, hfrom⟩ := ih k hrest
      refine ⟨hmono, List.forall_mem_cons.mpr ⟨Nat.le_trans hle hmono, hmax⟩, hfrom.imp_right ?_⟩
      rintro ⟨v, hv, hlt, heq⟩
      exact ⟨v, List.mem_cons_of_mem _ hv, hlt, heq⟩
    · -- from here on this save is what a later answer has to beat
      have hlt : k.applied < w.1.generation := Nat.lt_of_not_le hle
      rw [hear_of_lt hlt hw]
      obtain ⟨hmono, hmax, hfrom⟩ := ih (of w) hrest
      refine ⟨Nat.le_trans (Nat.le_of_lt hlt) hmono, List.forall_mem_cons.mpr ⟨hmono, hmax⟩, .inr ?_⟩
      rcases hfrom with heq | ⟨v, hv, hlt', heq⟩
      · exact ⟨w, List.mem_cons_self, hlt, heq⟩
      · exact ⟨v, List.mem_cons_of_mem _ hv, Nat.lt_trans hlt hlt', heq⟩

/-- So the last of them that changes anything has the highest number of all. -/
theorem latest_foldl (won : List (Draw × Receipt)) (k : Standing)
    (hid : ∀ w ∈ won, w.2.formId?.isSome) :
    Latest k (won.foldl (fun k w => k.hear w.1.generation w.2) k) won := by
  -- the number that is applied in the end bounds all of them, and belongs to one of them if it is
  -- new
  obtain ⟨-, hmax, hfrom⟩ := foldl_hear won k hid
  constructor
  · intro hlow
    rcases hfrom with heq | ⟨w, hw, hlt, -⟩
    · exact heq
    · exact absurd hlt (Nat.not_lt.mpr (hlow w hw))
  · rintro ⟨w, hw, hlt⟩
    rcases hfrom with heq | ⟨v, hv, -, heq⟩
    · exact absurd hlt (Nat.not_lt.mpr (heq ▸ hmax w hw))
    · rw [heq] at hmax ⊢
      exact ⟨v, hv, hmax, rfl⟩

end Standing

namespace Autosaver

/-- Whether an action leaves the identity of the form to the saves: it does not bring one itself,
and what the storage gives back has one. -/
def Action.isPlain : Action → Bool
  | .adopt _ => false
  | .stored _ (.stored r) => r.formId?.isSome
  | _ => true

def standing (s : Autosaver) : Standing := ⟨s.applied, s.lastSaved, s.editor.formId⟩

/-- The save that is stored by an action, with what the storage gave back. -/
def success? (s : Autosaver) : Action → Option (Draw × Receipt)
  | .stored id answer =>
    (s.job? id).bind fun j => j.phase.generation?.bind fun g =>
      answer.receipt?.map fun r => (⟨id, g⟩, r)
  | _ => none

/-- The saves that are stored in a run, in the order in which their answers come. -/
def successes (s : Autosaver) : List (Nat × Action) → List (Draw × Receipt)
  | [] => []
  | a :: rest => (s.success? a.2).toList ++ (s.step a.1 a.2).saver.successes rest

variable {s : Autosaver} {j : Job} {g : Nat}

/-! ## What leaves everything standing

Beginning a save, checking it and editing the form leave alone what has been stored before. An edit
cannot change the identity either. -/

/-- An automatic save draws a number, but applies none. -/
theorem standing_beginAutomatic (s : Autosaver) (j : Job) :
    (s.beginAutomatic j).saver.standing = s.standing := by
  unfold beginAutomatic
  split
  · rfl
  · split
    · rfl
    · rfl
    · split <;> rfl

/-- An explicit save may cancel the timer, which does not matter here. -/
theorem standing_beginExplicit (s : Autosaver) (j : Job) :
    (s.beginExplicit j).saver.standing = s.standing := by
  unfold beginExplicit
  simp only
  split
  · rfl
  · split <;> rfl
  · split
    · rfl
    · split
      · split <;> rfl
      · rfl

/-- Whatever kind of job begins, nothing has been answered yet. -/
theorem standing_begin (s : Autosaver) (id : Nat) : (s.begin id).saver.standing = s.standing := by
  unfold begin
  split
  · split
    · exact standing_beginExplicit ..
    · exact standing_beginAutomatic ..
    · rfl
  · rfl

theorem standing_checked (s : Autosaver) (id : Nat) (answer : CheckAnswer) :
    (s.checked id answer).saver.standing = s.standing := by
  unfold checked
  split
  · split
    · split <;> rfl
    all_goals rfl
  · rfl

theorem standing_trigger (now : Nat) (s : Autosaver) : (s.trigger now).standing = s.standing := by
  unfold trigger
  split <;> rfl

/-- An edit keeps the identity of the form and touches no answer. -/
theorem standing_edit (now : Nat) (s : Autosaver) (c : Command) :
    (s.step now (.edit c)).saver.standing = s.standing := by
  have hformId : ({ s with editor := (s.editor.perform c).editor } : Autosaver).standing =
      s.standing := congrArg (Standing.mk _ _) (Editor.perform_formId s.editor c)
  unfold step afterEdit
  simp only
  split
  · exact (standing_trigger now _).trans hformId
  · exact hformId

/-- A report of the timer queues a job, which has stored nothing. -/
theorem standing_timer (now : Nat) (s : Autosaver) :
    (s.step now .timer).saver.standing = s.standing := by
  unfold step
  simp only
  split <;> rfl

/-! ## Answers of the storage

From `apply`, which compares the numbers, outwards to the step that receives the answer. -/

/-- What applying does is what the fold does with one success. -/
theorem standing_apply (s : Autosaver) (g : Nat) (r : Receipt) :
    (s.apply g r).1.saver.standing = s.standing.hear g r := by
  unfold apply Standing.hear
  split
  · next hle => exact (if_pos hle).symm
  · next hlt =>
    refine Eq.trans ?_ (if_neg hlt).symm
    cases r with
    | nothing => rfl
    | definition d => exact congrArg (Standing.mk _ _) (Editor.applySaved_formId s.editor d)
    | other v => rfl

/-- The job ends after its answer has been applied, and ending changes nothing. -/
theorem standing_endStored (s : Autosaver) (j : Job) (g : Nat) (r : Receipt) (result : JobResult)
    (told : List Effect) :
    (s.endStored j g r result told).saver.standing = s.standing.hear g r := by
  rw [← standing_apply]
  unfold endStored
  split <;> next heq => rw [heq]; rfl

/-- For an automatic save, only an answer with something stored counts. -/
theorem standing_endAutomatic (s : Autosaver) (j : Job) (g : Nat) (d : Definition)
    (answer : StorageAnswer) :
    (s.endAutomatic j g d answer).saver.standing =
      answer.receipt?.elim s.standing (s.standing.hear g) := by
  unfold endAutomatic
  simp only
  split
  · exact standing_endStored ..
  · split <;> rfl
  · rfl
  · rfl

theorem standing_endExplicit (s : Autosaver) (j : Job) (g : Nat) (d : Definition)
    (answer : StorageAnswer) :
    (s.endExplicit j g d answer).saver.standing =
      answer.receipt?.elim s.standing (s.standing.hear g) := by
  unfold endExplicit
  split
  · exact standing_endStored ..
  · split <;> rfl
  · rfl
  · rfl

/-- An answer of the storage changes what stands exactly if it is a success. -/
theorem standing_stored (s : Autosaver) (id : Nat) (answer : StorageAnswer) :
    (s.stored id answer).saver.standing =
      (s.success? (.stored id answer)).elim s.standing fun w => s.standing.hear w.1.generation w.2 := by
  simp only [success?]
  -- an answer means something only to a job that waits for the storage
  cases hjob : s.job? id with
  | none => simp [stored, hjob]
  | some j =>
    obtain ⟨i, kind, phase⟩ := j
    cases phase with
    | queued => cases kind <;> simp [stored, hjob, Phase.generation?]
    | checking d => cases kind <;> simp [stored, hjob, Phase.generation?]
    | saving g d =>
      have hended : (s.stored id answer).saver.standing =
          answer.receipt?.elim s.standing (s.standing.hear g) := by
        unfold stored
        rw [hjob]
        cases kind with
        | explicit => exact standing_endExplicit ..
        | automatic byTimer => exact standing_endAutomatic ..
      rw [hended]
      cases answer <;> rfl

/-- **A stale answer** leaves everything standing. -/
theorem standing_stored_of_le {id : Nat} {d : Definition} (hjob : s.job? id = some j)
    (hp : j.phase = .saving g d) (hle : g ≤ s.applied) (answer : StorageAnswer) :
    (s.stored id answer).saver.standing = s.standing := by
  rw [standing_stored, success?, hjob, Option.bind_some, hp]
  cases answer with
  | stored r => exact Standing.hear_of_le hle
  | failed e => rfl
  | cancelled => rfl

/-! ## Steps -/

/-- **A step** changes what stands by the save that it stores, if it stores one. -/
theorem standing_step (now : Nat) {s : Autosaver} {a : Action} (h : a.isPlain) :
    (s.step now a).saver.standing =
      (s.success? a).elim s.standing fun w => s.standing.hear w.1.generation w.2 := by
  cases a with
  | edit c => exact standing_edit now s c
  | adopt d => cases h
  | trigger => exact standing_trigger now s
  | close => rfl
  | timer => exact standing_timer now s
  | request kind => rfl
  | begin id => exact standing_begin s id
  | checked id answer => exact standing_checked s id answer
  | stored id answer => exact standing_stored s id answer

/-- A save that is stored is one that waits for the storage. -/
theorem eq_stored_of_success? {a : Action} {w : Draw × Receipt} (hw : s.success? a = some w) :
    ∃ j d, a = .stored w.1.job (.stored w.2) ∧ s.job? w.1.job = some j ∧
      j.phase = .saving w.1.generation d := by
  cases a with
  | stored id answer =>
    obtain ⟨j, hjob, hw⟩ := Option.bind_eq_some_iff.mp hw
    obtain ⟨g, hg, hw⟩ := Option.bind_eq_some_iff.mp hw
    obtain ⟨r, hr, rfl⟩ := Option.map_eq_some_iff.mp hw
    obtain ⟨d, hphase⟩ := Phase.generation?_eq_some.mp hg
    cases answer with
    | stored r' =>
      obtain rfl := Option.some.inj hr
      exact ⟨j, d, rfl, hjob, hphase⟩
    | failed e => cases hr
    | cancelled => cases hr
  | _ => cases hw

/-- Under the hypothesis on the actions every success brings an identity. -/
theorem successes_isSome_formId {actions : List (Nat × Action)} (h : ∀ a ∈ actions, a.2.isPlain) :
    ∀ w ∈ s.successes actions, w.2.formId?.isSome := by
  induction actions generalizing s with
  | nil => exact List.forall_mem_nil _
  | cons a rest ih =>
    obtain ⟨ha, hrest⟩ := List.forall_mem_cons.mp h
    refine List.forall_mem_append.mpr ⟨fun w hw => ?_, ih hrest⟩
    obtain ⟨-, -, heq, -⟩ := eq_stored_of_success? (Option.mem_toList.mp hw)
    rw [heq] at ha
    exact ha

/-- The number of a success was drawn when its save asked for the storage. -/
theorem mem_drawn_of_success? {a : Action} {w : Draw × Receipt} {taken : List Nat}
    {drawn : List Draw} (h : Ledger.Filed s taken drawn) (hw : s.success? a = some w) :
    w.1 ∈ drawn := by
  obtain ⟨j, d, -, hjob, hphase⟩ := eq_stored_of_success? hw
  obtain ⟨hmem, hid⟩ := job?_eq_some hjob
  have hdrawn := h.saving j hmem w.1.generation d hphase
  rwa [hid] at hdrawn

/-- A number that does not come from a save under way is not applied. -/
theorem Turn.applied_eq {a : Action} {p : Progress} {taken : List Nat} {drawn : List Draw}
    (hf : Ledger.Filed s taken drawn) (h : Turn s a p) :
    p.saver.applied = s.applied ∨ ∃ i ∈ drawn, p.saver.applied = i.generation := by
  cases h with
  | rests hs _ => exact .inl hs.applied
  | queues _ hs => exact .inl hs.applied
  | ends hs _ => exact .inl hs.applied
  | asks _ _ _ _ hs => exact .inl hs.applied
  | begins _ _ _ hs _ => exact .inl hs.applied
  | resumes => exact .inl rfl
  | @hears j g d _ _ _ hj hp _ hs _ => exact .inr ⟨⟨j.id, g⟩, hf.saving j hj g d hp, hs.applied⟩

/-- The storage is asked under a new number. -/
theorem Turn.generation_lt {a : Action} {p : Progress} (h : Turn s a p) :
    s.generation ≤ p.saver.generation ∧
      (p.effects.filterMap Effect.stores? = [] ∨ s.generation < p.saver.generation) := by
  cases h with
  | rests hs hq => exact ⟨hs.generation, .inl hq.stores⟩
  | queues _ hs => exact ⟨hs.generation, .inl rfl⟩
  | ends hs hq => exact ⟨hs.generation, .inl hq.stores⟩
  | asks _ _ _ _ hs => exact ⟨hs.generation, .inl rfl⟩
  | begins _ _ _ hs _ =>
    have hlt := Nat.lt_succ_of_le hs.generation
    exact ⟨Nat.le_of_lt hlt, .inr hlt⟩
  | resumes => exact ⟨Nat.le_succ _, .inr (Nat.lt_succ_self _)⟩
  | hears _ _ _ hs hq => exact ⟨hs.generation, .inl hq.stores⟩

end Autosaver

namespace Ledger

open Autosaver (Action)

variable {l : Ledger} {a : Action}

/-- **A run** changes what stands by its successes alone. -/
theorem standing_run (l : Ledger) {actions : List (Nat × Action)} (h : ∀ a ∈ actions, a.2.isPlain) :
    (l.run actions).saver.standing = (l.saver.successes actions).foldl
      (fun k w => k.hear w.1.generation w.2) l.saver.standing := by
  induction actions generalizing l with
  | nil => rfl
  | cons a rest ih =>
    obtain ⟨ha, hrest⟩ := List.forall_mem_cons.mp h
    refine (ih (l.step a.1 a.2) hrest).trans ?_
    change List.foldl _ (l.saver.step a.1 a.2).saver.standing _ = List.foldl _ _ (_ ++ _)
    rw [List.foldl_append, Autosaver.standing_step a.1 ha]
    cases l.saver.success? a.2 <;> rfl

/-! ## Numbers

A ledger writes down every number that is drawn, so it can be said of a run that its successes carry
numbers from the ledger, and that numbers drawn later are higher than any applied before. -/

/-- A number that is drawn is higher than all drawn before. -/
theorem mem_drawn_step {now : Nat} {i : Draw} (hi : i ∈ (l.step now a).drawn) :
    i ∈ l.drawn ∨ l.saver.generation < i.generation := by
  obtain ⟨-, hnone | hlt⟩ := (Autosaver.turn_step now l.saver a).generation_lt
  all_goals
    rcases List.mem_append.mp hi with hi | hi
    · exact .inl hi
  · rw [hnone] at hi
    cases hi
  · obtain ⟨id, -, rfl⟩ := List.mem_map.mp hi
    exact .inr hlt

theorem generation_le_run (l : Ledger) (actions : List (Nat × Action)) :
    l.saver.generation ≤ (l.run actions).saver.generation := by
  induction actions generalizing l with
  | nil => exact Nat.le_refl _
  | cons a rest ih =>
    exact Nat.le_trans (Autosaver.turn_step a.1 l.saver a.2).generation_lt.1 (ih (l.step a.1 a.2))

/-- What is drawn in a run is higher than what had been drawn before it. -/
theorem mem_drawn_run {actions : List (Nat × Action)} {i : Draw} (hi : i ∈ (l.run actions).drawn) :
    i ∈ l.drawn ∨ l.saver.generation < i.generation := by
  induction actions generalizing l with
  | nil => exact .inl hi
  | cons a rest ih =>
    rcases ih hi with hi | hlt
    · exact mem_drawn_step hi
    · exact .inr (Nat.lt_of_le_of_lt (generation_le_run l [a]) hlt)

theorem drawn_subset_run (l : Ledger) (actions : List (Nat × Action)) :
    l.drawn ⊆ (l.run actions).drawn := by
  induction actions generalizing l with
  | nil => exact List.Subset.refl _
  | cons a rest ih => exact List.Subset.trans (List.subset_append_left _ _) (ih (l.step a.1 a.2))

theorem Sound.step (h : l.Sound) (now : Nat) (a : Action) : (l.step now a).Sound :=
  h.run [(now, a)]

/-- No number is applied that has not been drawn. -/
theorem applied_le_run (h : l.Sound) (hle : l.saver.applied ≤ l.saver.generation)
    (actions : List (Nat × Action)) :
    (l.run actions).saver.applied ≤ (l.run actions).saver.generation := by
  induction actions generalizing l with
  | nil => exact hle
  | cons a rest ih =>
    have ht := Autosaver.turn_step a.1 l.saver a.2
    refine ih (h.step a.1 a.2) (Nat.le_trans ?_ ht.generation_lt.1)
    rcases ht.applied_eq h.filed with heq | ⟨i, hi, heq⟩
    · exact heq ▸ hle
    · exact heq ▸ h.drawn_le i hi

/-- Every success of a run has a number from the ledger. -/
theorem successes_drawn (h : l.Sound) (actions : List (Nat × Action)) :
    ∀ w ∈ l.saver.successes actions, w.1 ∈ (l.run actions).drawn := by
  induction actions generalizing l with
  | nil => exact List.forall_mem_nil _
  | cons a rest ih =>
    refine List.forall_mem_append.mpr ⟨fun w hw => ?_, ih (h.step a.1 a.2)⟩
    have hdrawn := Autosaver.mem_drawn_of_success? h.filed (Option.mem_toList.mp hw)
    exact drawn_subset_run l (a :: rest) hdrawn

/-- **The latest save stands.** Take any run, and let it go on with the saves under way, new ones and
any edits, while answers come in any order. Numbers rise in the order in which they are drawn. When
no save is stored that has a higher number than the one applied last before, nothing new stands.
Otherwise, what came with the highest number stands. An answer to a save whose number is not higher
than the one applied last changes nothing. -/
theorem latest_stands (e : Editor) (delay : Option Nat) (checksRemotely : Bool)
    (before actions : List (Nat × Action)) (hplain : ∀ a ∈ actions, a.2.isPlain) :
    let first := (start e delay checksRemotely).run before
    let last := first.run actions
    let won := first.saver.successes actions
    last.drawn.Pairwise (fun a b => a.generation < b.generation) ∧
    (∀ i ∈ last.drawn, i ∈ first.drawn ∨ first.saver.applied < i.generation) ∧
    (∀ w ∈ won, w.1 ∈ last.drawn) ∧
    Standing.Latest first.saver.standing last.saver.standing won ∧
    ∀ now id answer j g d, last.saver.job? id = some j → j.phase = .saving g d →
      g ≤ last.saver.applied →
      (last.saver.step now (.stored id answer)).saver.standing = last.saver.standing := by
  intro first last won
  have hsound : first.Sound := (Sound.start e delay checksRemotely).run before
  have happlied : first.saver.applied ≤ first.saver.generation :=
    applied_le_run (Sound.start e delay checksRemotely) (Nat.le_refl 0) before
  refine ⟨(hsound.run actions).increasing, fun i hi => ?_, successes_drawn hsound actions, ?_,
    fun _ _ answer _ _ _ hjob hp hle => Autosaver.standing_stored_of_le hjob hp hle answer⟩
  · exact (mem_drawn_run hi).imp_right (Nat.lt_of_le_of_lt happlied)
  -- what stands is what a fold over the successes leaves, and the fold takes the latest
  · change Standing.Latest _ (first.run actions).saver.standing _
    rw [standing_run first hplain]
    exact Standing.latest_foldl _ _ (Autosaver.successes_isSome_formId hplain)

/-- An editor of a stored form. -/
def edited : Editor where
  formId := some (.number 1)
  name := .text "Old"
  key := .text "k"

/-- The form as the storage gives it back under an identity. -/
def identified (id : Nat) : Definition := { renamed "Old" with id := some (.number id) }

/-- Three saves that are under way together. -/
def overlapping : List (Nat × Action) := [
  (0, .request .explicit), (0, .begin 0),
  (1, .request (.automatic false)), (1, .begin 1),
  (2, .request .explicit), (2, .begin 2)]

/-- The last of them fails, and the first one is answered after the second. -/
def disordered : List (Nat × Action) := [
  (3, .stored 2 (.failed (.error (.persistence "down" none)))),
  (4, .stored 1 (.stored (.definition (identified 7)))),
  (5, .stored 0 (.stored (.definition (identified 8))))]

/-- The save that failed had the highest number, but it stored nothing. Of the other two the later
one stands, although its answer came first. -/
theorem latest_stands_disordered :
    let first := (start edited none false).run overlapping
    let last := first.run disordered
    (∀ a ∈ disordered, a.2.isPlain) ∧
      first.saver.successes disordered = [(⟨1, 2⟩, .definition (identified 7)),
        (⟨0, 1⟩, .definition (identified 8))] ∧
      Standing.Latest first.saver.standing last.saver.standing
        (first.saver.successes disordered) ∧
      last.saver.standing = ⟨2, .definition (identified 7), some (.number 7)⟩ := by
  have hplain : ∀ a ∈ disordered, a.2.isPlain := by decide
  obtain ⟨-, -, -, hlatest, -⟩ := latest_stands edited none false overlapping disordered hplain
  exact ⟨hplain, rfl, hlatest, rfl⟩

end Ledger

end DynamicForm

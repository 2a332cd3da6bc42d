import DynamicForm.Proofs.Autosave.Ledger
import Mathlib

/-!
# The order of saves

An answer of the storage is applied only when its generation number is higher than all applied
before. So answers are applied in the order in which numbers were drawn. Whether that is also the
order in which the definitions were taken from the editor depends on what happens between the two:
an automatic save does both at once, an explicit one waits for the remote check between them.

The invariant is about all saves that have drawn a number, applied or not. Numbers rise along the
list of draws by construction. That the places in the list of takers rise too is what can fail, and
the invariant says by whom: if one save took its definition later but has the lower number, then the
other one had waited for the remote check in between. The proof for a step has to look only at the
new draw. If the job takes its definition in the same step, it stands at the end of both lists. If
it resumes after a check, the invariant has nothing to say about it, because it has been checked.

- `Ledger.Sound` is the invariant of all runs, with a lemma for every turn; `Ledger.Sound.run` is
  the induction.
- `Ledger.inOrder_iff`: answers are applied in the order in which the definitions were taken exactly
  if, among the saves that were applied, none has drawn its number before one that took its
  definition earlier. Only a save that waits for the remote check can be overtaken in this way.
-/

namespace DynamicForm.Ledger

open Autosaver (Action Steady Turn forall_jobs_request forall_jobs_moveTo)

/-- Whoever had an answer applied earlier took the definition earlier. -/
def InOrder (l : Ledger) : Prop :=
  l.kept.Pairwise fun a b => l.taken.idxOf a.1.job < l.taken.idxOf b.1.job

/-- The one save took its definition later but has the lower number. -/
def Overtakes (l : Ledger) (late early : Draw) : Prop :=
  late ∈ l.drawn ∧ early ∈ l.drawn ∧ l.taken.idxOf early.job < l.taken.idxOf late.job ∧
    late.generation < early.generation

variable {s t : Autosaver} {l : Ledger} {a : Action} {j : Job} {d : Definition}

/-! ## The invariant

Beside the lists and their order it says how what the autosaver remembers is read off them: the
number drawn last bounds all draws, the number applied last bounds all answers that were kept, and
the last of these is what was stored last. -/

/-- What holds of the ledger of every run. -/
structure Sound (l : Ledger) : Prop where
  filed : Filed l.saver l.taken l.drawn
  asked : ∀ j ∈ l.saver.jobs, ∀ d, j.phase = .checking d → j.id ∈ l.asked
  remote : ∀ id ∈ l.asked, l.saver.checksRemotely = true
  drawn_le : ∀ i ∈ l.drawn, i.generation ≤ l.saver.generation
  increasing : l.drawn.Pairwise fun a b => a.generation < b.generation
  kept_drawn : ∀ k ∈ l.kept, k.1 ∈ l.drawn
  kept_le : ∀ k ∈ l.kept, k.1.generation ≤ l.saver.applied
  kept_increasing : l.kept.Pairwise fun a b => a.1.generation < b.1.generation
  lastSaved : l.saver.lastSaved = (l.kept.getLast?.map Prod.snd).getD .nothing
  overtaken : ∀ late early, l.Overtakes late early → early.job ∈ l.asked

/-- Nothing has been drawn, so nothing is out of order. -/
theorem Sound.start (e : Editor) (delay : Option Nat) (checksRemotely : Bool) :
    (start e delay checksRemotely).Sound where
  filed := Filed.start e delay checksRemotely
  asked := List.forall_mem_nil _
  remote := List.forall_mem_nil _
  drawn_le := List.forall_mem_nil _
  increasing := .nil
  kept_drawn := List.forall_mem_nil _
  kept_le := List.forall_mem_nil _
  kept_increasing := .nil
  lastSaved := rfl
  overtaken := by
    rintro late early ⟨hlate, -⟩
    cases hlate

/-! ## Steps

For each turn, what it adds to the ledger keeps the invariant. The turns that add nothing come
first. -/

/-- Changes that leave the jobs and the record of answers alone. -/
theorem Sound.steady (h : l.Sound) (hs : Steady l.saver t) : Sound { l with saver := t } :=
  { h with
    filed := h.filed.steady hs
    asked := by rw [hs.jobs]; exact h.asked
    remote := by rw [hs.checksRemotely]; exact h.remote
    drawn_le := fun i hi => Nat.le_trans (h.drawn_le i hi) hs.generation
    kept_le := by rw [hs.applied]; exact h.kept_le
    lastSaved := by rw [hs.lastSaved]; exact h.lastSaved }

theorem Sound.request (h : l.Sound) (kind : JobKind) :
    Sound { l with saver := (l.saver.request kind).2 } :=
  { h with
    filed := h.filed.request kind
    asked := forall_jobs_request h.asked fun _ hp => by cases hp }

theorem Sound.drop (h : l.Sound) (id : Nat) : Sound { l with saver := l.saver.dropJob id } :=
  { h with
    filed := h.filed.drop id
    asked := Autosaver.forall_jobs_dropJob h.asked }

/-- Places in the list of those who took the definition do not change. -/
theorem Overtakes.of_taken {saver : Autosaver} {taken' asked' : List Nat}
    {kept' : List (Draw × Receipt)} (h : Filed l.saver l.taken l.drawn) {late early : Draw}
    (ho : Overtakes ⟨saver, l.taken ++ taken', asked', l.drawn, kept'⟩ late early) :
    l.Overtakes late early := by
  obtain ⟨hlate, hearly, hbefore, hlower⟩ := ho
  rw [List.idxOf_append_of_mem (h.drawn_taken early hearly),
    List.idxOf_append_of_mem (h.drawn_taken late hlate)] at hbefore
  exact ⟨hlate, hearly, hbefore, hlower⟩

/-- A job takes its definition and waits for the check. It is written among those who may be
overtaken. -/
theorem Sound.ask (h : l.Sound) (hj : j ∈ l.saver.jobs) (hp : j.phase = .queued)
    (hr : l.saver.checksRemotely = true) (d : Definition) :
    Sound { l with saver := l.saver.moveTo j.id (.checking d)
                   taken := l.taken ++ [j.id], asked := l.asked ++ [j.id] } :=
  { h with
    filed := h.filed.take hj hp d
    asked := forall_jobs_moveTo
      (fun _ hid _ _ _ => hid ▸ List.mem_append_right _ List.mem_cons_self)
      fun i hi _ e hip => List.mem_append_left _ (h.asked i hi e hip)
    remote := fun _ _ => hr
    overtaken := fun late early ho =>
      List.mem_append_left _ (h.overtaken late early (ho.of_taken h.filed)) }

/-- A job that moves on to the storage leaves the others where they were. -/
theorem Sound.asked_saving (h : l.Sound) (id g : Nat) (d : Definition) :
    ∀ j ∈ (l.saver.moveTo id (.saving g d)).jobs, ∀ e, j.phase = .checking e → j.id ∈ l.asked := by
  refine forall_jobs_moveTo (fun j _ hphase e hp => ?_) fun j hj _ => h.asked j hj
  rw [hphase] at hp
  cases hp

theorem Sound.drawn_le_append (h : l.Sound) (id : Nat) :
    ∀ i ∈ l.drawn ++ [⟨id, l.saver.generation⟩], i.generation ≤ l.saver.generation :=
  List.forall_mem_append.mpr ⟨h.drawn_le, List.forall_mem_singleton.mpr (Nat.le_refl _)⟩

/-- Numbers rise. -/
theorem Sound.increasing_append (h : l.Sound) {i : Draw}
    (hi : ∀ k ∈ l.drawn, k.generation < i.generation) :
    (l.drawn ++ [i]).Pairwise fun a b => a.generation < b.generation := by
  refine List.pairwise_append.mpr ⟨h.increasing, List.pairwise_singleton _ _, fun a ha b hb => ?_⟩
  obtain rfl := List.mem_singleton.mp hb
  exact hi a ha

/-- A job that draws its number when it takes the definition is not overtaken: everybody else who
has a number took the definition before. -/
theorem Sound.begin (h : l.Sound) (hj : j ∈ l.saver.jobs) (hp : j.phase = .queued)
    (hnew : ∀ i ∈ l.drawn, i.generation < l.saver.generation) (d : Definition) :
    Sound { l with saver := l.saver.moveTo j.id (.saving l.saver.generation d)
                   taken := l.taken ++ [j.id]
                   drawn := l.drawn ++ [⟨j.id, l.saver.generation⟩] } :=
  { h with
    filed := h.filed.takeAndDraw hj hp _ d
    asked := h.asked_saving j.id _ d
    drawn_le := h.drawn_le_append j.id
    increasing := h.increasing_append hnew
    kept_drawn := fun k hk => List.mem_append_left _ (h.kept_drawn k hk)
    overtaken := by
      rintro late early ⟨hlate, hearly, hbefore, hlower⟩
      -- either of the two may be the new draw: the one that took its definition later, or the other
      -- one
      rcases List.mem_append.mp hlate with hlate | hlate
      · have htaken := h.filed.drawn_taken late hlate
        rw [List.idxOf_append_of_mem htaken] at hbefore
        rcases List.mem_append.mp hearly with hearly | hearly
        · rw [List.idxOf_append_of_mem (h.filed.drawn_taken early hearly)] at hbefore
          exact h.overtaken late early ⟨hlate, hearly, hbefore, hlower⟩
        · -- the new job stands behind all others
          obtain rfl := List.mem_singleton.mp hearly
          rw [List.idxOf_append_of_notMem (h.filed.queued j hj hp)] at hbefore
          have := List.idxOf_lt_length_of_mem htaken
          omega
      · -- the new number is above all others
        obtain rfl := List.mem_singleton.mp hlate
        exact absurd hlower (Nat.not_lt.mpr (h.drawn_le_append j.id early hearly)) }

/-- A job that has waited for the remote check may have been overtaken meanwhile. -/
theorem Sound.resume (h : l.Sound) (hj : j ∈ l.saver.jobs) (hp : j.phase = .checking d)
    (hnew : ∀ i ∈ l.drawn, i.generation < l.saver.generation) :
    Sound { l with saver := l.saver.moveTo j.id (.saving l.saver.generation d)
                   drawn := l.drawn ++ [⟨j.id, l.saver.generation⟩] } :=
  { h with
    filed := h.filed.draw hj hp _
    asked := h.asked_saving j.id _ d
    drawn_le := h.drawn_le_append j.id
    increasing := h.increasing_append hnew
    kept_drawn := fun k hk => List.mem_append_left _ (h.kept_drawn k hk)
    overtaken := by
      rintro late early ⟨hlate, hearly, hbefore, hlower⟩
      rcases List.mem_append.mp hlate with hlate | hlate
      · rcases List.mem_append.mp hearly with hearly | hearly
        · exact h.overtaken late early ⟨hlate, hearly, hbefore, hlower⟩
        · obtain rfl := List.mem_singleton.mp hearly
          exact h.asked j hj d hp
      · obtain rfl := List.mem_singleton.mp hlate
        exact absurd hlower (Nat.not_lt.mpr (h.drawn_le_append j.id early hearly)) }

/-- An answer that is applied has a higher number than those applied before. -/
theorem Sound.hear (h : l.Sound) {i : Draw} (hi : i ∈ l.drawn)
    (hlt : l.saver.applied < i.generation) (r : Receipt) :
    Sound { l with
      saver := { l.saver with applied := i.generation, lastSaved := l.saver.lastSaved.over r }
      kept := l.kept ++ entry i r } := by
  -- numbers of kept answers are bounded by the one applied last, and the new number is above that
  have hkept : ∀ k ∈ l.kept, k.1.generation < i.generation :=
    fun k hk => Nat.lt_of_le_of_lt (h.kept_le k hk) hlt
  have hentry : ∀ k ∈ entry i r, k.1 = i := by
    cases r <;> simp [entry]
  exact { h with
    filed := { h.filed with }
    kept_drawn := List.forall_mem_append.mpr ⟨h.kept_drawn, fun k hk => (hentry k hk).symm ▸ hi⟩
    kept_le := List.forall_mem_append.mpr ⟨fun k hk => Nat.le_of_lt (hkept k hk), fun k hk =>
      Nat.le_of_eq (congrArg Draw.generation (hentry k hk))⟩
    kept_increasing := by
      refine List.pairwise_append.mpr ⟨h.kept_increasing, ?_, fun a ha b hb => ?_⟩
      · cases r <;> simp [entry]
      · rw [hentry b hb]
        exact hkept a ha
    lastSaved := by
      cases r with
      | nothing => simpa [entry, Receipt.over] using h.lastSaved
      | definition d => simp [entry, Receipt.over]
      | other v => simp [entry, Receipt.over] }

/-- Every turn keeps the invariant: first the autosaver is changed to what it is when the lists
grow, and then the lemma for the turn applies. -/
theorem Sound.write {p : Progress} (h : l.Sound) (ht : Turn l.saver a p) : (l.write a p).Sound := by
  cases ht with
  | rests hs hq =>
    rw [write_quiet hq hs.applied]
    exact h.steady hs
  | queues kind hs =>
    rw [write_quiet .nil hs.applied]
    exact (h.request kind).steady hs
  | @ends _ j t told hs hq =>
    rw [write_quiet hq (t := t.dropJob j.id) hs.applied]
    exact (h.steady hs).drop j.id
  | @asks j t d hj hp hr _ hs =>
    rw [write_ask (t := t.moveTo j.id (.checking d)) hs.applied]
    exact (h.steady hs).ask (hs.jobs ▸ hj) hp (hs.checksRemotely.trans hr) d
  | @begins j t d told hj hp _ hs hq =>
    -- the number is drawn first, so that it is above all that are written down
    have hdrawing : Steady l.saver { t with generation := t.generation + 1 } :=
      hs.trans ⟨rfl, rfl, rfl, rfl, rfl, Nat.le_succ _⟩
    rw [write_begin hq hs.applied]
    refine (h.steady hdrawing).begin (hs.jobs ▸ hj) hp (fun i hi => ?_) d
    exact Nat.lt_succ_of_le (Nat.le_trans (h.drawn_le i hi) hs.generation)
  | @resumes j d answer told hj hp hq =>
    have hdrawing : Steady l.saver { l.saver with generation := l.saver.generation + 1 } :=
      ⟨rfl, rfl, rfl, rfl, rfl, Nat.le_succ _⟩
    rw [write_resume hq]
    exact (h.steady hdrawing).resume hj hp fun i hi => Nat.lt_succ_of_le (h.drawn_le i hi)
  -- the number of the answer was drawn when the job asked, which is how the ledger knows it
  | @hears j g d r t told hj hp hlt hs hq =>
    have happlied : t.applied = g := hs.applied
    rw [write_hear hq (t := t.dropJob j.id) (happlied.trans_ne (Nat.ne_of_gt hlt))]
    have hheard := h.hear (h.filed.saving j hj g d hp) hlt r
    have hdone := (hheard.steady hs).drop j.id
    rwa [← happlied] at hdone

/-- **Every run** has a sound ledger. -/
theorem Sound.run (h : l.Sound) (actions : List (Nat × Action)) : (l.run actions).Sound := by
  induction actions generalizing l with
  | nil => exact h
  | cons a rest ih => exact ih (h.write (Autosaver.turn_step a.1 l.saver a.2))

/-! ## The order of the answers

Kept answers are in the order of their numbers. They are in the order of the definitions too exactly
if the two orders agree on them, and a pair on which they do not is an overtaking. -/

/-- Whoever had an answer applied earlier has the lower number; so the order is that of the
definitions unless a save has been overtaken. -/
theorem Sound.inOrder (h : l.Sound) :
    l.InOrder ↔ ∀ a ∈ l.kept, ∀ b ∈ l.kept, ¬l.Overtakes b.1 a.1 := by
  constructor
  · rintro hin a ha b hb ⟨-, -, hbefore, hlower⟩
    -- both orders are strict, so a pair in which they disagree cannot stand in a list sorted by
    -- both
    let agree (a b : Draw × Receipt) : Prop :=
      a.1.generation < b.1.generation ∧ l.taken.idxOf a.1.job < l.taken.idxOf b.1.job
    have hagree : l.kept.Pairwise fun a b => agree a b ∨ agree b a :=
      (h.kept_increasing.and hin).imp .inl
    have hne : a ≠ b := by
      rintro rfl
      exact Nat.lt_irrefl _ hlower
    have hsymm : Std.Symm fun a b => agree a b ∨ agree b a := ⟨fun _ _ => Or.symm⟩
    rcases hagree.forall ha hb hne with ⟨hgeneration, -⟩ | ⟨-, htaken⟩
    · exact Nat.lt_asymm hlower hgeneration
    · exact Nat.lt_asymm hbefore htaken
  · intro hnone
    -- of two saves out of order, the later one would have overtaken the earlier one
    refine h.kept_increasing.imp_of_mem fun {a b} ha hb hlower => ?_
    by_contra hnot
    have hne : a.1.job ≠ b.1.job := by
      intro heq
      have := List.inj_on_of_nodup_map h.filed.nodup_drawn (h.kept_drawn a ha) (h.kept_drawn b hb) heq
      rw [this] at hlower
      exact Nat.lt_irrefl _ hlower
    have htaken : l.taken.idxOf b.1.job ≠ l.taken.idxOf a.1.job := by
      intro heq
      exact hne (List.idxOf_inj (h.filed.drawn_taken _ (h.kept_drawn b hb)) |>.mp heq).symm
    exact hnone b hb a ha ⟨h.kept_drawn a ha, h.kept_drawn b hb,
      Nat.lt_of_le_of_ne (Nat.le_of_not_lt hnot) htaken, hlower⟩

/-- Whether definitions are checked remotely is settled when the autosaver begins. -/
theorem checksRemotely_step (now : Nat) (l : Ledger) (a : Action) :
    (l.step now a).saver.checksRemotely = l.saver.checksRemotely :=
  (Autosaver.turn_step now l.saver a).checksRemotely_eq

theorem checksRemotely_run (l : Ledger) (actions : List (Nat × Action)) :
    (l.run actions).saver.checksRemotely = l.saver.checksRemotely := by
  induction actions generalizing l with
  | nil => rfl
  | cons a rest ih => exact (ih (l.step a.1 a.2)).trans (checksRemotely_step a.1 l a.2)

/-- **The order of answers.** In every run, answers are applied in the order in which the definitions
were taken from the editor exactly if no save whose answer was applied has overtaken another one.
Only a save that has waited for the remote check is overtaken. What was stored last is the answer
that was applied last. -/
theorem inOrder_iff (e : Editor) (delay : Option Nat) (checksRemotely : Bool)
    (actions : List (Nat × Action)) :
    let l := (start e delay checksRemotely).run actions
    (l.InOrder ↔ ∀ a ∈ l.kept, ∀ b ∈ l.kept, ¬l.Overtakes b.1 a.1) ∧
    (∀ late early, l.Overtakes late early → checksRemotely = true ∧ early.job ∈ l.asked) ∧
    l.saver.lastSaved = (l.kept.getLast?.map Prod.snd).getD .nothing := by
  intro l
  have h : l.Sound := (Sound.start e delay checksRemotely).run actions
  refine ⟨h.inOrder, fun late early ho => ?_, h.lastSaved⟩
  have hasked := h.overtaken late early ho
  exact ⟨(checksRemotely_run _ actions).symm.trans (h.remote _ hasked), hasked⟩

/-- A form before and after an edit. -/
def renamed (name : String) : Definition where
  id := some (.number 1)
  name := name
  key := "k"

/-- An explicit save waits for the remote check, and is overtaken by an automatic one that stores
the edit made meanwhile. -/
def overtaking : List (Nat × Action) := [
  (0, .request .explicit), (0, .begin 0),
  (1, .edit (.updateMetadata [("name", .text "New")])),
  (2, .request (.automatic false)), (2, .begin 1),
  (3, .stored 1 (.stored (.definition (renamed "New")))),
  (4, .checked 0 (.answered (.record [("valid", .bool true)]))),
  (5, .stored 0 (.stored (.definition (renamed "Old"))))]

/-- **Not every run keeps the order.** The older definition, which was taken first, is applied
last. -/
theorem not_inOrder_overtaking :
    let l := (start (.load (renamed "Old")) none true).run overtaking
    l.taken = [0, 1] ∧ l.kept.map (·.1.job) = [1, 0] ∧ ¬l.InOrder ∧
      l.saver.lastSaved = .definition (renamed "Old") := by
  intro l
  have htaken : l.taken = [0, 1] := by cbv
  have hkept : l.kept.map (·.1.job) = [1, 0] := by cbv
  refine ⟨htaken, hkept, fun hin => ?_, by cbv⟩
  have hjobs : (l.kept.map (·.1.job)).Pairwise fun a b => l.taken.idxOf a < l.taken.idxOf b :=
    List.pairwise_map.mpr hin
  rw [hkept, htaken] at hjobs
  exact absurd hjobs (by decide)

end DynamicForm.Ledger

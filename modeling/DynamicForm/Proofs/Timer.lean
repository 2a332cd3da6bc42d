import DynamicForm.Timer
import Mathlib.Data.List.Chain

/-!
# Courses of a timer

A timer is called at times in order, on a clock where it fires as soon as it is due and before
anything else happens at that time. It fires one period after those calls that arm it and are
followed by a whole period without calls. A call that is made while it fires is one at that time,
after the firing.

Time passes in one place, `advance`, which lets the timer fire if it is due by then. A course is a
list of calls with some time let pass before each of them. The induction over that list would be
about a timer in any state, armed by calls that are no longer in the list; so the statement has two
parts, the firing that is owed to the state and those that are owed to the calls, and the first part
is empty for a timer that has just been made.

- `Timer.course` follows calls and lets time pass between them.
- `Timer.quietEnds` has the ends of those periods that are not cut short; `Timer.course_fst` says
  that the timer fires then and at no other time.
- `Timer.pending_course`: when the timer is pending.
- `Timer.quietEnds_burst`: of calls in quick succession the last one counts.
-/

namespace DynamicForm.Timer

/-- A call of a timer. -/
inductive Call where
  | start
  | reset
  | cancel
deriving DecidableEq, Repr

/-- Whether the timer is armed after the call. -/
def Call.arms : Call → Bool
  | start => true
  | reset => true
  | cancel => false

/-- Carries out a call. -/
def perform (now : Nat) (t : Timer) : Call → Timer
  | .start => t.start now
  | .reset => t.start now
  | .cancel => t.cancel

/-- Follows calls, each at its time, and then lets time pass up to a limit. The result has the times
at which the timer fires. -/
def course (limit : Nat) (t : Timer) : List (Nat × Call) → List Nat × Timer
  | [] => t.advance limit
  | (now, c) :: rest =>
    let first := t.advance now
    let later := (first.2.perform now c).course limit rest
    (first.1 ++ later.1, later.2)

/-- Events at times in order, none of them after the limit. -/
structure InOrder {α : Type} (limit : Nat) (events : List (Nat × α)) : Prop where
  sorted : events.Pairwise fun a b => a.1 ≤ b.1
  within : ∀ e ∈ events, e.1 ≤ limit

/-- Nothing happens before this time, and it does not lie beyond the limit. -/
def quietUntil (limit : Nat) (calls : List (Nat × Call)) (time : Nat) : Bool :=
  decide (time ≤ limit) && calls.all fun e => decide (time ≤ e.1)

/-- When the timer is due after a call. -/
def dueAfter (delay : Option Nat) (now : Nat) (c : Call) : Option Nat :=
  if c.arms then delay.map (now + ·) else none

/-- The ends of the periods after the calls, as far as they are not cut short by the next one. -/
def quietEnds (delay : Option Nat) (limit : Nat) : List (Nat × Call) → List Nat
  | [] => []
  | (now, c) :: rest =>
    ((dueAfter delay now c).filter (quietUntil limit rest)).toList ++ quietEnds delay limit rest

variable {t : Timer} {delay : Option Nat} {limit now later d time : Nat} {c : Call}
  {calls : List (Nat × Call)}

/-! ## Order

What is known of the head of a list in order, and of events that happen at some of the times of
others. -/

theorem InOrder.tail {α : Type} {e : Nat × α} {events : List (Nat × α)}
    (h : InOrder limit (e :: events)) : InOrder limit events :=
  ⟨(List.pairwise_cons.mp h.sorted).2, fun e he => h.within e (List.mem_cons_of_mem _ he)⟩

theorem InOrder.head_le {α : Type} {e : Nat × α} {events : List (Nat × α)}
    (h : InOrder limit (e :: events)) : ∀ f ∈ events, e.1 ≤ f.1 :=
  (List.pairwise_cons.mp h.sorted).1

/-- The first event lies within the limit, like all others. -/
theorem InOrder.head_le_limit {α : Type} {e : Nat × α} {events : List (Nat × α)}
    (h : InOrder limit (e :: events)) : e.1 ≤ limit := h.within e List.mem_cons_self

/-- Events at the times of some of these. -/
theorem InOrder.of_sublist {α β : Type} {events : List (Nat × α)} {others : List (Nat × β)}
    (h : InOrder limit events) (hsub : (others.map Prod.fst).Sublist (events.map Prod.fst)) :
    InOrder limit others where
  sorted := List.pairwise_map.mp ((List.pairwise_map.mpr h.sorted).sublist hsub)
  within e he := by
    obtain ⟨f, hf, heq⟩ := List.mem_map.mp (hsub.subset (List.mem_map_of_mem he))
    exact heq ▸ h.within f hf

/-- Events at times of others do not come before the first of these either. -/
theorem InOrder.head_le_of_sublist {α β : Type} {e : Nat × α} {events : List (Nat × α)}
    {others : List (Nat × β)} (h : InOrder limit (e :: events))
    (hsub : (others.map Prod.fst).Sublist (events.map Prod.fst)) : ∀ f ∈ others, e.1 ≤ f.1 := by
  intro f hf
  obtain ⟨b, hb, heq⟩ := List.mem_map.mp (hsub.subset (List.mem_map_of_mem hf))
  exact heq ▸ h.head_le b hb

theorem quietUntil_iff : quietUntil limit calls time = true ↔
    time ≤ limit ∧ ∀ e ∈ calls, time ≤ e.1 := by
  simp [quietUntil]

/-- Of calls in order the first one decides. -/
theorem quietUntil_cons (h : InOrder limit ((now, c) :: calls)) (time : Nat) :
    quietUntil limit ((now, c) :: calls) time = decide (time ≤ now) := by
  rw [Bool.eq_iff_iff, quietUntil_iff, decide_eq_true_iff, List.forall_mem_cons]
  refine ⟨fun hquiet => hquiet.2.1, fun hnow => ⟨Nat.le_trans hnow h.head_le_limit, hnow, ?_⟩⟩
  exact fun e he => Nat.le_trans hnow (h.head_le e he)

/-! ## Letting time pass

A timer fires once at most when time passes, because firing disarms it. -/

@[simp] theorem advance_delay (limit : Nat) (t : Timer) : (t.advance limit).2.delay = t.delay := by
  unfold advance
  split
  · split <;> rfl
  · rfl

/-- It fires at the time at which it is due, if that has come. -/
theorem advance_fst (limit : Nat) (t : Timer) :
    (t.advance limit).1 = (t.due.filter fun time => decide (time ≤ limit)).toList := by
  unfold advance
  cases t.due with
  | none => rfl
  | some time => by_cases h : time ≤ limit <;> simp [Option.filter, h]

theorem le_of_mem_advance (h : time ∈ (t.advance limit).1) : time ≤ limit := by
  rw [advance_fst, Option.mem_toList, Option.filter_eq_some_iff] at h
  exact of_decide_eq_true h.2

/-- The timer stays as it is unless it fires. -/
theorem pending_advance : (t.advance limit).2.pending = true ↔
    t.pending = true ∧ (t.advance limit).1 = [] := by
  unfold advance
  split
  · split <;> simp [fire, cancel]
  · simp

/-- Time may pass in two steps. -/
theorem advance_advance (h : now ≤ later) (t : Timer) :
    t.advance later =
      ((t.advance now).1 ++ ((t.advance now).2.advance later).1,
        ((t.advance now).2.advance later).2) := by
  cases hdue : t.due with
  | none => simp [advance, hdue]
  | some time =>
    by_cases hnow : time ≤ now
    · simp [advance, hdue, hnow, Nat.le_trans hnow h, fire, cancel]
    · simp [advance, hdue, hnow]

/-- Time may pass before the first call of a course without any difference. -/
theorem course_advance (hlimit : now ≤ limit) (hcalls : ∀ e ∈ calls, now ≤ e.1) (t : Timer) :
    t.course limit calls =
      ((t.advance now).1 ++ ((t.advance now).2.course limit calls).1,
        ((t.advance now).2.course limit calls).2) := by
  cases calls with
  | nil => exact advance_advance hlimit t
  | cons e rest =>
    rw [course, advance_advance (hcalls e List.mem_cons_self) t, course]
    simp only [List.append_assoc]

@[simp] theorem perform_delay (now : Nat) (t : Timer) (c : Call) :
    (t.perform now c).delay = t.delay := by
  cases c <;> rfl

/-- After a call the timer is due a period later, or not at all. -/
@[simp] theorem perform_due (now : Nat) (t : Timer) (c : Call) :
    (t.perform now c).due = dueAfter t.delay now c := by
  cases c <;> rfl

/-- A call that arms the timer makes it pending, and the other one ends that. -/
@[simp] theorem perform_pending (now : Nat) (t : Timer) (c : Call) :
    (t.perform now c).pending = c.arms := by
  cases c <;> rfl

/-! ## Firing

The two lists of times are the same: those at which the timer fires, and the ends of the periods
that nothing cuts short. -/

/-- **Firings of a course.** The first is that of the timer as it was found, if it is not called
before it is due; the others end the periods of the calls. -/
theorem course_fst (h : InOrder limit calls) (t : Timer) :
    (t.course limit calls).1 =
      (t.due.filter (quietUntil limit calls)).toList ++ quietEnds t.delay limit calls := by
  induction calls generalizing t with
  | nil =>
    have hquiet : quietUntil limit [] = fun time => decide (time ≤ limit) :=
      funext fun time => by simp [quietUntil]
    rw [course, advance_fst, quietEnds, List.append_nil, hquiet]
  | cons e rest ih =>
    obtain ⟨now, c⟩ := e
    have hquiet : quietUntil limit ((now, c) :: rest) = fun time => decide (time ≤ now) :=
      funext (quietUntil_cons h)
    rw [course, ih h.tail, perform_due, perform_delay, advance_delay, advance_fst, hquiet,
      quietEnds]

/-- A time is the end of such a period exactly if some call that arms the timer lies a period before
it and is followed by no call before it. -/
theorem mem_quietEnds : time ∈ quietEnds delay limit calls ↔
    ∃ before now c after, calls = before ++ (now, c) :: after ∧ c.arms = true ∧
      delay.map (now + ·) = some time ∧ (∀ e ∈ after, time ≤ e.1) ∧ time ≤ limit := by
  induction calls with
  | nil => simp [quietEnds]
  | cons e rest ih =>
    obtain ⟨now, c⟩ := e
    -- for the first call this is what its own entry in the list says
    have hhead : time ∈ ((dueAfter delay now c).filter (quietUntil limit rest)).toList ↔
        c.arms = true ∧ delay.map (now + ·) = some time ∧ (∀ e ∈ rest, time ≤ e.1) ∧
          time ≤ limit := by
      rw [Option.mem_toList, Option.filter_eq_some_iff, quietUntil_iff, dueAfter]
      cases c.arms <;> simp [and_comm]
    rw [quietEnds, List.mem_append, hhead, ih]
    -- the call is the first one or lies in the rest, which is how `before` is empty or not
    constructor
    · rintro (hhead | ⟨before, now', c', after, rfl, hrest⟩)
      · exact ⟨[], now, c, rest, rfl, hhead⟩
      · exact ⟨(now, c) :: before, now', c', after, rfl, hrest⟩
    · rintro ⟨before, now', c', after, heq, hrest⟩
      cases before with
      | nil =>
        obtain ⟨⟨rfl, rfl⟩, rfl⟩ : (now = now' ∧ c = c') ∧ rest = after := by simpa using heq
        exact .inl hrest
      | cons f before =>
        obtain ⟨-, rfl⟩ := List.cons.inj heq
        exact .inr ⟨before, now', c', after, rfl, hrest⟩

/-- With a period of some length the timer does not fire at the time of the call. -/
theorem lt_of_mem_quietEnds (hdelay : delay ≠ some 0) (hcalls : ∀ e ∈ calls, now ≤ e.1)
    (h : time ∈ quietEnds delay limit calls) : now < time := by
  obtain ⟨before, now', c, after, rfl, -, hdue, -⟩ := mem_quietEnds.mp h
  obtain ⟨d, rfl, rfl⟩ := Option.map_eq_some_iff.mp hdue
  have hnow : now ≤ now' := hcalls (now', c) (by simp)
  have hd : d ≠ 0 := fun hd => hdelay (congrArg some hd)
  omega

theorem quietEnds_pairwise (hdelay : delay ≠ some 0) :
    (quietEnds delay limit calls).Pairwise (· < ·) := by
  induction calls with
  | nil => exact .nil
  | cons e rest ih =>
    refine List.pairwise_append.mpr ⟨?_, ih, fun first hfirst next hnext => ?_⟩
    · cases (dueAfter delay e.1 e.2).filter (quietUntil limit rest) <;> simp
    · have hquiet : quietUntil limit rest first = true :=
        (Option.filter_eq_some_iff.mp (Option.mem_toList.mp hfirst)).2
      exact lt_of_mem_quietEnds hdelay (quietUntil_iff.mp hquiet).2 hnext

/-- **A burst.** Of calls that arm the timer, each less than a period after the one before, only the
last is followed by a whole period. -/
theorem quietEnds_burst {last : Nat × Call} (hlast : calls.getLast? = some last)
    (harms : ∀ e ∈ calls, e.2.arms = true) (hgaps : calls.IsChain fun a b => b.1 < a.1 + d) :
    quietEnds (some d) limit calls = if last.1 + d ≤ limit then [last.1 + d] else [] := by
  induction calls with
  | nil => cases hlast
  | cons e rest ih =>
    obtain ⟨now, c⟩ := e
    obtain ⟨harm, hrest⟩ := List.forall_mem_cons.mp harms
    have hdue : dueAfter (some d) now c = some (now + d) := if_pos harm
    rw [quietEnds, hdue]
    cases rest with
    | nil =>
      obtain rfl := Option.some.inj hlast
      by_cases hlimit : now + d ≤ limit <;> simp [quietEnds, quietUntil, Option.filter, hlimit]
    | cons f rest =>
      obtain ⟨hgap, hgaps⟩ := List.isChain_cons_cons.mp hgaps
      -- the next call comes before the period is over, so this one leads to nothing
      have hcut : quietUntil limit (f :: rest) (now + d) = false := by
        refine Bool.eq_false_iff.mpr fun hquiet => ?_
        exact absurd ((quietUntil_iff.mp hquiet).2 f List.mem_cons_self) (Nat.not_le.mpr hgap)
      rw [Option.filter_some, hcut]
      exact ih (by rw [← hlast, List.getLast?_cons_cons]) hrest hgaps

/-! ## Pending

Being pending is about the last call that was made: it armed the timer, and the timer has not fired
since. -/

/-- A call that arms the timer is followed by such calls only, and by no firing. -/
def Waits (calls : List (Nat × Call)) (fired : List Nat) : Prop :=
  ∃ before now c after, calls = before ++ (now, c) :: after ∧ c.arms = true ∧
    (∀ e ∈ after, e.2.arms = true) ∧ ∀ time ∈ fired, time ≤ now

/-- The last call that arms the timer is the first one of the course, or lies in the rest of it. In
the first case nothing may have fired after it. -/
theorem waits_cons {first fired : List Nat} (hcalls : ∀ e ∈ calls, now ≤ e.1)
    (hfirst : ∀ time ∈ first, time ≤ now) (hfired : ∀ time ∈ fired, now < time) :
    Waits ((now, c) :: calls) (first ++ fired) ↔
      c.arms = true ∧ (∀ e ∈ calls, e.2.arms = true) ∧ fired = [] ∨ Waits calls fired := by
  constructor
  · rintro ⟨before, now', c', after, heq, harm, hafter, hlast⟩
    have hlater : ∀ time ∈ fired, time ≤ now' :=
      fun time htime => hlast time (List.mem_append_right first htime)
    -- the call that arms the timer is the first one, or comes later
    cases before with
    | nil =>
      obtain ⟨⟨rfl, rfl⟩, rfl⟩ : (now = now' ∧ c = c') ∧ calls = after := by simpa using heq
      refine .inl ⟨harm, hafter, List.eq_nil_iff_forall_not_mem.mpr fun time htime => ?_⟩
      exact absurd (hlater time htime) (Nat.not_le.mpr (hfired time htime))
    | cons e before =>
      obtain ⟨-, rfl⟩ := List.cons.inj heq
      exact .inr ⟨before, now', c', after, rfl, harm, hafter, hlater⟩
  · rintro (⟨harm, hafter, rfl⟩ | ⟨before, now', c', after, rfl, harm, hafter, hlast⟩)
    · exact ⟨[], now, c, calls, rfl, harm, hafter, by simpa using hfirst⟩
    · refine ⟨(now, c) :: before, now', c', after, rfl, harm, hafter, ?_⟩
      -- what has fired before the first call has fired before a later one too
      have hnow : now ≤ now' := hcalls (now', c') (by simp)
      refine List.forall_mem_append.mpr ⟨fun time htime => ?_, hlast⟩
      exact Nat.le_trans (hfirst time htime) hnow

/-- **Pending.** A timer is pending after a course if it was before and nothing has happened but
calls that arm it, or if it waits for the end of a period. -/
theorem pending_course (hdelay : t.delay ≠ some 0) (h : InOrder limit calls) :
    (t.course limit calls).2.pending = true ↔
      (t.pending = true ∧ (∀ e ∈ calls, e.2.arms = true) ∧ (t.course limit calls).1 = []) ∨
        Waits calls (t.course limit calls).1 := by
  induction calls generalizing t with
  | nil => simp [course, pending_advance, Waits]
  | cons e rest ih =>
    obtain ⟨now, c⟩ := e
    have hnow : ∀ e ∈ rest, now ≤ e.1 := h.head_le
    -- what fires after the first call fires later than it, as the period is not empty
    have hlater : ∀ time ∈ (((t.advance now).2.perform now c).course limit rest).1, now < time := by
      intro time htime
      have hends : time ∈ quietEnds t.delay limit ((now, c) :: rest) := by
        simpa [quietEnds, course_fst h.tail] using htime
      exact lt_of_mem_quietEnds hdelay (List.forall_mem_cons.mpr ⟨Nat.le_refl now, hnow⟩) hends
    rw [course, ih (by simpa using hdelay) h.tail, perform_pending,
      waits_cons hnow (fun _ => le_of_mem_advance) hlater]
    constructor
    · exact .inr
    · rintro (⟨-, harms, hnone⟩ | hwaits)
      · obtain ⟨harm, hrest⟩ := List.forall_mem_cons.mp harms
        exact .inl ⟨harm, hrest, (List.append_eq_nil_iff.mp hnone).2⟩
      · exact hwaits

end DynamicForm.Timer

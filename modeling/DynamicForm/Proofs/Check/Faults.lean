import DynamicForm.Check.OfField
import DynamicForm.Proofs.Comparison
import DynamicForm.Proofs.Date.Amounts
import DynamicForm.Proofs.Pattern.Groups
import Mathlib

/-!
# Faults of checks

A condition has an answer and a list of checks has a report, except that some values cannot be
turned into what the test needs: a number, a date or a written form. These are all the exceptions
that there are.

A list of checks is gone through in order, and the first fault ends it. So it is not enough to know
which checks can be interrupted by a value; it has to be known which comes first. Two things make
the answer simple. The checks apart from the pattern can be interrupted by one fault only, because a
field has a kind and each kind at most one such fault. The pattern comes last, so that its faults
count when the others have none.

- `Check.Trips` says what interrupts one check, and `Check.passes_eq_error` that nothing else does.
- `Field.Trips` says what interrupts the checks of a field. It is the first fault that counts.
- `Check.faults_exactly`: all faults of conditions and of checks.
- `Check.not_total_amount`: so there are values without an answer.
-/

namespace DynamicForm

/-- Only an integer that is too large has no answer to whether it is a number. -/
theorem Value.isNumber_eq_error {v : Value} {e : Fault} :
    v.isNumber = .error e ↔ v.isTooLarge = true ∧ e = .integerTooLarge := by
  cases v with
  | int n =>
    rw [isNumber, ← toNumber_eq_error, toNumber]
    cases roundInt n <;> simp [Except.map]
  | _ => simp [isNumber, isTooLarge]

theorem Value.isEmpty_of_isTooLarge {v : Value} (h : v.isTooLarge = true) : v.isEmpty = false := by
  cases v with
  | int n => rfl
  | _ => cases h

theorem Value.isEmpty_of_holdsLongInteger {v : Value} (h : v.holdsLongInteger = true) :
    v.isEmpty = false := by
  cases v with
  | null => cases h
  | text s => cases h
  | _ => rfl

/-- A match leaves a group reversed, or has a verdict. -/
theorem Pattern.Compiled.fullMatch_error {c : Compiled} {s : String} {e : Fault}
    (h : c.fullMatch s = .error e) : e = .groupReversed := by
  unfold fullMatch at h
  dsimp only at h
  split at h
  · cases h
  · split at h
    · split at h
      · exact (Except.error.inj h).symm
      · cases h
    · cases h

namespace Check

variable {today : Date} {v : Value} {c : Check} {e : Fault} {checks : List Check}

/-! ## One check

For each rule, the values on which it has no verdict. Rules that compare lengths, look for an option
or ask whether there is a value always have one. -/

/-- What interrupts a check of a value. -/
inductive Trips (today : Date) (v : Value) : Check → Fault → Prop where
  | number : v.isTooLarge = true → Trips today v .number .integerTooLarge
  | min {bound : Binary64} : v.isTooLarge = true → Trips today v (.min bound) .integerTooLarge
  | max {bound : Binary64} : v.isTooLarge = true → Trips today v (.max bound) .integerTooLarge
  /-- The text of a date has an amount of which the fraction cannot be taken. -/
  | date {s : String} : v = .text s → Date.read today s = .error .quotientTooLong →
      Trips today v .date .quotientTooLong
  /-- The value cannot be written out. -/
  | unwritten {source : String} {compiled : Pattern.Compiled} : v.holdsLongInteger = true →
      Trips today v (.pattern source compiled) .integerTooLong
  | reversed {source s : String} {compiled : Pattern.Compiled} : v.isEmpty = false →
      v.written = .ok s → compiled.fullMatch s = .error .groupReversed →
      Trips today v (.pattern source compiled) .groupReversed

/-- The empty value passes. -/
theorem exempt_eq_error {x : Except Fault Bool} :
    (if v.isEmpty then .ok true else x) = .error e ↔ v.isEmpty = false ∧ x = .error e := by
  cases v.isEmpty <;> simp

/-- Texts are read as numbers in a way that always ends well. Integers are rounded, which need not. -/
theorem isNumeric_eq_error :
    isNumeric v = .error e ↔ v.isTooLarge = true ∧ e = .integerTooLarge := by
  cases v with
  | text s => simp [isNumeric, Value.isTooLarge]
  | _ =>
    simp only [isNumeric]
    exact Value.isNumber_eq_error

/-- A value that is too large is not empty. -/
theorem isEmpty_and_isTooLarge {p : Prop} :
    v.isEmpty = false ∧ v.isTooLarge = true ∧ p ↔ v.isTooLarge = true ∧ p := by
  rw [and_iff_right_iff_imp]
  rintro ⟨hlarge, -⟩
  exact Value.isEmpty_of_isTooLarge hlarge

/-- An empty value is exempt, but a value that is too large is not empty. -/
theorem number_eq_error :
    passes today .number v = .error e ↔ v.isTooLarge = true ∧ e = .integerTooLarge := by
  rw [passes, exempt_eq_error, isNumeric_eq_error, isEmpty_and_isTooLarge]

/-- A bound is compared with the number that a value is coerced to. -/
theorem rangePasses_eq_error {accepts : Binary64 → Bool} :
    rangePasses accepts v = .error e ↔ v.isTooLarge = true ∧ e = .integerTooLarge := by
  rw [rangePasses, exempt_eq_error, ← isEmpty_and_isTooLarge, ← Value.toNumber_eq_error]
  cases v.toNumber <;> simp [Except.map]

theorem date_eq_error : passes today .date v = .error e ↔
    ∃ s, v = .text s ∧ Date.read today s = .error .quotientTooLong ∧ e = .quotientTooLong := by
  rw [passes, exempt_eq_error]
  constructor
  · rintro ⟨-, h⟩
    -- only a text is read, and then the fault is the one of the reader
    cases v with
    | text s =>
      rw [Date.ofValue?] at h
      cases hread : Date.read today s with
      | ok d =>
        rw [hread] at h
        cases h
      | error e' =>
        rw [hread] at h
        obtain rfl := Except.error.inj h
        obtain ⟨rfl, -⟩ := Date.long_of_read hread
        exact ⟨s, rfl, hread, rfl⟩
    | _ => cases h
  · rintro ⟨s, rfl, hread, rfl⟩
    refine ⟨?_, by rw [Date.ofValue?, hread]; rfl⟩
    -- the empty text is read without interruption
    refine decide_eq_false fun hempty => ?_
    rw [hempty] at hread
    cases hread

/-- A value is written out before it is matched, and either can fail. A match has one fault only, a
group that ends before it begins. -/
theorem pattern_eq_error {source : String} {compiled : Pattern.Compiled} :
    passes today (.pattern source compiled) v = .error e ↔
      v.holdsLongInteger = true ∧ e = .integerTooLong ∨
      v.isEmpty = false ∧ ∃ s, v.written = .ok s ∧
        compiled.fullMatch s = .error .groupReversed ∧ e = .groupReversed := by
  rw [passes, exempt_eq_error]
  cases hlong : v.holdsLongInteger with
  | true =>
    have hempty : v.isEmpty = false := Value.isEmpty_of_holdsLongInteger hlong
    simp [Value.written, hlong, hempty, Except.bind, eq_comm]
  | false =>
    have hwritten : v.written = .ok v.display := by simp [Value.written, hlong]
    rw [hwritten]
    constructor
    · rintro ⟨hempty, h⟩
      obtain rfl := Pattern.Compiled.fullMatch_error h
      exact .inr ⟨hempty, v.display, rfl, h, rfl⟩
    · rintro (⟨hno, -⟩ | ⟨hempty, s, hs, h, rfl⟩)
      · cases hno
      · obtain rfl := Except.ok.inj hs
        exact ⟨hempty, h⟩

/-- **Faults of a check.** -/
theorem passes_eq_error : c.passes today v = .error e ↔ Trips today v c e := by
  -- one case for each rule that can be interrupted; `cases h` is enough for the others
  constructor
  · intro h
    cases c with
    | number =>
      obtain ⟨hlarge, rfl⟩ := number_eq_error.mp h
      exact .number hlarge
    | min bound =>
      obtain ⟨hlarge, rfl⟩ := rangePasses_eq_error.mp h
      exact .min hlarge
    | max bound =>
      obtain ⟨hlarge, rfl⟩ := rangePasses_eq_error.mp h
      exact .max hlarge
    | date =>
      obtain ⟨s, hs, hread, rfl⟩ := date_eq_error.mp h
      exact .date hs hread
    | pattern source compiled =>
      rcases pattern_eq_error.mp h with ⟨hlong, rfl⟩ | ⟨hempty, s, hs, hmatch, rfl⟩
      · exact .unwritten hlong
      · exact .reversed hempty hs hmatch
    | _ => cases h
  · intro h
    cases h with
    | number hlarge => exact number_eq_error.mpr ⟨hlarge, rfl⟩
    | min hlarge => exact rangePasses_eq_error.mpr ⟨hlarge, rfl⟩
    | max hlarge => exact rangePasses_eq_error.mpr ⟨hlarge, rfl⟩
    | date hs hread => exact date_eq_error.mpr ⟨_, hs, hread, rfl⟩
    | unwritten hlong => exact pattern_eq_error.mpr (.inl ⟨hlong, rfl⟩)
    | reversed hempty hs hmatch => exact pattern_eq_error.mpr (.inr ⟨hempty, _, hs, hmatch, rfl⟩)

/-! ## Several checks

The fault of a list is that of the first check that has one. Where all faults that can be met are
the same it does not matter which check that is. -/

/-- A fault interrupts one of the checks. -/
theorem exists_trips (h : failures today v checks = .error e) :
    ∃ c ∈ checks, Trips today v c e := by
  induction checks with
  | nil => cases h
  | cons c rest ih =>
    rw [failures] at h
    cases hpass : c.passes today v with
    | error e' =>
      rw [hpass] at h
      obtain rfl := Except.error.inj h
      exact ⟨c, List.mem_cons_self, passes_eq_error.mp hpass⟩
    -- the fault comes from a later check, which is found in the rest
    | ok b =>
      cases hrest : failures today v rest with
      | error e' =>
        rw [hpass, hrest] at h
        obtain rfl := Except.error.inj h
        obtain ⟨t, ht, htrips⟩ := ih hrest
        exact ⟨t, List.mem_cons_of_mem c ht, htrips⟩
      | ok fs =>
        rw [hpass, hrest] at h
        cases h

/-- When only one fault can be met and is met, it is the fault of the list. -/
theorem failures_of_sole (hsole : ∀ c ∈ checks, ∀ e', Trips today v c e' → e' = e)
    (h : ∃ c ∈ checks, Trips today v c e) : failures today v checks = .error e := by
  induction checks with
  | nil =>
    obtain ⟨c, hc, -⟩ := h
    cases hc
  | cons c rest ih =>
    obtain ⟨hc, hrest⟩ := List.forall_mem_cons.mp hsole
    rw [failures]
    cases hpass : c.passes today v with
    -- whichever check stops the walk, there is only one fault that it can meet
    | error e' =>
      obtain rfl := hc e' (passes_eq_error.mp hpass)
      rfl
    | ok b =>
      obtain ⟨t, ht, htrips⟩ := h
      rcases List.mem_cons.mp ht with rfl | ht
      · rw [passes_eq_error.mpr htrips] at hpass
        cases hpass
      · rw [ih hrest ⟨t, ht, htrips⟩]
        rfl

theorem failures_singleton : failures today v [c] = .error e ↔ Trips today v c e := by
  rw [← passes_eq_error, failures, failures]
  cases c.passes today v <;> simp [bind, Except.bind, pure, Except.pure]

/-- The reports of two lists are one after the other. -/
theorem failures_append (checks others : List Check) : failures today v (checks ++ others) =
    (failures today v checks).bind fun fs => (failures today v others).map (fs ++ ·) := by
  induction checks with
  | nil => cases h : failures today v others <;> simp [failures, h, Except.bind, Except.map]
  | cons c rest ih =>
    rw [List.cons_append, failures, failures, ih]
    cases c.passes today v with
    | error e => rfl
    | ok b =>
      cases failures today v rest with
      | error e => rfl
      | ok fs =>
        cases failures today v others with
        | error e => rfl
        | ok gs => cases b <;> rfl

/-- The second list counts when the first has no fault. -/
theorem failures_append_eq_error {others : List Check} :
    failures today v (checks ++ others) = .error e ↔
      failures today v checks = .error e ∨
        (∀ e', failures today v checks ≠ .error e') ∧ failures today v others = .error e := by
  rw [failures_append]
  cases failures today v checks with
  | error e' => simp [Except.bind]
  | ok fs => cases failures today v others <;> simp [Except.bind, Except.map]

end Check

/-! ## Fields

The checks of a field in the order in which they are made, with the pattern at the end. -/

namespace Field

open Check (failures)

variable {f : Field} {today : Date} {v : Value} {e : Fault} {checks : List Check}

/-- What interrupts the checks of a field apart from the pattern. -/
inductive TripsPlainly (f : Field) (today : Date) (v : Value) : Fault → Prop where
  | number : f.type = .number → v.isTooLarge = true → TripsPlainly f today v .integerTooLarge
  | date {s : String} : f.type = .date → v = .text s →
      Date.read today s = .error .quotientTooLong → TripsPlainly f today v .quotientTooLong

/-- What interrupts the checks of a field. -/
inductive Trips (f : Field) (today : Date) (v : Value) : Fault → Prop where
  | plain {e : Fault} : f.TripsPlainly today v e → Trips f today v e
  /-- The value cannot be written out for the pattern. -/
  | unwritten {source : String} : f.pattern? = some source →
      (f.type = .number → v.isTooLarge = false) → v.holdsLongInteger = true →
      Trips f today v .integerTooLong
  /-- The match of the pattern leaves a group reversed. -/
  | reversed {source s : String} {compiled : Pattern.Compiled} : f.pattern? = some source →
      Pattern.compile source = .ok compiled → (f.type = .number → v.isTooLarge = false) →
      v.isEmpty = false → v.written = .ok s → compiled.fullMatch s = .error .groupReversed →
      Trips f today v .groupReversed

/-- The pattern of the field can be compiled, if it has one. -/
def HasValidPattern (f : Field) : Prop :=
  ∀ source, f.pattern? = some source → ∃ compiled, Pattern.compile source = .ok compiled

/-- A field is of one kind, so there is one fault apart from the pattern at most. -/
theorem TripsPlainly.unique {e' : Fault} (h : f.TripsPlainly today v e)
    (h' : f.TripsPlainly today v e') : e = e' := by
  cases h with
  | number htype _ =>
    cases h' with
    | number _ _ => rfl
    | date htype' _ _ => cases htype.symm.trans htype'
  | date htype _ _ =>
    cases h' with
    | number htype' _ => cases htype.symm.trans htype'
    | date _ _ _ => rfl

/-- The checks that can be interrupted belong to numbers and dates. -/
theorem tripsPlainly_of_mem {c : Check} (hc : c ∈ f.plainChecks) (h : c.Trips today v e) :
    f.TripsPlainly today v e := by
  simp only [plainChecks, List.mem_append] at hc
  -- one case for each source of checks; those that cannot be interrupted go by `cases h`
  rcases hc with ((hrequired | hkind) | hlength) | hbound
  · split at hrequired
    · obtain rfl := List.mem_singleton.mp hrequired
      unfold requiredCheck at h
      split at h <;> cases h
    · cases hrequired
  · unfold kindChecks at hkind
    split at hkind
    · obtain rfl := List.mem_singleton.mp hkind
      cases h
    -- the check of numbers
    · next htype =>
      obtain rfl := List.mem_singleton.mp hkind
      cases h with
      | number hlarge => exact .number htype hlarge
    · next htype =>
      obtain rfl := List.mem_singleton.mp hkind
      cases h with
      | date hs hread => exact .date htype hs hread
    iterate 2
      · split at hkind
        · cases hkind
        · obtain rfl := List.mem_singleton.mp hkind
          cases h
    · cases hkind
  · unfold lengthChecks at hlength
    split at hlength
    · simp only [List.mem_append, Option.mem_toList, Option.map_eq_some_iff] at hlength
      rcases hlength with ⟨n, -, rfl⟩ | ⟨n, -, rfl⟩ <;> cases h
    · cases hlength
  · unfold boundChecks at hbound
    split at hbound
    · next htype =>
      simp only [List.mem_append, Option.mem_toList, Option.map_eq_some_iff] at hbound
      rcases hbound with ⟨b, -, rfl⟩ | ⟨b, -, rfl⟩
      · cases h with
        | min hlarge => exact .number htype hlarge
      · cases h with
        | max hlarge => exact .number htype hlarge
    · cases hbound

/-- In the other direction, the check that the kind of the field brings along is there. -/
theorem mem_of_tripsPlainly (h : f.TripsPlainly today v e) :
    ∃ c ∈ f.plainChecks, c.Trips today v e := by
  have hkind : ∀ {c}, c ∈ f.kindChecks → c ∈ f.plainChecks := by
    intro c hc
    simp only [plainChecks, List.mem_append]
    exact .inl (.inl (.inr hc))
  cases h with
  | number htype hlarge =>
    refine ⟨.number, hkind ?_, .number hlarge⟩
    rw [kindChecks, htype]
    exact List.mem_singleton.mpr rfl
  | date htype hs hread =>
    refine ⟨.date, hkind ?_, .date hs hread⟩
    rw [kindChecks, htype]
    exact List.mem_singleton.mpr rfl

/-- **Faults apart from the pattern.** -/
theorem plain_eq_error :
    failures today v f.plainChecks = .error e ↔ f.TripsPlainly today v e := by
  constructor
  · intro h
    obtain ⟨c, hc, htrips⟩ := Check.exists_trips h
    exact tripsPlainly_of_mem hc htrips
  · intro h
    refine Check.failures_of_sole ?_ (mem_of_tripsPlainly h)
    intro c hc e' htrips
    exact (tripsPlainly_of_mem hc htrips).unique h

theorem checks_of_no_pattern (h : f.pattern? = none) : f.checks = .ok f.plainChecks := by
  rw [checks, patternCheck?, h]
  exact congrArg Except.ok (List.append_nil _)

theorem checks_of_pattern {source : String} {compiled : Pattern.Compiled}
    (h : f.pattern? = some source) (hcompiled : Pattern.compile source = .ok compiled) :
    f.checks = .ok (f.plainChecks ++ [.pattern source compiled]) := by
  rw [checks, patternCheck?, h]
  dsimp only
  rw [hcompiled]
  rfl

/-- Dates have no pattern. -/
theorem not_tripsPlainly_iff (today : Date) {source : String} (h : f.pattern? = some source) :
    (∀ e', ¬f.TripsPlainly today v e') ↔ (f.type = .number → v.isTooLarge = false) := by
  constructor
  · intro hno htype
    exact Bool.eq_false_iff.mpr fun hlarge => hno _ (.number htype hlarge)
  · intro hlarge e' htrips
    cases htrips with
    | number htype htoo =>
      rw [hlarge htype] at htoo
      cases htoo
    | date htype _ _ =>
      rw [pattern?, htype] at h
      cases h

/-- **Faults of the checks of a field.** -/
theorem checks_eq_error (h : f.HasValidPattern) : ∃ checks, f.checks = .ok checks ∧
    ∀ today v e, failures today v checks = .error e ↔ f.Trips today v e := by
  cases hp : f.pattern? with
  | none =>
    refine ⟨_, checks_of_no_pattern hp, fun today v e => ?_⟩
    rw [plain_eq_error]
    constructor
    · exact .plain
    · intro htrips
      cases htrips with
      | plain hplain => exact hplain
      | unwritten hp' _ _ => cases hp.symm.trans hp'
      | reversed hp' _ _ _ _ _ => cases hp.symm.trans hp'
  | some source =>
    obtain ⟨compiled, hcompiled⟩ := h source hp
    -- the pattern comes last, so that its fault counts only when no other check has one
    refine ⟨_, checks_of_pattern hp hcompiled, fun today v e => ?_⟩
    rw [Check.failures_append_eq_error, plain_eq_error]
    have hno : (∀ e', failures today v f.plainChecks ≠ .error e') ↔
        (f.type = .number → v.isTooLarge = false) := by
      rw [← not_tripsPlainly_iff today hp]
      simp only [ne_eq, plain_eq_error]
    rw [hno, Check.failures_singleton]
    constructor
    · rintro (hplain | ⟨hnumber, hpattern⟩)
      · exact .plain hplain
      · cases hpattern with
        | unwritten hlong => exact .unwritten hp hnumber hlong
        | reversed hempty hs hmatch => exact .reversed hp hcompiled hnumber hempty hs hmatch
    · intro htrips
      cases htrips with
      | plain hplain => exact .inl hplain
      | unwritten _ hnumber hlong => exact .inr ⟨hnumber, .unwritten hlong⟩
      | reversed hp' hcompiled' hnumber hempty hs hmatch =>
        obtain rfl := Option.some.inj (hp.symm.trans hp')
        obtain rfl := Except.ok.inj (hcompiled.symm.trans hcompiled')
        exact .inr ⟨hnumber, .reversed hempty hs hmatch⟩

/-- A date that cannot be read has an amount in it that is too long. -/
theorem Trips.exists_long (h : f.Trips today v .quotientTooLong) :
    ∃ s, v = .text s ∧ ∃ t ∈ Date.tokens s.toList, Date.IsLong t := by
  cases h with
  | plain hplain =>
    cases hplain with
    | @date s _ hs hread => exact ⟨s, hs, (Date.long_of_read hread).2⟩

/-- A match can only leave a group reversed where the pattern has one. -/
theorem Trips.exists_group (h : f.Trips today v .groupReversed) :
    ∃ source compiled, f.pattern? = some source ∧ Pattern.compile source = .ok compiled ∧
      ¬compiled.node.IsPlain := by
  cases h with
  | plain hplain => cases hplain
  | @reversed source s compiled hp hcompiled _ _ _ hmatch =>
    refine ⟨source, compiled, hp, hcompiled, fun hplain => ?_⟩
    obtain ⟨b, hb⟩ := Pattern.Compiled.fullMatch_of_plain hplain s
    cases hmatch.symm.trans hb

end Field

/-! ## All faults -/

/-- A condition is interrupted by a comparison of numbers, and only if there is a value to compare.
-/
theorem Condition.holds_eq_error {c : Condition} {values : Record} {e : Fault} :
    c.holds values = .error e ↔
      e = .integerTooLarge ∧ ∃ v, values.get? c.fieldKey = some v ∧ c.overflows v = true := by
  rw [holds]
  cases values.get? c.fieldKey with
  | none => simp
  | some v =>
    rw [test_eq_error, and_comm]
    simp

namespace Check

/-- **Faults.** A condition has an answer on any values, unless it compares, as numbers, an integer
without a nearest number. The checks of a field have a report on any value, unless it is such an
integer in a number field, or its date cannot be read or its written form not be matched. A date
cannot be read only because of an amount that is too long, a written form not be matched only
because of an integer with too many digits or a group in the pattern. -/
theorem faults_exactly (c : Condition) (values : Record) (f : Field) (hf : f.HasValidPattern) :
    (∀ e, c.holds values = .error e ↔
      e = .integerTooLarge ∧ ∃ v, values.get? c.fieldKey = some v ∧ c.overflows v = true) ∧
    ∃ checks, f.checks = .ok checks ∧
      (∀ today v e, failures today v checks = .error e ↔ f.Trips today v e) ∧
      (∀ today v, f.Trips today v .quotientTooLong →
        ∃ s, v = .text s ∧ ∃ t ∈ Date.tokens s.toList, Date.IsLong t) ∧
      (∀ today v, f.Trips today v .groupReversed →
        ∃ source compiled, f.pattern? = some source ∧ Pattern.compile source = .ok compiled ∧
          ¬compiled.node.IsPlain) := by
  refine ⟨fun e => Condition.holds_eq_error, ?_⟩
  obtain ⟨checks, hchecks, hfaults⟩ := Field.checks_eq_error hf
  refine ⟨checks, hchecks, hfaults, ?_, ?_⟩
  · intro today v htrips
    exact htrips.exists_long
  · intro today v htrips
    exact htrips.exists_group

/-- A field for an amount. -/
def amount : Field := { id := "1", type := .number, key := "amount" }

/-- A condition on an amount. -/
def isPositive : Condition := { fieldKey := "amount", operator := .greaterThan, value := .int 0 }

theorem tooLarge_int : (Value.int (10 ^ 309)).isTooLarge = true := by
  decide +kernel

/-- The checks of an amount report on a small one and are interrupted by a large one. -/
theorem faults_exactly_amount : amount.HasValidPattern ∧
    ∃ checks, amount.checks = .ok checks ∧ ∀ today,
      (∃ fs, failures today (.int 12) checks = .ok fs) ∧
      failures today (.int (10 ^ 309)) checks = .error .integerTooLarge := by
  have hvalid : amount.HasValidPattern := nofun
  obtain ⟨-, checks, hchecks, hfaults, -, -⟩ := faults_exactly isPositive [] amount hvalid
  refine ⟨hvalid, checks, hchecks, fun today => ⟨?_, ?_⟩⟩
  · cases h : failures today (.int 12) checks with
    | ok fs => exact ⟨fs, rfl⟩
    | error e =>
      have hfits : (Value.int 12).isTooLarge = false := by decide +kernel
      cases (hfaults today _ e).mp h with
      | plain hplain =>
        cases hplain with
        | number _ hlarge => cases hfits.symm.trans hlarge
        | date htype _ _ => cases htype
      | unwritten hp _ _ => cases hp
      | reversed hp _ _ _ _ _ => cases hp
  · exact (hfaults today _ _).mpr (.plain (.number rfl tooLarge_int))

/-- **Not every value has an answer.** An integer beyond the numbers has none, neither from a
condition that compares it nor from the checks of a number field. -/
theorem not_total_amount :
    ¬(∀ (c : Condition) (values : Record), ∃ b, c.holds values = .ok b) ∧
    ¬(∀ f : Field, f.HasValidPattern → ∃ checks, f.checks = .ok checks ∧
      ∀ today v, ∃ fs, failures today v checks = .ok fs) := by
  constructor
  · intro h
    obtain ⟨b, hb⟩ := h isPositive [("amount", .int (10 ^ 309))]
    have hoverflows : isPositive.overflows (.int (10 ^ 309)) = true := by
      rw [Condition.overflows, tooLarge_int]
      rfl
    have hfault : isPositive.holds [("amount", .int (10 ^ 309))] = .error .integerTooLarge :=
      Condition.holds_eq_error.mpr ⟨rfl, _, rfl, hoverflows⟩
    cases hfault.symm.trans hb
  · intro h
    obtain ⟨checks, hchecks, htotal⟩ := h amount nofun
    obtain ⟨checks', hchecks', hfaults⟩ := Field.checks_eq_error (f := amount) nofun
    obtain rfl := Except.ok.inj (hchecks.symm.trans hchecks')
    obtain ⟨fs, hfs⟩ := htotal ⟨2024, 1, 1⟩ (.int (10 ^ 309))
    have hfault := (hfaults ⟨2024, 1, 1⟩ _ _).mpr (.plain (.number rfl tooLarge_int))
    cases hfault.symm.trans hfs

end Check

end DynamicForm

import DynamicForm.Proofs.Check.Ranking

/-!
# Values that are left out

Null and the empty text stand for a value that has been left out. It is for the field to say whether
that is allowed, and one check should report it when it is not. All other checks let such a value
pass, with one exception: where a value is required, a text that is too short is reported as such
even when it is empty.

- `Check.excuses` tells whether a check lets a value pass that has been left out.
- `Field.needsText` tells whether a field asks for at least one character.
- `Field.empty_fails`: the rules that null and the empty text fail.
- `Field.not_reported_repeated`: there is no report when reading the pattern meets a fault.
-/

namespace DynamicForm

namespace Check

/-- Whether the check lets a value pass that has been left out. -/
def excuses (v : Value) : Check → Bool
  | required _ => false
  | ticked _ => false
  | minLength n skipsEmpty => v.isNull || skipsEmpty || n == 0
  | _ => true

variable {today : Date} {v : Value}

/-- **One check.** A value that has been left out has a verdict of every check. -/
theorem passes_of_isEmpty (c : Check) (h : v.isEmpty = true) :
    c.passes today v = .ok (c.excuses v) := by
  cases v with
  | null => cases c <;> rfl
  | text s =>
    obtain rfl : s = "" := of_decide_eq_true h
    cases c with
    | minLength n skipsEmpty => cases skipsEmpty <;> cases n <;> rfl
    | maxLength n skipsEmpty => cases skipsEmpty <;> simp [passes, lengthPasses, length?, excuses]
    | _ => rfl
  | _ => cases h

/-- The report is on the checks that do not let the value pass. -/
theorem failures_of_isEmpty (checks : List Check) (h : v.isEmpty = true) :
    failures today v checks = .ok ((checks.filter fun c => !c.excuses v).map failure) := by
  rw [failures_eq_ok]
  refine ⟨fun c _ => ⟨c.excuses v, passes_of_isEmpty c h⟩, ?_⟩
  have hfails : ∀ c : Check, (!c.excuses v) = c.fails today v := by
    intro c
    rw [fails, passes_of_isEmpty c h]
    cases c.excuses v <;> rfl
  simp only [hfails]

end Check

namespace Field

open Check (failures)

variable {f : Field} {today : Date} {v : Value}

/-- Whether the field asks for at least one character. -/
def needsText (f : Field) : Bool :=
  f.type.isTextual && f.constraints.minLength.any fun n => decide (1 ≤ n)

/-! ## The checks of a field

Source by source, which checks object to a value that has been left out. -/

theorem kindChecks_excuse (f : Field) : ∀ c ∈ f.kindChecks, c.excuses v = true := by
  unfold kindChecks
  intro c hc
  split at hc
  case h_4 | h_5 =>
    split at hc
    · cases hc
    · obtain rfl := List.mem_singleton.mp hc
      rfl
  case h_6 => cases hc
  all_goals
    obtain rfl := List.mem_singleton.mp hc
    rfl

theorem boundChecks_excuse (f : Field) : ∀ c ∈ f.boundChecks, c.excuses v = true := by
  unfold boundChecks
  intro c hc
  split at hc
  · simp only [List.mem_append, Option.mem_toList, Option.map_eq_some_iff] at hc
    rcases hc with ⟨b, -, rfl⟩ | ⟨b, -, rfl⟩ <;> rfl
  · cases hc

theorem patternCheck_excuses {p : Option Check} (hp : f.patternCheck? = .ok p) :
    ∀ c ∈ p.toList, c.excuses v = true := by
  intro c hc
  obtain rfl := Option.mem_toList.mp hc
  obtain ⟨source, compiled, -, -, rfl⟩ := patternCheck?_eq_some hp
  rfl

theorem requiredCheck_excuses (f : Field) : f.requiredCheck.excuses v = false := by
  unfold requiredCheck
  split <;> rfl

/-- A lower bound on the length objects to a text where a value is required, if it is positive. -/
theorem lowerBound_objects (bound : Option Nat) (required : Bool) (v : Value) :
    (((bound.map fun n => Check.minLength n !required).toList.filter
        fun c => !c.excuses v).map Check.name) =
      if required && !v.isNull && bound.any (fun n => decide (1 ≤ n)) then ["minLength"] else [] := by
  cases bound with
  | none => simp
  | some n =>
    cases n <;> cases required <;> cases hv : v.isNull <;> simp [Check.excuses, Check.name, hv]

/-- Of the checks of the length only the lower bound objects. -/
theorem lengthChecks_object (f : Field) (v : Value) :
    ((f.lengthChecks.filter fun c => !c.excuses v).map Check.name) =
      if f.required && !v.isNull && f.needsText then ["minLength"] else [] := by
  unfold lengthChecks needsText
  cases f.type.isTextual with
  | false => simp
  | true =>
    have hupper : (f.constraints.maxLength.map fun n => Check.maxLength n !f.required).toList.filter
        (fun c => !c.excuses v) = [] := by
      cases f.constraints.maxLength <;> simp [Check.excuses]
    simp only [if_true, List.filter_append, hupper, List.append_nil, lowerBound_objects,
      Bool.true_and]

/-- **Values that are left out.** The rules that they fail are the one that there has to be a value,
if there has to be one, and then also a lower bound on the length of a text. -/
theorem failedRules_of_isEmpty (hf : ∀ e, ¬f.MeetsFault e) (h : v.isEmpty = true) :
    f.failedRules today v = .ok (if f.required then
      "required" :: if !v.isNull && f.needsText then ["minLength"] else [] else []) := by
  have hnone : ∀ {checks : List Check}, (∀ c ∈ checks, c.excuses v = true) →
      (checks.filter fun c => !c.excuses v) = [] := by
    intro checks hall
    exact List.filter_eq_nil_iff.mpr fun c hc => by simp [hall c hc]
  cases hp : f.patternCheck? with
  | error e => exact absurd (patternCheck?_eq_error.mp hp) (hf e)
  | ok p =>
    have hchecks : f.checks = .ok (f.plainChecks ++ p.toList) := by
      rw [checks, hp]
      rfl
    rw [failedRules, findings, hchecks]
    change (failures today v _).map _ = _
    -- the report is the list of the checks that object, source by source
    rw [Check.failures_of_isEmpty _ h, plainChecks]
    simp only [List.filter_append, hnone f.kindChecks_excuse, hnone f.boundChecks_excuse,
      hnone (patternCheck_excuses hp), List.append_nil, Except.map, Except.ok.injEq, List.map_map]
    have hname : Failure.rule ∘ Check.failure = Check.name := rfl
    rw [hname, List.map_append, lengthChecks_object]
    cases f.required <;> simp [requiredCheck_excuses, name_requiredCheck]

/-- **Null and the empty text.** A field whose pattern meets no fault when it is read lets both pass
if it is not required. If it is, null fails this rule alone, and the empty text fails it and also the
lower bound on the length of a text, if that asks for at least one character. A field whose pattern
meets a fault has no checks. -/
theorem empty_fails (f : Field) (today : Date) :
    (∀ e, f.checks = .error e ↔ f.MeetsFault e) ∧
    ((∀ e, ¬f.MeetsFault e) →
      (f.required = false →
        f.failedRules today .null = .ok [] ∧ f.failedRules today (.text "") = .ok []) ∧
      (f.required = true →
        f.failedRules today .null = .ok ["required"] ∧
        f.failedRules today (.text "") =
          .ok (if f.needsText then ["required", "minLength"] else ["required"]))) := by
  refine ⟨fun e => checks_fault_iff, fun hf => ?_⟩
  have hnull : f.failedRules today .null = _ := failedRules_of_isEmpty hf rfl
  have htext : f.failedRules today (.text "") = _ := failedRules_of_isEmpty hf rfl
  rw [hnull, htext]
  constructor
  · intro hrequired
    simp [hrequired]
  · intro hrequired
    cases f.needsText <;> simp [hrequired, Value.isNull]

/-- A name that has to be given. -/
def nameField : Field :=
  { id := "1", type := .text, label := "Name", key := "name", required := true
    validation := some { minLength := some 2, maxLength := some 40, pattern := some "[a-z]+" } }

/-- A name that is missing is reported as missing, and one that is empty also as too short. -/
theorem empty_fails_name (today : Date) :
    (∀ e, ¬nameField.MeetsFault e) ∧ nameField.failedRules today .null = .ok ["required"] ∧
      nameField.failedRules today (.text "") = .ok ["required", "minLength"] := by
  have hread : ∀ e, ¬nameField.MeetsFault e := by
    rintro e ⟨source, hsource, hfault⟩
    obtain rfl := Option.some.inj hsource
    have hok : (Pattern.compile "[a-z]+").isOk = true := by decide +kernel
    rw [hfault] at hok
    cases hok
  obtain ⟨-, hreport⟩ := empty_fails nameField today
  exact ⟨hread, (hreport hread).2 rfl⟩

/-- **Not every field reports on null.** A field whose pattern repeats more often than can be counted
reports nothing, though it is not required. -/
theorem not_reported_repeated :
    ¬∀ (f : Field) (today : Date), f.required = false → f.failedRules today .null = .ok [] := by
  intro h
  have hreport := h serialField ⟨2024, 1, 15⟩ rfl
  rw [failedRules, findings, checks_serialField] at hreport
  cases hreport

end Field

end DynamicForm

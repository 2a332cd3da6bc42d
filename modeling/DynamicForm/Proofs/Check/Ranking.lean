import DynamicForm.Proofs.Check.Faults

/-!
# Which checks a field has

A field can carry any constraints, whatever its kind. Those that suit the kind become checks, always
in the same order and each rule at most once; the others leave no trace. So what the checks report
on a value is settled by the kind of the field, by how it is called, by whether a value is required
and by the constraints that suit the kind.

Neither the order nor the selection is stored anywhere: a field makes its checks from what it
declares, source by source, and each source looks at the kind first. That gives the order, since the
sources come one after the other, and it gives the selection, since a source that does not suit the
kind is empty. Both are shown of the names of the rules, which is what a report is about.

- `Check.ranking` is the order of the rules.
- `Field.findings` is what the checks of a field report on a value, `Field.failedRules` the names of
  the rules in it.
- `Field.Matches` says that two fields agree on everything that suits their kind.
- `Field.checks_ranked`: the checks of a field are in order, and those of fields that match are the
  same.
- `Field.not_ranked_repeated`: there need not be any, since reading the pattern can meet a fault.
-/

namespace DynamicForm

namespace Check

/-- The names of the rules, in the order in which fields have them. -/
def ranking : List String :=
  ["required", "email", "number", "date", "option", "minLength", "maxLength", "min", "max",
    "pattern"]

/-- The value does not pass the check. -/
def fails (today : Date) (v : Value) (c : Check) : Bool := c.passes today v matches .ok false

variable {today : Date} {v : Value} {c : Check} {checks : List Check} {fs : List Failure}

theorem fails_iff : c.fails today v = true ↔ c.passes today v = .ok false := by
  unfold fails
  rcases c.passes today v with e | _ | _ <;> simp

/-- **Reports.** A list of checks has a report when every check has a verdict, and then the report is
on the checks that fail. -/
theorem failures_eq_ok : failures today v checks = .ok fs ↔
    (∀ c ∈ checks, ∃ b, c.passes today v = .ok b) ∧
      fs = (checks.filter (fails today v)).map failure := by
  induction checks generalizing fs with
  | nil =>
    simp only [failures, Except.ok.injEq, List.filter_nil, List.map_nil]
    exact ⟨fun h => ⟨List.forall_mem_nil _, h.symm⟩, fun h => h.2.symm⟩
  | cons c rest ih =>
    rw [failures, List.forall_mem_cons, List.filter_cons, fails]
    cases hpass : c.passes today v with
    | error e =>
      refine iff_of_false (fun h => by cases h) fun h => ?_
      obtain ⟨b, hb⟩ := h.1.1
      cases hb
    | ok b =>
      cases hrest : failures today v rest with
      -- a later check meets a fault, so the walk does not return
      | error e =>
        refine iff_of_false (fun h => by cases h) fun h => ?_
        cases hrest.symm.trans (ih.mpr ⟨h.1.2, rfl⟩)
      | ok more =>
        obtain ⟨hverdicts, rfl⟩ := ih.mp hrest
        cases b with
        | true => exact ⟨fun h => ⟨⟨⟨true, rfl⟩, hverdicts⟩, (Except.ok.inj h).symm⟩,
            fun h => congrArg Except.ok h.2.symm⟩
        | false => exact ⟨fun h => ⟨⟨⟨false, rfl⟩, hverdicts⟩, (Except.ok.inj h).symm⟩,
            fun h => congrArg Except.ok h.2.symm⟩

end Check

namespace Field

open Check (failures)

/-- What the checks of a field report on a value. -/
def findings (today : Date) (v : Value) (f : Field) : Except Fault (List Failure) :=
  f.checks.bind (failures today v)

/-- The names of the rules of a field that a value fails. -/
def failedRules (today : Date) (v : Value) (f : Field) : Except Fault (List String) :=
  (f.findings today v).map (List.map Failure.rule)

/-- Reading the pattern of the field meets a fault. -/
def MeetsFault (f : Field) (e : Fault) : Prop :=
  ∃ source, f.pattern? = some source ∧ Pattern.compile source = .error (.fault e)

/-- The two fields are of one kind, are called the same, ask for a value or do not, and carry the
same constraints of those that suit the kind. -/
structure Matches (f g : Field) : Prop where
  type : f.type = g.type
  required : f.required = g.required
  label : f.label = g.label
  key : f.key = g.key
  minLength : f.type.isTextual = true → f.constraints.minLength = g.constraints.minLength
  maxLength : f.type.isTextual = true → f.constraints.maxLength = g.constraints.maxLength
  min : f.type = .number → f.constraints.min = g.constraints.min
  max : f.type = .number → f.constraints.max = g.constraints.max
  pattern : f.type.hasPattern = true → f.constraints.pattern = g.constraints.pattern
  options : f.type.hasOptions = true → f.options = g.options

variable {f g : Field} {e : Fault}

/-! ## When there are checks

Only one constraint has to be read before it can be checked. -/

/-- A pattern that is no pattern is ignored; only a fault of the reader is passed on. -/
theorem patternCheck?_eq_error : f.patternCheck? = .error e ↔ f.MeetsFault e := by
  unfold patternCheck? MeetsFault
  cases f.pattern? with
  | none => simp
  | some source =>
    rcases hread : Pattern.compile source with (_ | e') | compiled <;> simp [hread]

/-- **Faults.** A field has checks unless reading its pattern meets a fault. -/
theorem checks_fault_iff : f.checks = .error e ↔ f.MeetsFault e := by
  rw [← patternCheck?_eq_error, checks]
  cases f.patternCheck? <;> simp [Except.map]

/-- The pattern comes after all other checks. -/
theorem checks_eq_ok {checks : List Check} (h : f.checks = .ok checks) :
    ∃ c : Option Check, f.patternCheck? = .ok c ∧ checks = f.plainChecks ++ c.toList := by
  unfold Field.checks at h
  cases hc : f.patternCheck? with
  | error e =>
    rw [hc] at h
    cases h
  | ok c =>
    rw [hc] at h
    exact ⟨c, rfl, (Except.ok.inj h).symm⟩

/-- The check of the pattern is the one of the pattern that counts. -/
theorem patternCheck?_eq_some {c : Check} (h : f.patternCheck? = .ok (some c)) :
    ∃ source compiled, f.pattern? = some source ∧ Pattern.compile source = .ok compiled ∧
      c = .pattern source compiled := by
  unfold patternCheck? at h
  split at h
  · cases h
  · next source hsource =>
    split at h
    · next compiled hread =>
      exact ⟨source, compiled, hsource, hread, (Option.some.inj (Except.ok.inj h)).symm⟩
    · cases h
    · cases h

/-! ## Order

The names of each source are a part of a fixed list, and these lists follow one another in the
ranking. No name occurs twice in the ranking, so none does in a part of it. -/

theorem names_kindChecks (f : Field) :
    (f.kindChecks.map Check.name).Sublist ["email", "number", "date", "option"] := by
  unfold kindChecks
  split
  · decide
  · decide
  · decide
  iterate 2
    · split
      · decide
      · exact (by decide : ["option"].Sublist ["email", "number", "date", "option"])
  · decide

theorem names_lengthChecks (f : Field) :
    (f.lengthChecks.map Check.name).Sublist ["minLength", "maxLength"] := by
  unfold lengthChecks
  split
  · cases f.constraints.minLength <;> cases f.constraints.maxLength <;> simp [Check.name]
  · decide

theorem names_boundChecks (f : Field) :
    (f.boundChecks.map Check.name).Sublist ["min", "max"] := by
  unfold boundChecks
  split
  · cases f.constraints.min <;> cases f.constraints.max <;> simp [Check.name]
  · decide

/-- Ticking a box goes under the same name as giving a value. -/
theorem name_requiredCheck (f : Field) : f.requiredCheck.name = "required" := by
  unfold requiredCheck
  split <;> rfl

/-- **Order.** The rules of a field are ranked. -/
theorem names_ranked {checks : List Check} (h : f.checks = .ok checks) :
    (checks.map Check.name).Sublist Check.ranking := by
  obtain ⟨c, hc, rfl⟩ := checks_eq_ok h
  have hrequired : ((if f.required then [f.requiredCheck] else []).map Check.name).Sublist
      ["required"] := by
    split
    · simp [name_requiredCheck]
    · simp
  have hpattern : (c.toList.map Check.name).Sublist ["pattern"] := by
    cases c with
    | none => simp
    | some c =>
      obtain ⟨source, compiled, -, -, rfl⟩ := patternCheck?_eq_some hc
      exact List.Sublist.refl _
  rw [plainChecks, List.map_append, List.map_append, List.map_append, List.map_append]
  exact (((hrequired.append f.names_kindChecks).append f.names_lengthChecks).append
    f.names_boundChecks).append hpattern

/-! ## Constraints that do not suit the kind

Source by source: what a source looks at is among what the fields agree on, or the kind keeps it
from looking at anything. -/

namespace Matches

/-- Whether a value is required, and what a message calls the field, are the same. -/
theorem requiredCheck (h : f.Matches g) : f.requiredCheck = g.requiredCheck := by
  unfold Field.requiredCheck caption
  rw [h.type, h.label, h.key]

/-- The kind is the same, and so are the options where they matter. -/
theorem kindChecks (h : f.Matches g) : f.kindChecks = g.kindChecks := by
  unfold Field.kindChecks
  rw [← h.type]
  cases htype : f.type with
  | select => rw [h.options (by rw [htype]; rfl)]
  | radio => rw [h.options (by rw [htype]; rfl)]
  | _ => rfl

theorem lengthChecks (h : f.Matches g) : f.lengthChecks = g.lengthChecks := by
  unfold Field.lengthChecks
  rw [← h.type]
  split
  · next htext => rw [h.minLength htext, h.maxLength htext, h.required]
  · rfl

theorem boundChecks (h : f.Matches g) : f.boundChecks = g.boundChecks := by
  unfold Field.boundChecks
  rw [← h.type]
  split
  · next hnumber => rw [h.min hnumber, h.max hnumber]
  · rfl

theorem pattern? (h : f.Matches g) : f.pattern? = g.pattern? := by
  unfold Field.pattern?
  rw [← h.type]
  split
  · next hkind => rw [h.pattern hkind]
  · rfl

/-- **Constraints that do not suit the kind** make no difference. -/
theorem checks (h : f.Matches g) : f.checks = g.checks := by
  have hplain : f.plainChecks = g.plainChecks := by
    rw [plainChecks, plainChecks, h.required, h.requiredCheck, h.kindChecks, h.lengthChecks,
      h.boundChecks]
  have hpattern : f.patternCheck? = g.patternCheck? := by
    rw [patternCheck?, patternCheck?, h.pattern?]
  rw [Field.checks, Field.checks, hplain, hpattern]

end Matches

/-- **The checks of a field.** There are checks unless reading the pattern meets a fault. Their rules
are in order and none is there twice. A field that agrees on what suits the kind has the same checks,
so that both report the same on every value. -/
theorem checks_ranked (f : Field) :
    (∀ e, f.checks = .error e ↔ f.MeetsFault e) ∧
    (∀ checks, f.checks = .ok checks →
      (checks.map Check.name).Sublist Check.ranking ∧ (checks.map Check.name).Nodup) ∧
    ∀ g, f.Matches g → g.checks = f.checks ∧ ∀ today v, g.findings today v = f.findings today v := by
  refine ⟨fun e => checks_fault_iff, fun checks hchecks => ?_, fun g hg => ?_⟩
  · have hranked := names_ranked hchecks
    have hdistinct : Check.ranking.Nodup := by decide
    exact ⟨hranked, hdistinct.sublist hranked⟩
  · refine ⟨hg.checks.symm, fun today v => ?_⟩
    rw [findings, findings, hg.checks]

/-- A box that has to be ticked, with constraints that suit a text. -/
def consentField : Field :=
  { id := "1", type := .checkbox, label := "Consent", key := "consent", required := true
    validation := some { minLength := some 3, pattern := some "[" } }

/-- The constraints of a text make no difference to a box. -/
theorem checks_ranked_consent :
    consentField.Matches { consentField with validation := none } ∧
      (∃ checks, consentField.checks = .ok checks ∧
        (checks.map Check.name).Sublist Check.ranking) ∧
      ∀ today v, ({ consentField with validation := none } : Field).findings today v =
        consentField.findings today v := by
  have hmatches : consentField.Matches { consentField with validation := none } :=
    { type := rfl, required := rfl, label := rfl, key := rfl, minLength := nofun, maxLength := nofun
      min := nofun, max := nofun, pattern := nofun, options := nofun }
  obtain ⟨-, hranked, hsame⟩ := checks_ranked consentField
  exact ⟨hmatches, ⟨_, rfl, (hranked _ rfl).1⟩, (hsame _ hmatches).2⟩

/-- A field whose pattern repeats more often than can be counted. -/
def serialField : Field :=
  { id := "1", type := .text, label := "Serial", key := "serial"
    validation := some { maxLength := some 9, pattern := some "x\x7b4294967295\x7d" } }

theorem checks_serialField : serialField.checks = .error .repetitionTooLarge :=
  checks_fault_iff.mpr ⟨_, rfl, by decide +kernel⟩

/-- **Not every field has checks.** There are none in any order when the pattern repeats more often
than can be counted. -/
theorem not_ranked_repeated :
    ¬∀ f : Field, ∃ checks, f.checks = .ok checks ∧
      (checks.map Check.name).Sublist Check.ranking ∧ (checks.map Check.name).Nodup := by
  intro h
  obtain ⟨checks, hchecks, -⟩ := h serialField
  cases checks_serialField.symm.trans hchecks

end Field

end DynamicForm

import DynamicForm.Check.OfField
import DynamicForm.Proofs.Check.Faults

/-!
# Values of number fields

A number field is checked by up to four rules, of which each leaves some values to another: the
bounds let pass what is no number, and all but the first what is empty. Together they let a value
pass only if it is a finite number within the bounds, or spells one, or is left out and may be. A
text counts by the rules of coercion: blanks around a number do not matter, and blanks alone are
zero.

- `Value.StandsFor` says what number a value is or spells.
- `Field.plainly_accepts`: the values that pass, a pattern set aside.
- `Field.accepts_amount`: so every value that passes is within the bounds.
- `Field.not_spelled_blank`: it need not be the text of a number.
-/

namespace DynamicForm

namespace Value

variable {v : Value} {x : Binary64}

/-- The number that a text counts as, if it counts as one. -/
def numeral? (s : String) : Option Binary64 :=
  if Text.isBlankText s then some .zero else readNumber (Text.trim s)

/-- The value is a finite number, or a text that is read as one. Booleans are no numbers. -/
inductive StandsFor (read : String → Option Binary64) : Value → Binary64 → Prop where
  | int {n : Int} {x : Binary64} : roundInt n = .ok x → StandsFor read (.int n) x
  | float {x : Binary64} : x.isFinite = true → StandsFor read (.float x) x
  | text {s : String} {x : Binary64} : read s = some x → x.isFinite = true →
      StandsFor read (.text s) x

/-- A text that is no numeral counts as something that is no number. -/
theorem textNumber_eq (s : String) : textNumber s = (numeral? s).getD .nan := by
  unfold textNumber numeral?
  split <;> rfl

/-- An integer that can be rounded at all is rounded to a finite number. -/
theorem isFinite_of_roundInt {n : Int} (h : roundInt n = .ok x) : x.isFinite = true := by
  unfold roundInt Binary64.ofInt? at h
  dsimp only at h
  split at h
  · rw [← Except.ok.inj h]
    rfl
  · cases h

theorem StandsFor.isFinite {read : String → Option Binary64} (h : v.StandsFor read x) :
    x.isFinite = true := by
  cases h with
  | int hn => exact isFinite_of_roundInt hn
  | float hx => exact hx
  | text _ hx => exact hx

/-- A value that stands for a number is coerced to it. -/
theorem StandsFor.toNumber (h : v.StandsFor numeral? x) : v.toNumber = .ok x := by
  cases h with
  | int hn => exact hn
  | float hx => rfl
  | text hs _ => rw [Value.toNumber, textNumber_eq, hs, Option.getD_some]

end Value

namespace Check

open Value (StandsFor numeral?)

variable {today : Date} {v : Value} {x : Binary64} {checks others : List Check}

/-- Nothing fails when every check passes. -/
theorem failures_eq_nil :
    failures today v checks = .ok [] ↔ ∀ c ∈ checks, c.passes today v = .ok true := by
  induction checks with
  | nil => simp [failures]
  | cons c rest ih =>
    rw [List.forall_mem_cons, ← ih, failures]
    cases c.passes today v with
    | error e => simp [bind, Except.bind]
    | ok b =>
      cases failures today v rest with
      | error e => simp [bind, Except.bind]
      | ok fs => cases b <;> simp [bind, Except.bind, pure, Except.pure]

/-- **The number check** lets pass what stands for a number. -/
theorem isNumeric_eq_true : isNumeric v = .ok true ↔ ∃ x, v.StandsFor numeral? x := by
  cases v with
  -- an integer is a number if it can be rounded
  | int n =>
    change (Value.int n).isNumber = .ok true ↔ _
    rw [Value.isNumber]
    cases hn : Value.roundInt n with
    | error e =>
      constructor
      · intro hok
        cases hok
      · rintro ⟨x, hx⟩
        cases hx with
        | int hx => cases hn.symm.trans hx
    | ok x => exact iff_of_true rfl ⟨x, .int hn⟩
  -- a float is one if it is finite
  | float y =>
    change (Value.float y).isNumber = .ok true ↔ _
    rw [Value.isNumber, Except.ok.injEq]
    constructor
    · intro hy
      exact ⟨y, .float hy⟩
    · rintro ⟨x, ⟨⟩⟩
      assumption
  -- a text is one if it is read as a finite number, blanks set aside
  | text s =>
    rw [isNumeric, Except.ok.injEq, Value.textNumber_eq]
    cases hs : numeral? s with
    | none =>
      refine iff_of_false Bool.false_ne_true ?_
      rintro ⟨x, hx⟩
      cases hx with
      | text hx hfinite => cases hs.symm.trans hx
    | some y =>
      constructor
      · intro hy
        exact ⟨y, .text hs hy⟩
      · rintro ⟨x, hx⟩
        cases hx with
        | text hx hfinite =>
          obtain rfl := Option.some.inj (hs.symm.trans hx)
          exact hfinite
  | _ =>
    constructor
    · intro hok
      cases hok
    · rintro ⟨x, hx⟩
      cases hx

/-- The check of the kind lets pass what is empty too. -/
theorem number_passes :
    number.passes today v = .ok true ↔ v.isEmpty = true ∨ ∃ x, v.StandsFor numeral? x := by
  rw [passes]
  split
  · next h => simp [h]
  · next h => rw [isNumeric_eq_true, or_iff_right h]

/-- A value that stands for a number is compared as that number. -/
theorem rangePasses_of_standsFor (accepts : Binary64 → Bool) (hempty : v.isEmpty = false)
    (h : v.StandsFor numeral? x) : rangePasses accepts v = .ok (accepts x) := by
  have hnan : x.isNan = false := by
    cases x with
    | nan => cases h.isFinite
    | _ => rfl
  rw [rangePasses, hempty, h.toNumber]
  simp [Except.map, hnan]

/-- A value that may be left out is not compared. -/
theorem rangePasses_of_isEmpty (accepts : Binary64 → Bool) (hempty : v.isEmpty = true) :
    rangePasses accepts v = .ok true := by
  rw [rangePasses, if_pos hempty]

end Check

namespace Field

open Check (failures)
open Value (StandsFor numeral?)

variable {f : Field} {today : Date} {v : Value} {checks : List Check}

/-- The number lies within the bounds that have been declared. -/
structure Admits (f : Field) (x : Binary64) : Prop where
  min : ∀ b, f.constraints.min = some b → b.le x = true
  max : ∀ b, f.constraints.max = some b → x.le b = true

/-- The check that there is a value fails on what is empty, and a number is never empty otherwise. -/
theorem required_passes (f : Field) (h : f.type = .number) (hv : v.isEmpty = true ∨
    ∃ x, v.StandsFor numeral? x) :
    f.requiredCheck.passes today v = .ok true ↔ v.isEmpty = false := by
  have hgiven : f.requiredCheck.passes today v = .ok (Check.isGiven v) := by
    rw [requiredCheck, h]
    rfl
  have hsame : Check.isGiven v = !v.isEmpty := by
    rcases hv with hempty | ⟨x, hx⟩
    · cases v with
      | list items => cases hempty
      | record entries => cases hempty
      | _ => rfl
    · cases hx <;> rfl
  rw [hgiven, hsame, Except.ok.injEq, Bool.not_eq_true']

/-- The checks of the bounds that have been declared. -/
theorem forall_mem_boundChecks (h : f.type = .number) {p : Check → Prop} :
    (∀ c ∈ f.boundChecks, p c) ↔
      (∀ b, f.constraints.min = some b → p (.min b)) ∧
        ∀ b, f.constraints.max = some b → p (.max b) := by
  rw [boundChecks, if_pos h, List.forall_mem_append]
  simp only [Option.mem_toList, Option.map_eq_some_iff, forall_exists_index, and_imp,
    forall_apply_eq_imp_iff₂]

/-- What may be left out passes all bounds. -/
theorem boundChecks_of_isEmpty (h : f.type = .number) (hempty : v.isEmpty = true) :
    ∀ c ∈ f.boundChecks, c.passes today v = .ok true := by
  rw [forall_mem_boundChecks h]
  exact ⟨fun b _ => Check.rangePasses_of_isEmpty _ hempty,
    fun b _ => Check.rangePasses_of_isEmpty _ hempty⟩

/-- A number passes the bounds that it lies within. -/
theorem boundChecks_of_standsFor {x : Binary64} (h : f.type = .number) (hempty : v.isEmpty = false)
    (hx : v.StandsFor numeral? x) :
    (∀ c ∈ f.boundChecks, c.passes today v = .ok true) ↔ f.Admits x := by
  simp only [forall_mem_boundChecks h, Check.passes,
    Check.rangePasses_of_standsFor _ hempty hx, Except.ok.injEq]
  constructor
  · rintro ⟨hmin, hmax⟩
    exact ⟨hmin, hmax⟩
  · rintro ⟨hmin, hmax⟩
    exact ⟨hmin, hmax⟩

/-- The checks of a number field. -/
theorem forall_mem_plainChecks (h : f.type = .number) {p : Check → Prop} :
    (∀ c ∈ f.plainChecks, p c) ↔
      (f.required = true → p f.requiredCheck) ∧ p .number ∧ ∀ c ∈ f.boundChecks, p c := by
  have hkind : f.kindChecks = [.number] := by rw [kindChecks, h]
  have hlength : f.lengthChecks = [] := by rw [lengthChecks, h]; rfl
  rw [plainChecks, hkind, hlength, List.append_nil]
  cases f.required <;> simp

/-- **Plain checks.** A value passes the checks of a number field, a pattern set aside, exactly if it
is empty and the field may be left out, or if it is not empty and stands for a number within the
bounds. -/
theorem plainly_accepts (h : f.type = .number) :
    failures today v f.plainChecks = .ok [] ↔
      v.isEmpty = true ∧ f.required = false ∨
      v.isEmpty = false ∧ ∃ x, v.StandsFor numeral? x ∧ f.Admits x := by
  rw [Check.failures_eq_nil, forall_mem_plainChecks h, Check.number_passes]
  cases hempty : v.isEmpty with
  | true =>
    rw [required_passes f h (.inl hempty), hempty]
    simpa using fun _ => boundChecks_of_isEmpty h hempty
  | false =>
    constructor
    · rintro ⟨-, hnumber, hbounds⟩
      obtain ⟨x, hx⟩ := hnumber.resolve_left Bool.false_ne_true
      exact .inr ⟨rfl, x, hx, (boundChecks_of_standsFor h hempty hx).mp hbounds⟩
    · rintro (⟨hno, -⟩ | ⟨-, x, hx, hadmits⟩)
      · cases hno
      · exact ⟨fun _ => (required_passes f h (.inr ⟨x, hx⟩)).mpr hempty, .inr ⟨x, hx⟩,
          (boundChecks_of_standsFor h hempty hx).mpr hadmits⟩

/-- The pattern comes last, so it does not save what fails before. -/
theorem failures_plainChecks (hc : f.checks = .ok checks) (h : failures today v checks = .ok []) :
    failures today v f.plainChecks = .ok [] := by
  unfold Field.checks at hc
  cases hp : f.patternCheck? with
  | error e =>
    rw [hp] at hc
    cases hc
  | ok c =>
    rw [hp] at hc
    obtain rfl := Except.ok.inj hc
    rw [Check.failures_eq_nil, List.forall_mem_append] at h
    exact Check.failures_eq_nil.mpr h.1

/-- **Amounts.** A value that fails none of the checks of a number field is empty, and the field is not
required, or it is a finite number, no boolean, or a text that counts as one; and this number lies
within all bounds that have been declared. -/
theorem accepts_amount (h : f.type = .number) (hc : f.checks = .ok checks)
    (hpass : failures today v checks = .ok []) :
    v.isEmpty = true ∧ f.required = false ∨
      v.isEmpty = false ∧ ∃ x, v.StandsFor numeral? x ∧ x.isFinite = true ∧ f.Admits x := by
  rcases (plainly_accepts h).mp (failures_plainChecks hc hpass) with
    hleft | ⟨hempty, x, hx, hadmits⟩
  · exact .inl hleft
  · exact .inr ⟨hempty, x, hx, hx.isFinite, hadmits⟩

/-- A field for an amount from one to a hundred. -/
def priceField : Field :=
  { id := "1", type := .number, key := "price", required := true
    validation := some { min := some .one, max := some (.finite false (100 * Binary64.unitsPerOne)) } }

/-- The checks of a price, and a text that passes them. -/
theorem accepts_amount_price :
    priceField.type = .number ∧ ∃ checks, priceField.checks = .ok checks ∧
      failures ⟨2024, 1, 15⟩ (.text " 7.50 ") checks = .ok [] ∧
      ∃ x, (Value.text " 7.50 ").StandsFor numeral? x ∧ priceField.Admits x := by
  have hc : priceField.checks = .ok priceField.plainChecks := checks_of_no_pattern rfl
  have hx : (Value.text " 7.50 ").StandsFor numeral? (Value.textNumber " 7.50 ") :=
    .text (by decide +kernel) (by decide +kernel)
  have hadmits : priceField.Admits (Value.textNumber " 7.50 ") := by
    constructor <;> rintro b ⟨⟩ <;> decide +kernel
  have hpass : failures ⟨2024, 1, 15⟩ (.text " 7.50 ") priceField.plainChecks = .ok [] :=
    (plainly_accepts rfl).mpr (.inr ⟨rfl, _, hx, hadmits⟩)
  refine ⟨rfl, _, hc, hpass, ?_⟩
  rcases accepts_amount rfl hc hpass with ⟨hempty, -⟩ | ⟨-, x, hx, -, hadmits⟩
  · cases hempty
  · exact ⟨x, hx, hadmits⟩

/-- A required field for a number. -/
def countField : Field := { id := "1", type := .number, key := "count", required := true }

/-- **Not every text that passes spells a number.** Blanks alone pass, even when a value is required,
and so does a number next to an information separator. -/
theorem not_spelled_blank :
    ∃ checks, countField.checks = .ok checks ∧ ∀ s ∈ [" ", "\x1f7"],
      failures ⟨2024, 1, 15⟩ (.text s) checks = .ok [] ∧ (Value.text s).isEmpty = false ∧
        ¬∃ x, (Value.text s).StandsFor readNumber x := by
  have hreads : ∀ s ∈ [" ", "\x1f7"], (Value.text s).isEmpty = false ∧ readNumber s = none ∧
      numeral? s = some (Value.textNumber s) ∧ (Value.textNumber s).isFinite = true := by
    decide +kernel
  refine ⟨_, checks_of_no_pattern rfl, fun s hs => ?_⟩
  obtain ⟨hempty, hunread, hread, hfinite⟩ := hreads s hs
  have hcounts : (Value.text s).StandsFor numeral? (Value.textNumber s) := .text hread hfinite
  refine ⟨(plainly_accepts rfl).mpr (.inr ⟨hempty, _, hcounts, nofun, nofun⟩), hempty, ?_⟩
  rintro ⟨x, hx⟩
  cases hx with
  | text hread _ => cases hunread.symm.trans hread

end Field

end DynamicForm

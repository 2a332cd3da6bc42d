import DynamicForm.Proofs.Check.Ranking

/-!
# Fields that ask for more

The author of a form asks for more of a field by requiring a value, by setting a bound or moving it
inwards, or by giving a pattern where there was none. Each of these changes some checks and adds
others: where a value is required, the length of an empty text is tested too. No rule that a value
fails is given up by it.

The comparison goes through the checks. A check covers another if it goes under the same name and
fails wherever the other fails; then the failures of one list are among those of another as soon as
every check of the first is covered by some check of the second. Which check covers which is clear
except in one place. Where a value is required, an empty text is no longer exempt from the bounds on
its length, so a bound can only become stricter when the field is required, and never the other way
round.

A chain of changes is gone through by a relation between fields that is reflexive and transitive,
and in which each single change lies. The relation speaks of what bounds let through and not of the
bounds themselves, since floats with a value that is no number are not ordered.

- `Field.Tightened` says that a field asks for more than another in one respect.
- `Field.Stricter` says that every check of one field has a counterpart in another that is at least as
  strict.
- `Tightened.stricter`, `Stricter.covered`: asking for more keeps a stricter counterpart of each check.
- `Field.tightened_fails`: what fails a field fails, by the same rules, every field that asks for more.
-/

namespace DynamicForm

/-- A number that is at least the greater of two bounds is at least the lesser. -/
theorem Binary64.le_trans {x y z : Binary64} (hxy : x.le y = true) (hyz : y.le z = true) :
    x.le z = true := by
  unfold le compareWith at *
  cases hx : x.rank? <;> cases hy : y.rank? <;> cases hz : z.rank? <;>
    simp only [hx, hy, hz, decide_eq_true_eq, Bool.false_eq_true] at *
  omega

namespace Check

variable {today : Date} {v : Value} {c d : Check} {checks : List Check}

/-- The check is for the same rule, and fails on every value that the other fails on. -/
structure Covers (d c : Check) : Prop where
  name : d.name = c.name
  fails : ∀ {today v}, c.passes today v = .ok false → d.passes today v = .ok false

theorem Covers.refl (c : Check) : c.Covers c := ⟨rfl, id⟩

/-! ## Checks that ask for more

One lemma for each rule with a bound. -/

/-- What follows from something false is not known to be true. -/
theorem eq_false_of_imp {a b : Bool} (h : b = true → a = true) (ha : a = false) : b = false :=
  Bool.eq_false_iff.mpr (mt h (Bool.eq_false_iff.mp ha))

/-- A length that fails one bound fails a narrower one, also when fewer values are exempt. -/
theorem lengthPasses_narrower {skips skips' : Bool} {accepts accepts' : Nat → Bool}
    (hskips : skips' = true → skips = true) (haccepts : ∀ k, accepts' k = true → accepts k = true)
    (h : lengthPasses skips accepts v = false) : lengthPasses skips' accepts' v = false := by
  unfold lengthPasses at *
  cases hlength : length? v with
  | none =>
    rw [hlength] at h
    cases h
  | some k =>
    simp only [hlength, Bool.or_eq_false_iff, Bool.and_eq_false_iff] at *
    obtain ⟨hexempt, hno⟩ := h
    exact ⟨hexempt.imp_left (eq_false_of_imp hskips), eq_false_of_imp (haccepts k) hno⟩

/-- A number that fails one bound fails a narrower one. -/
theorem rangePasses_narrower {accepts accepts' : Binary64 → Bool}
    (haccepts : ∀ x, accepts' x = true → accepts x = true)
    (h : rangePasses accepts v = .ok false) : rangePasses accepts' v = .ok false := by
  unfold rangePasses at *
  by_cases hempty : v.isEmpty = true
  · rw [if_pos hempty] at h
    cases h
  · rw [if_neg hempty] at *
    cases hnumber : v.toNumber with
    | error e =>
      rw [hnumber] at h
      cases h
    | ok x =>
      rw [hnumber] at h
      simp only [Except.map, Except.ok.injEq, Bool.or_eq_false_iff] at h ⊢
      obtain ⟨hnan, hno⟩ := h
      exact ⟨hnan, eq_false_of_imp (haccepts x) hno⟩

/-- A greater least length, with no more exemptions. -/
theorem minLength_covers {m n : Nat} {skips skips' : Bool} (hskips : skips' = true → skips = true)
    (h : m ≤ n) : (minLength n skips').Covers (minLength m skips) where
  name := rfl
  fails hfails := by
    have hnarrow : ∀ k, decide (n ≤ k) = true → decide (m ≤ k) = true := by
      intro k hk
      exact decide_eq_true (h.trans (of_decide_eq_true hk))
    exact congrArg Except.ok (lengthPasses_narrower hskips hnarrow (Except.ok.inj hfails))

/-- A smaller greatest length, with no more exemptions. -/
theorem maxLength_covers {m n : Nat} {skips skips' : Bool} (hskips : skips' = true → skips = true)
    (h : n ≤ m) : (maxLength n skips').Covers (maxLength m skips) where
  name := rfl
  fails hfails := by
    have hnarrow : ∀ k, decide (k ≤ n) = true → decide (k ≤ m) = true := by
      intro k hk
      exact decide_eq_true ((of_decide_eq_true hk).trans h)
    exact congrArg Except.ok (lengthPasses_narrower hskips hnarrow (Except.ok.inj hfails))

theorem min_covers {a b : Binary64} (h : ∀ x, b.le x = true → a.le x = true) :
    (min b).Covers (min a) where
  name := rfl
  fails := rangePasses_narrower h

theorem max_covers {a b : Binary64} (h : ∀ x : Binary64, x.le b = true → x.le a = true) :
    (max b).Covers (max a) where
  name := rfl
  fails := rangePasses_narrower h

end Check

namespace Field

open Check (failures)

/-! ## Asking for more -/

/-- The field with other constraints. -/
def constrain (f : Field) (c : Constraints) : Field := { f with validation := some c }

/-- The field asks for more in one respect. -/
inductive Tightened (f : Field) : Field → Prop where
  /-- There has to be a value. -/
  | required : Tightened f { f with required := true }
  /-- A lower bound on the length is set or raised. -/
  | minLength {n : Nat} : (∀ m, f.constraints.minLength = some m → m ≤ n) →
      Tightened f (f.constrain { f.constraints with minLength := some n })
  /-- An upper bound on the length is set or lowered. -/
  | maxLength {n : Nat} : (∀ m, f.constraints.maxLength = some m → n ≤ m) →
      Tightened f (f.constrain { f.constraints with maxLength := some n })
  /-- A least value is set or raised. -/
  | min {b : Binary64} : (∀ a, f.constraints.min = some a → a.le b = true) →
      Tightened f (f.constrain { f.constraints with min := some b })
  /-- A greatest value is set or lowered. -/
  | max {b : Binary64} : (∀ a, f.constraints.max = some a → b.le a = true) →
      Tightened f (f.constrain { f.constraints with max := some b })
  /-- A pattern is given where none counts. -/
  | pattern {source : String} : f.pattern? = none →
      Tightened f (f.constrain { f.constraints with pattern := some source })

/-- Whatever the first field asks for, the second asks for at least as much. -/
structure Stricter (f g : Field) : Prop where
  type : g.type = f.type
  options : g.options = f.options
  required : f.required = true → g.required = true
  minLength : ∀ m, f.constraints.minLength = some m →
    ∃ n, g.constraints.minLength = some n ∧ m ≤ n
  maxLength : ∀ m, f.constraints.maxLength = some m →
    ∃ n, g.constraints.maxLength = some n ∧ n ≤ m
  /-- The second bound lets through only what the first lets through. -/
  min : ∀ a, f.constraints.min = some a →
    ∃ b, g.constraints.min = some b ∧ ∀ x, b.le x = true → a.le x = true
  max : ∀ a, f.constraints.max = some a →
    ∃ b, g.constraints.max = some b ∧ ∀ x : Binary64, x.le b = true → x.le a = true
  pattern : ∀ source, f.pattern? = some source → g.pattern? = some source

namespace Stricter

variable {f g k : Field}

theorem refl (f : Field) : f.Stricter f where
  type := rfl
  options := rfl
  required h := h
  minLength m h := ⟨m, h, le_rfl⟩
  maxLength m h := ⟨m, h, le_rfl⟩
  min a h := ⟨a, h, fun _ hx => hx⟩
  max a h := ⟨a, h, fun _ hx => hx⟩
  pattern _ h := h

/-- What is asked for does not become less along a chain. -/
theorem trans (h : f.Stricter g) (h' : g.Stricter k) : f.Stricter k where
  type := h'.type.trans h.type
  options := h'.options.trans h.options
  required hf := h'.required (h.required hf)
  minLength m hm := by
    obtain ⟨n, hn, hle⟩ := h.minLength m hm
    obtain ⟨n', hn', hle'⟩ := h'.minLength n hn
    exact ⟨n', hn', hle.trans hle'⟩
  maxLength m hm := by
    obtain ⟨n, hn, hle⟩ := h.maxLength m hm
    obtain ⟨n', hn', hle'⟩ := h'.maxLength n hn
    exact ⟨n', hn', hle'.trans hle⟩
  -- bounds are compared by the numbers that they let through
  min a ha := by
    obtain ⟨b, hb, hle⟩ := h.min a ha
    obtain ⟨b', hb', hle'⟩ := h'.min b hb
    exact ⟨b', hb', fun x hx => hle x (hle' x hx)⟩
  max a ha := by
    obtain ⟨b, hb, hle⟩ := h.max a ha
    obtain ⟨b', hb', hle'⟩ := h'.max b hb
    exact ⟨b', hb', fun x hx => hle x (hle' x hx)⟩
  pattern source hs := h'.pattern source (h.pattern source hs)

end Stricter

/-- **One respect.** A field that asks for more in one respect asks for at least as much in all. -/
theorem Tightened.stricter {f g : Field} (h : f.Tightened g) : f.Stricter g := by
  cases h with
  | required => exact { Stricter.refl f with required := fun _ => rfl }
  | @minLength n hn => exact { Stricter.refl f with minLength := fun m hm => ⟨n, rfl, hn m hm⟩ }
  | @maxLength n hn => exact { Stricter.refl f with maxLength := fun m hm => ⟨n, rfl, hn m hm⟩ }
  | @min b hb =>
    exact { Stricter.refl f with
      min := fun a ha => ⟨b, rfl, fun x hx => Binary64.le_trans (hb a ha) hx⟩ }
  | @max b hb =>
    exact { Stricter.refl f with
      max := fun a ha => ⟨b, rfl, fun x hx => Binary64.le_trans hx (hb a ha)⟩ }
  | @pattern source hnone =>
    exact { Stricter.refl f with pattern := fun s hs => nomatch hnone.symm.trans hs }

/-! ## Checks of fields that ask for more

The sources of checks once more, each with the counterparts in the stricter field. -/

namespace Stricter

variable {f g : Field} {c : Check}

/-- A field that asks for at least as much exempts no more from the bounds on the length. -/
theorem skips (h : f.Stricter g) (hg : (!g.required) = true) : (!f.required) = true := by
  have hmt := mt h.required
  simpa [hg] using hmt (by simpa using hg)

/-- A value is asked for by both, or by the second field only. -/
theorem requiredCheck (h : f.Stricter g) : g.requiredCheck.Covers f.requiredCheck := by
  unfold Field.requiredCheck
  rw [h.type]
  split
  · exact ⟨rfl, fun hfails => hfails⟩
  · exact ⟨rfl, fun hfails => hfails⟩

theorem kindChecks (h : f.Stricter g) : g.kindChecks = f.kindChecks := by
  unfold Field.kindChecks
  rw [h.type, h.options]

/-- Bounds on the length are still there, and no wider. -/
theorem lengthChecks (h : f.Stricter g) (hc : c ∈ f.lengthChecks) :
    ∃ d ∈ g.lengthChecks, d.Covers c := by
  unfold Field.lengthChecks at *
  rw [h.type]
  split at hc
  · next htext =>
    rw [if_pos htext]
    simp only [List.mem_append, Option.mem_toList, Option.map_eq_some_iff] at *
    rcases hc with ⟨m, hm, rfl⟩ | ⟨m, hm, rfl⟩
    · obtain ⟨n, hn, hle⟩ := h.minLength m hm
      exact ⟨_, .inl ⟨n, hn, rfl⟩, Check.minLength_covers h.skips hle⟩
    · obtain ⟨n, hn, hle⟩ := h.maxLength m hm
      exact ⟨_, .inr ⟨n, hn, rfl⟩, Check.maxLength_covers h.skips hle⟩
  · cases hc

/-- Bounds on the value are still there, and no wider. -/
theorem boundChecks (h : f.Stricter g) (hc : c ∈ f.boundChecks) :
    ∃ d ∈ g.boundChecks, d.Covers c := by
  unfold Field.boundChecks at *
  rw [h.type]
  split at hc
  · next hnumber =>
    rw [if_pos hnumber]
    simp only [List.mem_append, Option.mem_toList, Option.map_eq_some_iff] at *
    rcases hc with ⟨a, ha, rfl⟩ | ⟨a, ha, rfl⟩
    · obtain ⟨b, hb, hle⟩ := h.min a ha
      exact ⟨_, .inl ⟨b, hb, rfl⟩, Check.min_covers hle⟩
    · obtain ⟨b, hb, hle⟩ := h.max a ha
      exact ⟨_, .inr ⟨b, hb, rfl⟩, Check.max_covers hle⟩
  · cases hc

/-- **Counterparts.** Every check of a field is covered by a check of a field that asks for at least
as much. -/
theorem covered (h : f.Stricter g) {checks others : List Check} (hf : f.checks = .ok checks)
    (hg : g.checks = .ok others) (hc : c ∈ checks) : ∃ d ∈ others, d.Covers c := by
  obtain ⟨p, hp, rfl⟩ := checks_eq_ok hf
  obtain ⟨q, hq, rfl⟩ := checks_eq_ok hg
  -- the sources of checks, one after the other
  simp only [plainChecks, List.mem_append, or_assoc] at *
  rcases hc with hrequired | hkind | hlength | hbound | hpattern
  · split at hrequired
    · next hrequires =>
      obtain rfl := List.mem_singleton.mp hrequired
      rw [if_pos (h.required hrequires)]
      exact ⟨_, .inl (List.mem_singleton_self _), h.requiredCheck⟩
    · cases hrequired
  · rw [h.kindChecks]
    exact ⟨c, .inr (.inl hkind), .refl c⟩
  · obtain ⟨d, hd, hcovers⟩ := h.lengthChecks hlength
    exact ⟨d, .inr (.inr (.inl hd)), hcovers⟩
  · obtain ⟨d, hd, hcovers⟩ := h.boundChecks hbound
    exact ⟨d, .inr (.inr (.inr (.inl hd))), hcovers⟩
  · obtain rfl := Option.mem_toList.mp hpattern
    obtain ⟨source, compiled, hsource, hread, rfl⟩ := patternCheck?_eq_some hp
    -- the same pattern is read again
    have hsame : g.patternCheck? = .ok (some (.pattern source compiled)) := by
      rw [patternCheck?, h.pattern source hsource]
      dsimp only
      rw [hread]
    obtain rfl := Except.ok.inj (hsame.symm.trans hq)
    exact ⟨_, .inr (.inr (.inr (.inr (Option.mem_toList.mpr rfl)))), .refl _⟩

end Stricter

/-- The names of the rules that fail are those of the checks that fail. -/
theorem failedRules_eq_ok {f : Field} {today : Date} {v : Value} {rules : List String}
    (h : f.failedRules today v = .ok rules) : ∃ checks, f.checks = .ok checks ∧
      (∀ c ∈ checks, ∃ b, c.passes today v = .ok b) ∧
      rules = (checks.filter (Check.fails today v)).map Check.name := by
  unfold failedRules findings at h
  cases hchecks : f.checks with
  | error e =>
    rw [hchecks] at h
    cases h
  -- the checks have been compiled, and running them has returned too
  | ok checks =>
    rw [hchecks] at h
    change (failures today v checks).map _ = _ at h
    cases hreport : failures today v checks with
    | error e =>
      rw [hreport] at h
      cases h
    | ok fs =>
      obtain ⟨hverdicts, rfl⟩ := Check.failures_eq_ok.mp hreport
      rw [hreport] at h
      obtain rfl := Except.ok.inj h
      exact ⟨checks, rfl, hverdicts, List.map_map⟩

/-- **Several respects.** Asking for more, one thing after the other, keeps asking for at least as
much. -/
theorem Stricter.of_tightened {f g : Field} (h : Relation.ReflTransGen Tightened f g) :
    f.Stricter g := by
  induction h with
  | refl => exact .refl f
  | tail _ hstep ih => exact ih.trans hstep.stricter

/-- **Asking for more.** Whatever is asked for in addition, one thing after the other: a rule that a
value fails in the first field it fails in the last, if both have a report on it. -/
theorem tightened_fails {f g : Field} {today : Date} {v : Value} {rules others : List String}
    (h : Relation.ReflTransGen Tightened f g) (hf : f.failedRules today v = .ok rules)
    (hg : g.failedRules today v = .ok others) : ∀ rule ∈ rules, rule ∈ others := by
  obtain ⟨checks, hchecks, -, rfl⟩ := failedRules_eq_ok hf
  obtain ⟨checks', hchecks', -, rfl⟩ := failedRules_eq_ok hg
  intro rule hrule
  obtain ⟨c, hc, rfl⟩ := List.mem_map.mp hrule
  obtain ⟨hmem, hfails⟩ := List.mem_filter.mp hc
  obtain ⟨d, hd, hcovers⟩ := (Stricter.of_tightened h).covered hchecks hchecks' hmem
  have hfails' : d.fails today v = true :=
    Check.fails_iff.mpr (hcovers.fails (Check.fails_iff.mp hfails))
  exact List.mem_map.mpr ⟨d, List.mem_filter.mpr ⟨hd, hfails'⟩, hcovers.name⟩

/-- A nickname of at least two characters. -/
def nickField : Field :=
  { id := "1", type := .text, label := "Nickname", key := "nick"
    validation := some { minLength := some 2 } }

/-- A nickname of at least three characters that has to be given and begins with a letter. -/
def strictNickField : Field :=
  { nickField with
    required := true
    validation := some { minLength := some 3, pattern := some "[a-z].*" } }

/-- A nickname that is too short stays too short when more is asked for. -/
theorem tightened_fails_nick :
    Relation.ReflTransGen Tightened nickField strictNickField ∧
      nickField.failedRules ⟨2024, 1, 15⟩ (.text "7") = .ok ["minLength"] ∧
      strictNickField.failedRules ⟨2024, 1, 15⟩ (.text "7") = .ok ["minLength", "pattern"] ∧
      ∀ rule ∈ ["minLength"], rule ∈ ["minLength", "pattern"] := by
  have hlonger : Tightened nickField (nickField.constrain { minLength := some 3 }) :=
    .minLength fun m hm => by
      obtain rfl := Option.some.inj hm
      decide
  have htightened : Relation.ReflTransGen Tightened nickField strictNickField :=
    ((Relation.ReflTransGen.single hlonger).tail .required).tail (.pattern rfl)
  have hlax : nickField.failedRules ⟨2024, 1, 15⟩ (.text "7") = .ok ["minLength"] := by
    decide +kernel
  have hstrict : strictNickField.failedRules ⟨2024, 1, 15⟩ (.text "7") =
      .ok ["minLength", "pattern"] := by
    decide +kernel
  exact ⟨htightened, hlax, hstrict, tightened_fails htightened hlax hstrict⟩

end Field

end DynamicForm

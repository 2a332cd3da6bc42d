import DynamicForm.Editor.Basic
import DynamicForm.Proofs.Definition.Leading
import Mathlib.Data.List.Perm.Basic

/-!
# Rearranged definitions

The same fields may be listed in another order and carry other numbers. A field that repeats an
identity or a key is found by a walk over the fields, and which of two such fields is the repeated
one depends on the order. How often something is repeated does not: the problems of a definition are
the same however it is arranged, but for the order in which they are reported and the positions that
they name.

- `Definition.Rearranged` says that two definitions have the same fields, but for order and numbers.
- `Definition.rearranged_of_load`: an editor rearranges the definition that it starts with.
- `Definition.Rearranged.problems`: rearranged definitions have the same problems.
-/

namespace DynamicForm

namespace Field

/-- The field without its number. -/
def unnumbered (f : Field) : Field := { f with order := 0 }

end Field

/-- A problem without the position that it names. -/
def Problem.unplaced : Problem → Problem
  | .emptyKey _ => .emptyKey 0
  | p => p

/-- The other definition has the same fields, perhaps in another order and with other numbers. -/
def Definition.Rearranged (d d' : Definition) : Prop :=
  (d'.fields.map Field.unnumbered).Perm (d.fields.map Field.unnumbered)

namespace Definition

variable {d d' : Definition}

/-- Keys are no numbers, so they are the same up to order. -/
theorem Rearranged.fieldKeys (h : d.Rearranged d') : d'.fieldKeys.Perm d.fieldKeys := by
  have hkeys := h.map Field.key
  simp only [List.map_map] at hkeys
  exact hkeys

/-- Numbering fields again rearranges them. -/
theorem unnumbered_renumber (fields : List Field) :
    (Editor.renumber fields).map Field.unnumbered = fields.map Field.unnumbered := by
  refine List.ext_getElem (by simp [Editor.renumber]) fun n hn hn' => ?_
  simp [Editor.renumber, Field.unnumbered]

/-- So does sorting them before. -/
theorem rearranged_of_load (h : d'.fields = (Editor.load d).fields) : d.Rearranged d' := by
  rw [Rearranged, h, Editor.load, unnumbered_renumber]
  exact (List.mergeSort_perm d.fields _).map _

end Definition

/-! ## What is reported of one field

An identity or a key is reported when a field before has it. Of two fields that share one, the later
is reported, whichever that is; so the report is the same, once positions are left out. -/

namespace Problem

/-- What is reported of an identity that has been seen before, or not. -/
def ofId (seen : Bool) (id : String) : List Problem := when seen (.duplicateId id)

/-- What is reported of a key that has been seen before, or not, without its position. A blank key
does not count as repeated. -/
def ofKey (seen : Bool) (key : String) : List Problem :=
  if Text.isBlankText key then [.emptyKey 0] else when seen (.duplicateKey key)

theorem map_unplaced_when (b : Bool) (p : Problem) :
    (when b p).map unplaced = when b p.unplaced := by
  cases b <;> rfl

/-- Two texts are tested one after the other whether they have been seen before, the second also
against the first. Whichever comes first, the same is reported. -/
theorem reports_swap (report : Bool → String → List Problem) (seen : String → Bool) (s t : String) :
    (report (seen s) s ++ report (seen t || s == t) t).Perm
      (report (seen t) t ++ report (seen s || t == s) s) := by
  by_cases h : s = t
  · rw [h]
  · rw [beq_eq_false_iff_ne.mpr h, beq_eq_false_iff_ne.mpr (Ne.symm h), Bool.or_false, Bool.or_false]
    exact List.perm_append_comm

end Problem

namespace Field

variable {before before' : List Field}

/-- What is reported of a field whatever comes before it. -/
def ownProblems (f : Field) : List Problem :=
  Problem.when (Text.isBlankText f.label) (.emptyLabel f.nameForMessages) ++
    Problem.when f.lacksOptions (.missingOptions f.nameForMessages f.type)

/-- Positions apart, the fields before matter only by the identities and keys that they have. -/
theorem map_unplaced_problems (before : List Field) (f : Field) :
    (f.problems before).map Problem.unplaced =
      Problem.ofId (before.any fun g => g.id == f.id) f.id ++
        (Problem.ofKey (before.any fun g => g.key == f.key) f.key ++ f.ownProblems) := by
  have hkey : (if Text.isBlankText f.key then [Problem.emptyKey (before.length + 1)]
      else Problem.when (before.any fun g => g.key == f.key) (.duplicateKey f.key)).map
        Problem.unplaced = Problem.ofKey (before.any fun g => g.key == f.key) f.key := by
    unfold Problem.ofKey
    split
    · rfl
    · exact Problem.map_unplaced_when _ _
  simp only [problems, List.map_append, hkey, Problem.map_unplaced_when, List.append_assoc]
  rfl

/-- The problems of a field do not depend on any number. -/
theorem problems_unnumbered (before : List Field) (f : Field) :
    f.unnumbered.problems (before.map unnumbered) = f.problems before := by
  simp only [problems, List.any_map, List.length_map]
  rfl

/-- The order of the fields before does not matter. -/
theorem problems_perm (h : before.Perm before') (f : Field) :
    f.problems before = f.problems before' := by
  rw [problems, problems, h.length_eq, h.any_eq, h.any_eq]

/-- **Two fields.** Of two fields that follow each other, the same is reported in either order. -/
theorem problems_swap (before : List Field) (f g : Field) :
    ((f.problems before ++ g.problems (before ++ [f])).map Problem.unplaced).Perm
      ((g.problems before ++ f.problems (before ++ [g])).map Problem.unplaced) := by
  have hids := Problem.reports_swap Problem.ofId (fun id => before.any fun h => h.id == id) f.id g.id
  have hkeys :=
    Problem.reports_swap Problem.ofKey (fun key => before.any fun h => h.key == key) f.key g.key
  simp only [List.map_append, map_unplaced_problems, List.any_append, List.any_cons, List.any_nil,
    Bool.or_false]
  -- identities change places with identities and keys with keys, so each problem is counted alone
  refine List.perm_iff_count.mpr fun p => ?_
  have hid := hids.count_eq p
  have hkey := hkeys.count_eq p
  simp only [List.count_append] at hid hkey ⊢
  omega

/-- A condition asks whether a key is there, not where. -/
theorem conditionProblems_perm {keys keys' : List String} (h : keys.Perm keys') (f : Field) :
    f.conditionProblems keys = f.conditionProblems keys' := by
  funext c
  simp only [conditionProblems, h.contains_eq]

end Field

/-! ## The whole

A permutation is a chain of exchanges of neighbours, and two neighbours may be exchanged whatever
came before them. The fields that have been passed are a parameter of the walk for this reason. -/

namespace Definition

variable {d d' : Definition} {before before' fs gs : List Field}

theorem fieldProblems_unnumbered (before fs : List Field) :
    fieldProblems (before.map Field.unnumbered) (fs.map Field.unnumbered) =
      fieldProblems before fs := by
  induction fs generalizing before with
  | nil => rfl
  | cons f rest ih =>
    have hrest := ih (before ++ [f])
    rw [List.map_append, List.map_singleton] at hrest
    rw [List.map_cons, fieldProblems, fieldProblems, Field.problems_unnumbered, hrest]

theorem fieldProblems_congr (h : before.Perm before') (fs : List Field) :
    fieldProblems before fs = fieldProblems before' fs := by
  induction fs generalizing before before' with
  | nil => rfl
  | cons f rest ih =>
    rw [fieldProblems, fieldProblems, Field.problems_perm h, ih (h.append_right [f])]

/-- **The walk over the fields** reports the same in any order. -/
theorem fieldProblems_perm (h : fs.Perm gs) (before : List Field) :
    ((fieldProblems before fs).map Problem.unplaced).Perm
      ((fieldProblems before gs).map Problem.unplaced) := by
  induction h generalizing before with
  | nil => exact List.Perm.refl _
  | cons f _ ih =>
    rw [fieldProblems, fieldProblems, List.map_append, List.map_append]
    exact (ih _).append_left _
  -- both orders leave the same fields behind them, so the rest of the walk is the same
  | swap f g rest =>
    have hbefore : (before ++ [g] ++ [f]).Perm (before ++ [f] ++ [g]) := by
      rw [List.append_assoc, List.append_assoc]
      exact (List.Perm.swap f g []).append_left before
    have hfirst : ∀ f g : Field, fieldProblems before (f :: g :: rest) =
        f.problems before ++ g.problems (before ++ [f]) ++
          fieldProblems (before ++ [f] ++ [g]) rest := by
      intro f g
      rw [fieldProblems, fieldProblems, List.append_assoc (f.problems before)]
    have hswap := (Field.problems_swap before g f).append_right
      ((fieldProblems (before ++ [f] ++ [g]) rest).map Problem.unplaced)
    rw [hfirst, hfirst, fieldProblems_congr hbefore]
    rwa [← List.map_append, ← List.map_append] at hswap
  | trans _ _ ih₁ ih₂ => exact (ih₁ before).trans (ih₂ before)

/-- **Problems.** A rearranged definition has the same problems, as often as they occur. They may be
reported in another order and name other positions. -/
theorem Rearranged.problems (h : d.Rearranged d') :
    (d'.problems.map Problem.unplaced).Perm (d.problems.map Problem.unplaced) := by
  have hconditions : ∀ d : Definition,
      (d.fields.flatMap fun f => f.conditionList.flatMap (f.conditionProblems d.fieldKeys)) =
        (d.fields.map Field.unnumbered).flatMap fun f =>
          f.conditionList.flatMap (f.conditionProblems d.fieldKeys) := by
    intro d
    rw [List.flatMap_map]
    rfl
  rw [Definition.problems, Definition.problems, List.map_append, List.map_append]
  refine List.Perm.append ?_ (List.Perm.map _ ?_)
  · rw [← fieldProblems_unnumbered [] d'.fields, ← fieldProblems_unnumbered [] d.fields]
    exact fieldProblems_perm h _
  · rw [hconditions, hconditions]
    simp only [fun f => Field.conditionProblems_perm h.fieldKeys f]
    exact h.flatMap_right _

end Definition

end DynamicForm

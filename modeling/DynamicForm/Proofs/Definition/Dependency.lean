import DynamicForm.Definition.Basic
import Mathlib.Data.Fintype.Card
import Mathlib.Data.Set.Finite.Basic
import Mathlib.Logic.Relation

/-!
# Dependency

A key depends on the keys that its conditions read. Where no key depends on itself through others,
facts about keys can be proved from the keys that they depend on.

A form with such a definition is settled by one pass in the right order. There is no such order for
a definition with a cycle, and passes over its fields may have to be repeated.

- `Definition.Acyclic` says that no key depends on itself, however many steps lie between.
- `Definition.Acyclic.induction` is the induction over dependencies.
- `Definition.acyclic_of_rank` shows that there are no cycles by numbering the keys.
-/

namespace DynamicForm.Definition

variable {d : Definition}

/-- A field with the one key has a condition on the other. -/
def DependsOn (d : Definition) (key target : String) : Prop :=
  ∃ f ∈ d.fields, f.key = key ∧ ∃ c ∈ f.conditionList, c.fieldKey = target

/-- No key depends on itself, directly or through others. -/
def Acyclic (d : Definition) : Prop := ∀ key, ¬Relation.TransGen d.DependsOn key key

/-- A key without a field has no conditions, and so depends on nothing. -/
theorem DependsOn.mem_fieldKeys {key target : String} (h : d.DependsOn key target) :
    key ∈ d.fieldKeys := by
  obtain ⟨f, hf, rfl, -⟩ := h
  exact List.mem_map_of_mem hf

/-- Keys whose numbers fall along every condition are in no cycle. -/
theorem acyclic_of_rank (rank : String → Nat)
    (h : ∀ key target, d.DependsOn key target → rank target < rank key) : d.Acyclic := by
  have hless : ∀ {key target}, Relation.TransGen d.DependsOn key target →
      rank target < rank key := by
    intro key target hpath
    induction hpath with
    | single hstep => exact h _ _ hstep
    | tail _ hstep ih => exact (h _ _ hstep).trans ih
  intro key hcycle
  exact absurd (hless hcycle) (Nat.lt_irrefl _)

/-- **Induction over dependencies.** What holds of a key when it holds of all that the key depends
on holds of every key. A key without a field depends on nothing, and the others are finitely many, so
that nothing leads down through them for ever. -/
theorem Acyclic.induction (hd : d.Acyclic) {p : String → Prop}
    (step : ∀ key, (∀ target, d.DependsOn key target → p target) → p key) : ∀ key, p key := by
  have hless : ∀ key, key ∉ d.fieldKeys → p key := fun key hkey =>
    step key fun _ h => absurd h.mem_fieldKeys hkey
  let below : {key // key ∈ d.fieldKeys} → {key // key ∈ d.fieldKeys} → Prop :=
    fun target key => Relation.TransGen d.DependsOn key target
  -- a chain downwards without end would have to repeat one of finitely many keys
  have hfinite : Finite {key // key ∈ d.fieldKeys} := (List.finite_toSet d.fieldKeys).to_subtype
  have htrans : IsTrans _ below := ⟨fun _ _ _ h₁ h₂ => h₂.trans h₁⟩
  have hirrefl : Std.Irrefl below := ⟨fun key => hd key⟩
  have hfield : ∀ key : {key // key ∈ d.fieldKeys}, p key := by
    intro key
    induction key using (Finite.wellFounded_of_trans_of_irrefl below).induction with
    | _ key ih =>
      refine step key fun target htarget => ?_
      by_cases hmem : target ∈ d.fieldKeys
      · exact ih ⟨target, hmem⟩ (.single htarget)
      · exact hless target hmem
  intro key
  by_cases hmem : key ∈ d.fieldKeys
  · exact hfield ⟨key, hmem⟩
  · exact hless key hmem

end DynamicForm.Definition

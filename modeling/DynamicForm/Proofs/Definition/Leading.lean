import DynamicForm.Definition.Basic
import Mathlib.Data.List.Basic

/-!
# Leading fields

Of the fields of a definition that share a key, a form keeps only the leading one: it has the least
`order`, and of several fields of that order it is the one that stands first.

Two descriptions of the same field meet here. A form takes the fields in the order in which they are
shown and skips every key that it has met. A reader of the definition compares the fields that share
a key. That the sorting is stable makes the two agree: of fields with equal numbers, the one that is
listed first is shown first.

- `Definition.leadingFields` lists the leading fields in the order in which they are shown.
- `Definition.leads_of_mem`: they lead, whatever the sorting looks like.
- `Definition.mem_keys_leadingFields`: no key is lost.
-/

namespace DynamicForm

namespace Field

/-- Of the fields that share a key, only the first. -/
def firstByKey : List Field → List Field
  | [] => []
  | f :: rest => f :: (firstByKey rest).filter fun g => g.key ≠ f.key

/-- The first field stays, and of the others those that stay anyway and have another key. -/
theorem mem_firstByKey_cons {f g : Field} {rest : List Field} :
    f ∈ firstByKey (g :: rest) ↔ f = g ∨ f ∈ firstByKey rest ∧ f.key ≠ g.key := by
  simp [firstByKey]

/-- A field is kept when it is the one that its key finds. -/
theorem mem_firstByKey {f : Field} {fs : List Field} :
    f ∈ firstByKey fs ↔ fs.find? (fun g => g.key == f.key) = some f := by
  induction fs with
  | nil => simp [firstByKey]
  | cons g rest ih =>
    rw [mem_firstByKey_cons, List.find?_cons]
    by_cases hk : g.key = f.key
    · rw [beq_iff_eq.mpr hk]
      simp only [hk, ne_eq, not_true_eq_false, and_false, or_false, Option.some.injEq]
      exact eq_comm
    · rw [beq_eq_false_iff_ne.mpr hk]
      simp only [ih, Ne.symm hk, ne_eq, not_false_eq_true, and_true, or_iff_right_iff_imp]
      rintro rfl
      exact absurd rfl hk

theorem nodup_keys_firstByKey (fs : List Field) : ((firstByKey fs).map Field.key).Nodup := by
  induction fs with
  | nil => exact List.nodup_nil
  | cons f rest ih =>
    refine List.nodup_cons.mpr ⟨?_, ih.sublist (List.filter_sublist.map Field.key)⟩
    intro hmem
    obtain ⟨g, hg, hk⟩ := List.mem_map.mp hmem
    exact of_decide_eq_true (List.mem_filter.mp hg).2 hk

/-- No key is lost. -/
theorem mem_keys_firstByKey {key : String} {fs : List Field} :
    key ∈ (firstByKey fs).map Field.key ↔ key ∈ fs.map Field.key := by
  induction fs with
  | nil => exact Iff.rfl
  | cons f rest ih =>
    by_cases hk : key = f.key
    · simp [firstByKey, hk]
    · rw [List.map_cons, List.mem_cons, ← ih]
      simp only [firstByKey, List.map_cons, List.mem_cons, List.mem_map, List.mem_filter]
      constructor
      · rintro (h | ⟨g, hg, rfl⟩)
        · exact .inl h
        · exact .inr ⟨g, hg.1, rfl⟩
      · rintro (h | ⟨g, hg, rfl⟩)
        · exact .inl h
        · exact .inr ⟨g, ⟨hg, decide_eq_true hk⟩, rfl⟩

/-- Nothing is left out where the keys are distinct. -/
theorem firstByKey_eq_self {fs : List Field} (h : (fs.map Field.key).Nodup) :
    firstByKey fs = fs := by
  induction fs with
  | nil => rfl
  | cons f rest ih =>
    obtain ⟨hf, hrest⟩ := List.nodup_cons.mp h
    rw [firstByKey, ih hrest, List.filter_eq_self.mpr]
    intro g hg
    exact decide_eq_true fun hk => hf (hk ▸ List.mem_map_of_mem hg)

end Field

namespace Definition

/-- For every key of the definition its leading field, in the order in which they are shown. -/
def leadingFields (d : Definition) : List Field := Field.firstByKey d.sortedFields

/-- A field leads when every other field with its key has a greater order or, standing behind it,
the same one. -/
def Leads (d : Definition) (f : Field) : Prop :=
  ∃ before after, d.fields = before ++ f :: after ∧
    (∀ g ∈ before, g.key = f.key → f.order < g.order) ∧
    ∀ g ∈ after, g.key = f.key → f.order ≤ g.order

theorem Leads.mem_fields {d : Definition} {f : Field} (h : d.Leads f) : f ∈ d.fields := by
  obtain ⟨before, after, heq, -⟩ := h
  rw [heq]
  exact List.mem_append_right before List.mem_cons_self

/-- The order in which fields are shown. -/
def showsBefore (f g : Field) : Bool := decide (f.order ≤ g.order)

theorem showsBefore_trans (a b c : Field) :
    showsBefore a b = true → showsBefore b c = true → showsBefore a c = true := by
  simp only [showsBefore, decide_eq_true_eq]
  omega

/-- Fields with equal numbers may be shown in either order; the sorting decides between them. -/
theorem showsBefore_total (a b : Field) : (showsBefore a b || showsBefore b a) = true := by
  simp only [showsBefore, Bool.or_eq_true, decide_eq_true_eq]
  omega

/-- The first field with a key in sorted order is the leading one. The induction is on the fields as
they stand, since sorting puts the first of them behind the smaller ones only. -/
theorem split_of_find?_mergeSort {key : String} {f : Field} :
    ∀ {fs : List Field}, (fs.mergeSort showsBefore).find? (fun g => g.key == key) = some f →
      ∃ before after, fs = before ++ f :: after ∧
        (∀ g ∈ before, g.key = key → f.order < g.order) ∧
        ∀ g ∈ after, g.key = key → f.order ≤ g.order := by
  intro fs
  induction fs with
  | nil => simp
  | cons a rest ih =>
    intro h
    -- sorting puts `a` between the smaller ones of the rest and the others
    obtain ⟨l₁, l₂, hsorted, hrest, hless⟩ :=
      List.mergeSort_cons showsBefore_trans showsBefore_total a rest
    have hpair := List.pairwise_mergeSort showsBefore_trans showsBefore_total (a :: rest)
    rw [hsorted] at h hpair
    rw [hrest] at ih
    rw [List.find?_append] at h ih
    by_cases ha : a.key = key ∧ l₁.find? (fun g => g.key == key) = none
    · -- `a` itself is found: what comes after it in sorted order is no smaller
      rw [ha.2, Option.none_or, List.find?_cons_of_pos (by simpa using ha.1)] at h
      obtain rfl := Option.some.inj h
      refine ⟨[], rest, rfl, by simp, fun g hg hk => ?_⟩
      have hg' : g ∈ l₁ ++ l₂ := hrest ▸ List.mem_mergeSort.mpr hg
      rcases List.mem_append.mp hg' with hg₁ | hg₂
      · exact absurd (by simpa using hk) (List.find?_eq_none.mp ha.2 g hg₁)
      · have := (List.pairwise_cons.mp (List.pairwise_append.mp hpair).2.1).1 g hg₂
        simpa [showsBefore] using this
    · have hf : (l₁.find? (fun g => g.key == key)).or (l₂.find? fun g => g.key == key) = some f := by
        rw [← h]
        cases h₁ : l₁.find? (fun g => g.key == key) with
        | some g => rfl
        | none =>
          have hk : a.key ≠ key := fun hk => ha ⟨hk, h₁⟩
          rw [List.find?_cons_of_neg (by simpa using hk)]
      obtain ⟨before, after, rfl, hb, ha'⟩ := ih hf
      refine ⟨a :: before, after, rfl, ?_, ha'⟩
      rintro g hg hk
      rcases List.mem_cons.mp hg with rfl | hg
      · -- `f` was found before `g` in sorted order, so it is smaller
        cases h₁ : l₁.find? (fun g => g.key == key) with
        | none => exact absurd ⟨hk, h₁⟩ ha
        | some g' =>
          rw [h₁] at hf
          obtain rfl := Option.some.inj hf
          simpa [showsBefore] using hless g' (List.mem_of_find?_eq_some h₁)
      · exact hb g hg hk

/-- **The leading fields lead.** -/
theorem leads_of_mem {d : Definition} {f : Field} (h : f ∈ d.leadingFields) : d.Leads f :=
  split_of_find?_mergeSort (Field.mem_firstByKey.mp h)

theorem nodup_keys_leadingFields (d : Definition) : (d.leadingFields.map Field.key).Nodup :=
  Field.nodup_keys_firstByKey d.sortedFields

/-- **Every key has a leading field.** -/
theorem mem_keys_leadingFields {d : Definition} {key : String} :
    key ∈ d.leadingFields.map Field.key ↔ key ∈ d.fieldKeys := by
  rw [leadingFields, Field.mem_keys_firstByKey]
  simp [sortedFields, fieldKeys]

/-- Where the keys are distinct, every field leads. -/
theorem leadingFields_perm {d : Definition} (h : d.fieldKeys.Nodup) :
    d.leadingFields.Perm d.fields := by
  have hperm : d.sortedFields.Perm d.fields := List.mergeSort_perm d.fields _
  rw [leadingFields, Field.firstByKey_eq_self ((hperm.map Field.key).nodup_iff.mpr h)]
  exact hperm

end Definition

end DynamicForm

import DynamicForm.Proofs.Editor.Revision

/-!
# What a definition takes from an editor

A definition that is taken from an editor has exactly what the editor holds at that moment. The
identity among it is none of the things that can be edited: only the storage gives one, and none is
ever taken away.

- `Editor.snapshot_eq_ok`: the snapshot is the one definition that has what the editor holds.
- `Editor.Holds.problems`: the problems of the editor are those of its names and of the snapshot.
- `Editor.Holds.not_blank`: an editor with names gives definitions whose name and key are not blank.
- `Editor.perform_formId`: no edit changes the identity.
- `Editor.applySaved_editor`: an answer of the storage can only give one.
-/

namespace DynamicForm

namespace Editor

variable {e : Editor} {d : Definition}

/-! ## Snapshots

Metadata can be assigned any value, and is looked at only when a definition is taken. A snapshot
fails then, or it has the texts that the editor holds. -/

/-- The definition has exactly what the editor holds. -/
structure Holds (e : Editor) (d : Definition) : Prop where
  id : d.id = e.formId
  name : e.name = .text d.name
  key : e.key = .text d.key
  description : e.description = d.description.elim .null .text
  fields : d.fields = e.fields

/-- **The snapshot** is the one definition that has what the editor holds. -/
theorem snapshot_eq_ok : e.snapshot = .ok d ↔ e.Holds d := by
  simp only [snapshot, Checked.seq_eq_ok, Checked.map_eq_ok, Checked.under_eq_ok, Read.text_eq_ok,
    Read.optional_text_eq_ok]
  constructor
  · rintro ⟨_, fields, ⟨_, description, ⟨_, key, ⟨name, hname, rfl⟩, hkey, rfl⟩, hdescription, rfl⟩,
      hfields, rfl⟩
    exact ⟨rfl, hname, hkey, hdescription, (Checked.ok.inj hfields).symm⟩
  · intro h
    refine ⟨_, d.fields, ⟨_, d.description, ⟨_, d.key, ⟨d.name, h.name, rfl⟩, h.key, rfl⟩,
      h.description, rfl⟩, congrArg _ h.fields.symm, ?_⟩
    rw [← h.id]

/-- A text that counts as a name has a character to see. -/
theorem isBlankName_text {s : String} (h : isBlankName (.text s) = .ok false) :
    Text.isBlankText s = false := by
  unfold isBlankName at h
  split at h
  · cases h
  · exact Except.ok.inj h

/-- A definition that is taken while there are a name and a key has both. -/
theorem Holds.not_blank (h : e.Holds d) (hnames : e.hasNames = .ok true) :
    Text.isBlankText d.name = false ∧ Text.isBlankText d.key = false := by
  rw [hasNames, h.name, h.key] at hnames
  rcases hname : isBlankName (.text d.name) with _ | _ | _
  · rw [hname] at hnames
    cases hnames
  · rcases hkey : isBlankName (.text d.key) with _ | _ | _
    · rw [hname, hkey] at hnames
      cases hnames
    · exact ⟨isBlankName_text hname, isBlankName_text hkey⟩
    · rw [hname, hkey] at hnames
      cases hnames
  · rw [hname] at hnames
    cases hnames

/-! ## Problems -/

/-- A text is missing as a name when it is blank. -/
theorem isBlankName_eq (s : String) : isBlankName (.text s) = .ok (Text.isBlankText s) := by
  unfold isBlankName
  split
  · next hempty =>
    obtain rfl : s = "" := by simpa [Value.isTruthy] using hempty
    rfl
  · rfl

/-- **Problems.** An editor whose metadata is text can be checked. -/
theorem Holds.problems (h : e.Holds d) : e.problems =
    .ok (Problem.when (Text.isBlankText d.name) .missingFormName ++
      Problem.when (Text.isBlankText d.key) .missingFormKey ++ d.problems) := by
  have hnames : e.nameProblems = .ok (Problem.when (Text.isBlankText d.name) .missingFormName ++
      Problem.when (Text.isBlankText d.key) .missingFormKey) := by
    rw [nameProblems, h.name, h.key, isBlankName_eq, isBlankName_eq]
    rfl
  rw [Editor.problems, hnames, snapshot_eq_ok.mpr h]
  rfl

/-- What an editor holds that has just been loaded. -/
theorem holds_load (d : Definition) : (load d).Holds { d with fields := (load d).fields } where
  id := rfl
  name := rfl
  key := rfl
  description := by
    rw [load]
    cases d.description <;> rfl
  fields := rfl

/-! ## Identity

An identity comes with the definition or with an answer of the storage. Everything else that is
edited leaves it alone, so that a form that has been stored goes on to be the same form. -/

/-- **No edit changes the identity.** -/
theorem perform_formId (e : Editor) (c : Command) : (e.perform c).editor.formId = e.formId := by
  obtain ⟨e', listeners, rfl | hrevises, heq⟩ := perform_editor e c
  · rw [heq]
  · rw [heq]
    exact hrevises.formId_eq

/-- An answer of the storage touches nothing but the identity. -/
theorem applySaved_editor (e : Editor) (saved : Definition) :
    (e.applySaved saved).1 = { e with formId := saved.id.or e.formId } := by
  unfold applySaved
  split
  · next hid => rw [hid, Option.none_or]
  · next id hid =>
    rw [hid, Option.some_or]
    split
    · next hsame => rw [← hsame]
    · rfl

theorem applySaved_formId (e : Editor) (saved : Definition) :
    (e.applySaved saved).1.formId = saved.id.or e.formId := by
  rw [applySaved_editor]

end Editor

end DynamicForm

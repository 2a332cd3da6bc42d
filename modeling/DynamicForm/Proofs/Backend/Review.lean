import DynamicForm.Backend.Basic
import DynamicForm.Proofs.Definition.Rearrangement
import DynamicForm.Proofs.Editor.Snapshot

/-!
# Reviews

A definition can be reviewed as it is sent, or loaded into an editor that lists its problems. The
editor puts the fields into the order in which they are shown and numbers them again before it looks
at them, and it reports on the names of the form the other way round.

- `Backend.review_agrees`: both find the same problems, and so equally many.
-/

namespace DynamicForm.Backend

/-- What a review finds, beside what an editor finds that holds the same fields in another order. -/
theorem namedProblems_perm {d s : Definition} (h : d.Rearranged s) (hname : s.name = d.name)
    (hkey : s.key = d.key) :
    ((namedProblems d).map Problem.unplaced).Perm
      ((Problem.when (Text.isBlankText s.name) .missingFormName ++
        Problem.when (Text.isBlankText s.key) .missingFormKey ++ s.problems).map
          Problem.unplaced) := by
  have hnames : (Problem.when (Text.isBlankText d.key) .missingFormKey ++
      Problem.when (Text.isBlankText d.name) .missingFormName).Perm
        (Problem.when (Text.isBlankText d.name) .missingFormName ++
          Problem.when (Text.isBlankText d.key) .missingFormKey) := List.perm_append_comm
  have hall := (hnames.map Problem.unplaced).append h.problems.symm
  rw [namedProblems, hname, hkey]
  rwa [← List.map_append, ← List.map_append] at hall

theorem reviewValue_valid (lines : List String) :
    (reviewValue lines).get "valid" = .bool lines.isEmpty := rfl

theorem reviewValue_errors (lines : List String) :
    ((reviewValue lines).get "errors").members = lines.map .text := rfl

/-- **Reviews.** Let a payload describe a definition. Then an editor that is loaded with it can list
its problems. The review says that the definition is valid exactly if there are none, and reports as
many as there are; they are the same, but for their order and the positions that they name. -/
theorem review_agrees {payload : Record} {d : Definition}
    (h : Definition.read (.record payload) = .ok d) :
    ∃ found, (Editor.load d).problems = .ok found ∧
      ((reviewValue (reviewDefinition payload)).get "valid" = .bool true ↔ found = []) ∧
      ((reviewValue (reviewDefinition payload)).get "errors").members.length = found.length ∧
      ((namedProblems d).map Problem.unplaced).Perm (found.map Problem.unplaced) := by
  have hsame := namedProblems_perm (s := { d with fields := (Editor.load d).fields })
    (Definition.rearranged_of_load rfl) rfl rfl
  have hreview : reviewDefinition payload = (namedProblems d).map Problem.message := by
    rw [reviewDefinition, h]
  have hlength := hsame.length_eq
  rw [List.length_map, List.length_map] at hlength
  refine ⟨_, (Editor.holds_load d).problems, ?_, ?_, hsame⟩
  · rw [reviewValue_valid, hreview, Value.bool.injEq, List.isEmpty_iff, List.map_eq_nil_iff,
      ← List.length_eq_zero_iff, hlength, List.length_eq_zero_iff]
  · rw [reviewValue_errors, hreview, List.length_map, List.length_map, hlength]

/-- A definition that is listed in another order than it is shown. Two of its fields share an
identity, two a blank key and two another key; a label and options are missing, and a condition leads
nowhere. -/
def scrambled : Record := [("name", .text " "), ("key", .text "scrambled"), ("fields", .list [
  .record [("id", .text "1"), ("type", .text "text"), ("label", .text "A"), ("key", .text "b"),
    ("order", .int 3)],
  .record [("id", .text "1"), ("type", .text "select"), ("label", .text "B"), ("key", .text " "),
    ("order", .int 2)],
  .record [("id", .text "2"), ("type", .text "text"), ("label", .text "C"), ("key", .text "b"),
    ("order", .int 1), ("conditions", .list [.record [("fieldKey", .text "x")]])],
  .record [("id", .text "3"), ("type", .text "text"), ("label", .text ""), ("key", .text " ")]])]

/-- The problems of a definition whose fields an editor turns round. -/
theorem review_agrees_scrambled :
    ∃ d found, Definition.read (.record scrambled) = .ok d ∧
      d.fields.map Field.order = [3, 2, 1, 0] ∧
      (Editor.load d).problems = .ok found ∧ found.length = 9 ∧
      (reviewValue (reviewDefinition scrambled)).get "valid" ≠ .bool true := by
  have hread : ((Definition.read (.record scrambled)).toExcept.toOption.any fun d =>
      decide (d.fields.map Field.order = [3, 2, 1, 0])) = true := by
    decide +kernel
  have hcount : ((reviewValue (reviewDefinition scrambled)).get "errors").members.length = 9 := by
    decide +kernel
  rcases hd : Definition.read (.record scrambled) with d | issues
  · rw [hd] at hread
    obtain ⟨found, hfound, hvalid, hlength, -⟩ := review_agrees hd
    rw [hcount] at hlength
    refine ⟨d, found, rfl, of_decide_eq_true hread, hfound, hlength.symm, fun h => ?_⟩
    rw [hvalid.mp h] at hlength
    cases hlength
  · rw [hd] at hread
    cases hread

end DynamicForm.Backend

import DynamicForm.Proofs.Text.Lowering
import DynamicForm.Visibility

/-!
# Texts inside texts

A condition `contains` lowers both texts, each as a whole, and looks for the one in the other. What
occurs in a text is found there, whatever the case of ASCII letters, unless lower case comes between
them: of an occurrence with a capital sigma that ends a word in one of the texts only, the lowered
stretch of the text is not the lowered part.

- `Text.occursIn_iff`: the search finds exactly what occurs.
- `Condition.contains_occurrence`: when a condition holds, and that it holds of an occurrence.
-/

namespace DynamicForm

open Text

/-- The search tries every place, and so finds whatever occurs. -/
theorem Text.occursIn_iff {part cs : List Char} : occursIn part cs = true ↔ part <:+: cs := by
  induction cs with
  | nil => rw [occursIn, List.isEmpty_iff, List.infix_nil]
  | cons c rest ih =>
    rw [occursIn, Bool.or_eq_true, ih, List.isPrefixOf_iff_prefix, List.infix_cons_iff]

namespace Condition

variable {key : String} {values : Record} {s e : String}

/-- A condition on a text is a search in the lowered text. -/
theorem holds_contains (h : values.get? key = some (.text s)) :
    (⟨key, .contains, .text e⟩ : Condition).holds values =
      .ok (occursIn (lowerChars e.toList) (lowerChars s.toList)) := by
  simp only [holds, h, test, containsText]

theorem holds_contains_iff (h : values.get? key = some (.text s)) :
    (⟨key, .contains, .text e⟩ : Condition).holds values = .ok true ↔
      lowerChars e.toList <:+: lowerChars s.toList := by
  rw [holds_contains h, Except.ok.injEq, occursIn_iff]

/-- An occurrence whose capital sigmas keep their form is still one in lower case. -/
theorem holds_of_keepsSigmas (h : values.get? key = some (.text s)) {before after : List Char}
    (heq : s.toList = before ++ e.toList ++ after) (hkeeps : KeepsSigmas before e.toList after) :
    (⟨key, .contains, .text e⟩ : Condition).holds values = .ok true := by
  obtain ⟨front, back, hlower⟩ := lowerChars_append_append before e.toList after
  rw [lowerAmid_eq_lowerChars_iff.mpr hkeeps] at hlower
  exact (holds_contains_iff h).mpr ⟨front, back, by rw [heq, hlower]⟩

/-- **Containment.** A condition holds exactly if its text occurs in the value when both are
lowered. Where it occurs as it stands, the lowered value has the lowered text in this place exactly
if every capital sigma of it ends a word in the value just when it does in the text alone; so the
condition holds of an occurrence without capital sigmas and of one between characters that part
words. The case of ASCII letters in either text has no influence. -/
theorem contains_occurrence (h : values.get? key = some (.text s)) :
    (∃ b, (⟨key, .contains, .text e⟩ : Condition).holds values = .ok b ∧
      (b = true ↔ lowerChars e.toList <:+: lowerChars s.toList)) ∧
    (∀ before after, s.toList = before ++ e.toList ++ after →
      (lowerAmid before.reverse e.toList after = lowerChars e.toList ↔
        KeepsSigmas before e.toList after) ∧
      ((KeepsSigmas before e.toList after ∨ 'Σ' ∉ e.toList ∨
          ((∀ c ∈ before.getLast?, partsWords c = true) ∧
            ∀ c ∈ after.head?, partsWords c = true)) →
        (⟨key, .contains, .text e⟩ : Condition).holds values = .ok true)) ∧
    ∀ (values' : Record) (s' e' : String), values'.get? key = some (.text s') →
      CaseVariant s'.toList s.toList → CaseVariant e'.toList e.toList →
      (⟨key, .contains, .text e'⟩ : Condition).holds values' =
        (⟨key, .contains, .text e⟩ : Condition).holds values := by
  refine ⟨⟨_, holds_contains h, occursIn_iff⟩, fun before after heq => ?_, ?_⟩
  · refine ⟨lowerAmid_eq_lowerChars_iff, fun hcase => holds_of_keepsSigmas h heq ?_⟩
    rcases hcase with hkeeps | hfree | ⟨hbefore, hafter⟩
    · exact hkeeps
    · exact keepsSigmas_of_not_mem hfree
    · exact keepsSigmas_of_partsWords hbefore hafter
  · intro values' s' e' h' hs he
    rw [holds_contains h', holds_contains h, lowerChars_of_caseVariant hs,
      lowerChars_of_caseVariant he]

/-- A word that ends in a capital sigma is found where it is a word of the value too. -/
theorem contains_occurrence_street :
    (⟨"place", .contains, .text "ΟΔΟΣ"⟩ : Condition).holds [("place", .text "ΜΙΑ ΟΔΟΣ, a")] =
        .ok true ∧
      (⟨"place", .contains, .text "ΟΔΟΣ"⟩ : Condition).holds [("place", .text "ΜΙΑ ΟΔΟΣ, A")] =
        .ok true := by
  have hvalue : Record.get? [("place", .text "ΜΙΑ ΟΔΟΣ, a")] "place" =
      some (.text "ΜΙΑ ΟΔΟΣ, a") := rfl
  obtain ⟨-, hoccurs, hcase⟩ := contains_occurrence (e := "ΟΔΟΣ") hvalue
  have hbefore : "ΜΙΑ ".toList.getLast? = some ' ' := by decide +kernel
  have hafter : ", a".toList.head? = some ',' := by decide +kernel
  have hparts : partsWords ' ' = true ∧ partsWords ',' = true := by decide +kernel
  have hholds := (hoccurs "ΜΙΑ ".toList ", a".toList (by decide +kernel)).2
    (.inr (.inr ⟨fun c hc => Option.some.inj (hbefore.symm.trans hc) ▸ hparts.1,
      fun c hc => Option.some.inj (hafter.symm.trans hc) ▸ hparts.2⟩))
  refine ⟨hholds, (hcase _ "ΜΙΑ ΟΔΟΣ, A" "ΟΔΟΣ" rfl ?_ rfl).trans hholds⟩
  exact (by decide +kernel : "ΜΙΑ ΟΔΟΣ, A".toList.map Char.toLower =
    "ΜΙΑ ΟΔΟΣ, a".toList.map Char.toLower)

/-- Inside a longer word the sigma is another one in lower case. -/
theorem not_contained_prefix :
    "ΟΔΟΣ".toList <:+: "ΟΔΟΣΤΡΩΜΑ".toList ∧
      (⟨"place", .contains, .text "ΟΔΟΣ"⟩ : Condition).holds [("place", .text "ΟΔΟΣΤΡΩΜΑ")] =
        .ok false := by
  refine ⟨⟨[], "ΤΡΩΜΑ".toList, by decide +kernel⟩, (holds_contains rfl).trans ?_⟩
  exact congrArg Except.ok (by decide +kernel)

end Condition

end DynamicForm

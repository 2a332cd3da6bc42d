import DynamicForm.Backend.Forms
import DynamicForm.Proofs.Form.Submission

/-!
# Evaluations and submissions

An evaluation looks at a form and lists what fails. A submission marks every field, and gives the
answers unless something fails. Both start from the same definition and values, and a client that
evaluates first can know what a submission will come to.

- `Backend.Foretells` says that an evaluation and a submission belong together.
- `Backend.evaluate_foretells`: those of the same definition and values do.
-/

namespace DynamicForm.Backend

/-- Every key with failures is reported to be shown. -/
def Evaluation.FailuresShown (ev : Evaluation) : Prop :=
  ∀ key ∈ ev.failures.map Prod.fst, ev.visibility.lookup key = some true

/-- What an evaluation comes to, beside what a submission comes to. -/
inductive Foretells : Except Refusal Evaluation → Except Refusal Record → Prop where
  /-- The definition cannot be read, and both report the same of it. -/
  | unreadable (issues : List Issue) :
      Foretells (.error (.unreadable issues)) (.error (.unreadable issues))
  /-- Both are broken off, by the same. -/
  | interrupted (e : Interruption) :
      Foretells (.error (.interrupted e)) (.error (.interrupted e))
  /-- Nothing fails, and both have the same answers. -/
  | valid {ev : Evaluation} : ev.isValid = true → Foretells (.ok ev) (.ok ev.answers)
  /-- Fields fail, and the submission is rejected with just these failures. -/
  | invalid {ev : Evaluation} : ev.isValid = false → ev.FailuresShown →
      Foretells (.ok ev) (.error (.rejected ev.failures))

variable {α β : Type}

/-- What holds of two ways to go on with a form holds of them on request, if it holds of what keeps
a form from being built. -/
theorem withForm_related {R : Except Refusal α → Except Refusal β → Prop}
    {next : Form → List Notice × Except Refusal α} {other : Form → List Notice × Except Refusal β}
    (hunreadable : ∀ issues, R (.error (.unreadable issues)) (.error (.unreadable issues)))
    (hfault : ∀ e, R (.error (.interrupted (.fault e))) (.error (.interrupted (.fault e))))
    (hform : ∀ {d form}, Form.Settled d form → R (next form).2 (other form).2)
    (definition values : Record) :
    R (withForm definition values next).2 (withForm definition values other).2 := by
  unfold withForm
  rcases Definition.read (.record definition) with d | issues
  · rcases hb : Form.build d values with ⟨notices, e | form⟩
    · simp only [hb]
      exact hfault e
    · simp only [hb]
      exact hform (.build (congrArg Prod.snd hb))
  · exact hunreadable issues

/-- What is reported of a key is what holds of its control. -/
theorem lookup_visibility (form : Form) (key : String) :
    form.visibility.lookup key = (form.control? key).map (·.visible) := by
  unfold Form.visibility Form.control?
  induction form.controls with
  | nil => rfl
  | cons c rest ih =>
    rw [List.map_cons, List.lookup_cons, List.find?_cons, ih, Bool.beq_comm]
    cases c.key == key <;> rfl

/-- **Evaluation and submission.** An evaluation foretells what a submission of the same definition
and values comes to: the same refusal, the same answers, or the same failures, all of fields that
the evaluation reports to be shown. -/
theorem evaluate_foretells (today : Date) (definition values : Record) :
    Foretells (evaluate today definition values).2 (submit today definition values).2 := by
  refine withForm_related Foretells.unreadable (fun e => .interrupted (.fault e)) ?_
    definition values
  intro d form hform
  dsimp only
  rw [Form.submit_result]
  rcases hfailures : form.failures today with e | _ | ⟨f, fs⟩
  · exact .interrupted (.fault e)
  · exact .valid rfl
  · refine .invalid rfl fun key hkey => ?_
    obtain ⟨c, hc, rfl, hshown⟩ := Form.visible_of_failuresIn hfailures hkey
    rw [lookup_visibility, hform.reachable.fits.control?_eq hc, Option.map_some, hshown]

end DynamicForm.Backend

import DynamicForm.Autosave.Basic
import DynamicForm.Storage.Client

/-!
# Verdicts of the remote validation

The remote validation can answer anything. The client makes a verdict of the answer, whose problems
are whatever the answer names as such, and an explicit save makes a warning of the verdict, in which
only texts can stand. Each of the two steps fails on some answers. When the validation is
unavailable the save goes by its own checks.

- `Storage.Usable` says of an answer that both steps succeed on it.
- `Storage.Response.Heeded` says of a response that a save goes on after it.
- `Storage.validate_advises`: these are the responses after which the client has a verdict that can
  be shown, or reports that the validation is unavailable.
-/

namespace DynamicForm.Storage

/-- What an answer names as problems, if it can be gone through: its `errors`, or else its
`message`. -/
def namedProblems (answer : Value) : Option (List Value) :=
  if (answer.get "errors").isTruthy then membersOf (answer.get "errors")
  else if (answer.get "message").isTruthy then some [answer.get "message"]
  else some []

/-- The answer names problems that can be gone through, and they are texts unless it is positive. -/
def Usable (answer : Value) : Prop :=
  ∃ problems, namedProblems answer = some problems ∧
    ((answer.get "valid").isTruthy = true ∨ ∀ p ∈ problems, ∃ s, p = .text s)

/-- The JSON value of a content, or none. Deep nesting is a failure of its own. -/
def jsonOf (content : List UInt8) : Except CallError (Option Value) :=
  (withContent content fun v => ⟨[], .ok v⟩).result

/-- A save goes on after the response: the validation is unavailable, or has given an answer that
can be used. -/
def Response.Heeded : Response → Prop
  | .failed _ => True
  | .answered status content =>
    500 ≤ status ∨ status = 404 ∨ jsonOf content = .ok none ∨
      ∃ es, jsonOf content = .ok (some (.record es)) ∧ Usable (.record es)

/-- Whether the answer can be used can be tested. -/
instance (answer : Value) : Decidable (Usable answer) :=
  decidable_of_iff ((namedProblems answer).any (fun problems =>
      (answer.get "valid").isTruthy || problems.all fun p => p.text?.isSome) = true) <| by
    have htext : ∀ p : Value, p.text?.isSome = true ↔ ∃ s, p = .text s := by
      intro p
      cases p <;> simp [Value.text?]
    simp only [Option.any_eq_true, Bool.or_eq_true, List.all_eq_true, htext]
    rfl

/-- Whether a save goes on after a response can be tested. -/
instance : DecidablePred Response.Heeded
  | .failed _ => isTrue trivial
  | .answered status content =>
    let answers : Bool := match jsonOf content with
      | .ok none => true
      | .ok (some (.record es)) => decide (Usable (.record es))
      | _ => false
    decidable_of_iff (500 ≤ status ∨ status = 404 ∨ answers = true) <| by
      rw [Response.Heeded]
      refine or_congr_right (or_congr_right ?_)
      simp only [answers]
      split
      · next h => simp [h]
      · next es h => simp [h]
      · next hnone hrecord =>
        refine iff_of_false Bool.false_ne_true ?_
        rintro (h | ⟨es, h, -⟩)
        · exact hnone h
        · exact hrecord es h

/-- A save goes on with what the client has concluded. -/
def Conclusion.Advises (c : Conclusion Verdict) : Prop :=
  (∃ verdict problems, c.result = .ok verdict ∧
      Autosaver.problemsIn verdict.toValue = .ok problems) ∨
    ∃ message status, c.result = .error (.error (.unavailable message status))

/-! ## Verdicts -/

theorem texts?_eq_some {vs : List Value} :
    (∃ texts, Autosaver.texts? vs = some texts) ↔ ∀ v ∈ vs, ∃ s, v = .text s := by
  induction vs with
  | nil => simp [Autosaver.texts?]
  | cons v rest ih =>
    rw [List.forall_mem_cons, ← ih]
    cases v with
    | text s =>
      simp only [Autosaver.texts?, Option.map_eq_some_iff, Value.text.injEq, exists_eq', true_and]
      exact ⟨fun ⟨_, texts, h, _⟩ => ⟨texts, h⟩, fun ⟨texts, h⟩ => ⟨_, texts, h, rfl⟩⟩
    | _ => simp [Autosaver.texts?]

/-- A verdict can be shown when it is positive or its problems are texts. -/
theorem problemsIn_toValue (verdict : Verdict) :
    (∃ problems, Autosaver.problemsIn verdict.toValue = .ok problems) ↔
      verdict.valid = true ∨ ∀ p ∈ verdict.problems, ∃ s, p = .text s := by
  obtain ⟨valid, problems⟩ := verdict
  rw [← texts?_eq_some]
  cases valid with
  | true => simp [Verdict.toValue, Autosaver.problemsIn, Record.get?_cons, Value.isTruthy]
  | false =>
    cases problems with
    | nil =>
      simp [Verdict.toValue, Autosaver.problemsIn, Record.get?_cons, Value.isTruthy,
        Autosaver.texts?]
    | cons p rest =>
      cases h : Autosaver.texts? (p :: rest) <;>
        simp [Verdict.toValue, Autosaver.problemsIn, Record.get?_cons, Value.isTruthy,
          Autosaver.members?, h]

/-- **The verdict.** There is one that can be shown exactly if the answer can be used. A negative
one that names no problems is given a general problem, which is a text. -/
theorem verdictOf_usable (es : Record) :
    (∃ verdict problems, verdictOf (.record es) = .ok verdict ∧
      Autosaver.problemsIn verdict.toValue = .ok problems) ↔ Usable (.record es) := by
  simp only [exists_and_left, problemsIn_toValue]
  unfold Usable namedProblems verdictOf truthy?
  simp only [Value.get, Value.entries]
  by_cases herrors : ((Record.get? es "errors").getD .null).isTruthy
  · -- what can be gone through is named on both sides
    simp only [herrors, if_true]
    cases membersOf ((Record.get? es "errors").getD .null) <;> simp
  · by_cases hvalid : ((Record.get? es "valid").getD .null).isTruthy <;>
      by_cases hmessage : ((Record.get? es "message").getD .null).isTruthy <;>
      simp [herrors, hvalid, hmessage]

/-- Going on with the JSON value of a content, unless it is too deep to be read. -/
theorem withContent_eq {α : Type} (content : List UInt8) (next : Option Value → Conclusion α) :
    withContent content next = match jsonOf content with
      | .ok v => next v
      | .error e => ⟨[], .error e⟩ := by
  unfold jsonOf withContent
  split <;> rfl

/-- A content is too deep to be read, or it has been read. -/
theorem jsonOf_eq_error {content : List UInt8} {e : CallError} (h : jsonOf content = .error e) :
    e = .answerTooDeep := by
  unfold jsonOf withContent at h
  split at h
  · cases h
  · exact (Except.error.inj h).symm
  · cases h

/-- An answer of which no verdict can be made is no error of the library. -/
theorem verdictOf_ne_error (v : Value) (e : Error) : verdictOf v ≠ .error (.error e) := by
  unfold verdictOf
  split
  · simp only
    split
    · split <;> nofun
    · split <;> nofun
  · nofun

/-- **Advice.** A save goes on with what the client concludes exactly if the response is one to be
heeded. -/
theorem validate_advises (payload : Record) (response : Response) :
    ((validate payload).conclude response).Advises ↔ response.Heeded := by
  have hunavailable : ∀ what status, (unavailable what status : Conclusion Verdict).Advises :=
    fun _ _ => .inr ⟨_, _, rfl⟩
  cases response with
  | failed message => exact iff_of_true (hunavailable ..) trivial
  | answered status content =>
    simp only [validate, Response.Heeded]
    by_cases hstatus : 500 ≤ status ∨ status = 404
    · rw [if_pos hstatus]
      exact iff_of_true (hunavailable ..) (or_assoc.mp (.inl hstatus))
    · rw [if_neg hstatus, withContent_eq, ← or_assoc, or_iff_right hstatus]
      rcases hjson : jsonOf content with e | _ | v
      · obtain rfl := jsonOf_eq_error hjson
        simp [Conclusion.Advises]
      · exact iff_of_true (hunavailable ..) (.inl rfl)
      -- an answer that is JSON is a verdict or no verdict, but never says that none can be had
      · have hfault : ¬∃ message status,
            verdictOf v = .error (.error (.unavailable message status)) := by
          rintro ⟨message, status, h⟩
          exact verdictOf_ne_error v _ h
        rw [Conclusion.Advises, or_iff_left hfault]
        cases v with
        | record es =>
          rw [verdictOf_usable]
          simp
        | _ => simp [verdictOf]

/-- A request that cannot be sent is no error of the library. -/
theorem dispatch_ne_error (base : Url) (r : Request) (e : Error) :
    r.dispatch base ≠ .error (.error e) := by
  obtain ⟨method, path, query, body⟩ := r
  unfold Request.dispatch
  intro h
  cases hurl : ((Url.read path).bind base.join).mapError CallError.address with
  | error f =>
    rw [hurl] at h
    obtain rfl := Except.error.inj h
    cases hread : (Url.read path).bind base.join <;> rw [hread] at hurl <;> cases hurl
  | ok url =>
    rw [hurl] at h
    cases body with
    | none => cases h
    | some body =>
      change (if body.isWritable then _ else _) = _ at h
      split at h <;> cases h

/-- **The exchange.** A save goes on with what it gives exactly if the request can be sent and the
response is one to be heeded. -/
theorem run_validate_advises (payload : Record) (base : Url) (respond : Dispatch → Response) :
    ((validate payload).run base respond).2.Advises ↔
      ∃ sent, (validate payload).request.dispatch base = .ok sent ∧ (respond sent).Heeded := by
  have hfree : (validate payload).obstacle.elim ((validate payload).request.dispatch base) .error =
      (validate payload).request.dispatch base := rfl
  unfold Exchange.run
  rw [hfree]
  cases hsent : (validate payload).request.dispatch base with
  | error e =>
    have hfault : ¬∃ message status, e = .error (.unavailable message status) := by
      rintro ⟨message, status, rfl⟩
      exact dispatch_ne_error _ _ _ hsent
    simp [Conclusion.Advises, hfault]
  | ok sent =>
    simp only [Except.ok.injEq, exists_eq_left']
    exact validate_advises payload (respond sent)

/-- A request that is seen to be sent. -/
theorem dispatch_of_isOk {base : Url} {r : Request} (h : (r.dispatch base).isOk = true) :
    ∃ sent, r.dispatch base = .ok sent := by
  cases hsent : r.dispatch base with
  | error e =>
    rw [hsent] at h
    cases h
  | ok sent => exact ⟨sent, rfl⟩

/-- A content that is seen to hold a JSON object. -/
theorem jsonOf_record {content : List UInt8}
    (h : (jsonOf content matches .ok (some (.record _))) = true) :
    ∃ es, jsonOf content = .ok (some (.record es)) := by
  split at h
  · next es hjson => exact ⟨es, hjson⟩
  · cases h

end DynamicForm.Storage

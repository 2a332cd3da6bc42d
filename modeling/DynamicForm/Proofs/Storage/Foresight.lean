import DynamicForm.Proofs.Storage.Call

/-!
# Responses that a caller is prepared for

A caller of storage is prepared for a result and for a failure of storage, and a caller of the remote
validation for a verdict and for its being unavailable. Whatever is sent back should end in one of
these. It does for each call but that for drafts, which trips over a page of another shape, and a
validation trips over an answer that is no record or names its problems in another shape.

- `Conclusion.Foreseen` says that a caller is prepared for a conclusion.
- `Response.Judged` says of a response that the remote validation is unavailable or gives a verdict.
- `foreseen_iff`: when a caller is prepared for the conclusion of a run.
-/

namespace DynamicForm

/-- The failures that a caller of storage is prepared for. -/
def Error.OfStorage : Error → Prop
  | .persistence _ _ => True
  | _ => False

/-- The failures that a caller of the remote validation is prepared for. -/
def Error.OfValidation : Error → Prop
  | .unavailable _ _ => True
  | _ => False

namespace Storage

/-- The conclusion is a result or one of the known failures. -/
def Conclusion.Foreseen (known : Error → Prop) (c : Conclusion α) : Prop :=
  c.Succeeds ∨ ∃ e, known e ∧ c.result = .error (.error e)

/-- The remote validation is unavailable, or its answer is a record whose problems can be gone
through. -/
def Response.Judged : Response → Prop
  | .failed _ => True
  | .answered status content =>
    500 ≤ status ∨ status = 404 ∨ jsonOf content = .ok none ∨
      ∃ es problems, jsonOf content = .ok (some (.record es)) ∧
        namedProblems (.record es) = some problems

/-! ## Calls for storage -/

namespace Conclusion

variable {α : Type} {known : Error → Prop} {c : Conclusion α}

theorem Tame.foreseen (h : c.Tame) :
    c.Foreseen Error.OfStorage ↔ c.result ≠ .error .answerTooDeep := by
  unfold Foreseen
  cases h with
  | ok h =>
    obtain ⟨a, ha⟩ := h
    simp [Succeeds, ha]
  | failure h => simp [Succeeds, h, Error.OfStorage]
  | tooDeep h => simp [Succeeds, h]

theorem Trips.not_foreseen (h : c.Trips) : ¬c.Foreseen known := by
  rintro (⟨a, ha⟩ | ⟨e, -, he⟩)
  · rcases h with h | h <;> rw [h] at ha <;> cases ha
  · rcases h with h | h <;> rw [h] at he <;> cases he

end Conclusion

/-- A response has a body, or the reason why there is none is a failure of storage or the depth of
the body. -/
theorem body?_cases (r : Request) (response : Response) :
    (∃ body, (r.body? response).result = .ok body) ∨
      (∃ message status, (r.body? response).result = .error (.error (.persistence message status))) ∨
      (r.body? response).result = .error .answerTooDeep := by
  cases response with
  | failed message => exact .inr (.inl ⟨_, _, rfl⟩)
  | answered status content =>
    rw [body?_answered]
    split
    · exact .inr (.inl ⟨_, _, rfl⟩)
    · split
      · exact .inl ⟨none, rfl⟩
      · rcases hjson : jsonOf content with e | _ | v
        · obtain rfl := jsonOf_eq_error hjson
          exact .inr (.inr rfl)
        · exact .inr (.inl ⟨_, _, rfl⟩)
        · exact .inl ⟨some v, rfl⟩

/-- **A response.** The caller is prepared for what a call concludes, unless the body is too deep or
the call trips over it. -/
theorem Call.conclude_foreseen (c : Call) (response : Response) :
    (c.exchange.conclude response).Foreseen Error.OfStorage ↔
      (c.exchange.conclude response).result ≠ .error .answerTooDeep ∧
        ¬∃ body, (c.request.body? response).result = .ok body ∧ c.Trips body := by
  by_cases hunknown : ∃ form, c = .draftAnswers form ∧ (c.request.body? response).Refused 404
  -- drafts that storage does not know are no drafts, which is a result
  · obtain ⟨form, rfl, hrefused⟩ := hunknown
    have hnone : ((Call.draftAnswers form).exchange.conclude response).result = .ok [] :=
      conclude_draftAnswers_of_refused form hrefused
    obtain ⟨message, hbody⟩ := hrefused
    refine iff_of_true (.inl ⟨_, hnone⟩) ⟨?_, ?_⟩
    · rw [hnone]
      exact nofun
    · rintro ⟨body, hok, -⟩
      rw [hbody] at hok
      cases hok
  have hknown : ∀ form, c = .draftAnswers form → ¬(c.request.body? response).Refused 404 :=
    fun form hc hrefused => hunknown ⟨form, hc, hrefused⟩
  have hresult : (c.exchange.conclude response).result =
      (c.request.body? response).result.bind fun body => (c.reading body).result := by
    rw [c.conclude_eq response hknown, Conclusion.result_andThen]
  -- there is a body to read, the body has been refused, or it is too deep to be read
  rcases body?_cases c.request response with ⟨body, hbody⟩ | ⟨message, status, hbody⟩ | hbody
  · rw [hbody] at hresult
    have hforeseen : (c.exchange.conclude response).Foreseen Error.OfStorage ↔
        (c.reading body).Foreseen Error.OfStorage := by
      unfold Conclusion.Foreseen Conclusion.Succeeds
      rw [hresult]
      rfl
    have hbodies : (∃ b, (c.request.body? response).result = .ok b ∧ c.Trips b) ↔ c.Trips body := by
      simp [hbody]
    rw [hforeseen, hbodies, hresult]
    by_cases htrips : c.Trips body
    · exact iff_of_false (Call.reading_trips htrips).not_foreseen fun h => h.2 htrips
    · exact (Call.reading_tame htrips).foreseen.trans (and_iff_left htrips).symm
  · rw [hbody] at hresult
    refine iff_of_true (.inr ⟨.persistence message status, trivial, hresult⟩) ⟨?_, ?_⟩
    · rw [hresult]
      exact nofun
    · simp [hbody]
  · rw [hbody] at hresult
    refine iff_of_false ?_ fun h => h.1 hresult
    rintro (⟨a, ha⟩ | ⟨e, -, he⟩)
    · cases hresult.symm.trans ha
    · cases hresult.symm.trans he

/-! ## Validation -/

/-- There is a verdict exactly if the problems can be gone through. -/
theorem verdictOf_ok (es : Record) :
    (∃ verdict, verdictOf (.record es) = .ok verdict) ↔
      ∃ problems, namedProblems (.record es) = some problems := by
  unfold namedProblems verdictOf truthy?
  simp only [Value.get, Value.entries]
  by_cases herrors : ((Record.get? es "errors").getD .null).isTruthy
  · simp only [herrors, if_true]
    cases membersOf ((Record.get? es "errors").getD .null) <;> simp
  · by_cases hvalid : ((Record.get? es "valid").getD .null).isTruthy <;>
      by_cases hmessage : ((Record.get? es "message").getD .null).isTruthy <;>
      simp [herrors, hvalid, hmessage]

/-- **An answer.** The caller is prepared for what a validation concludes exactly if the response is
judged. -/
theorem validate_foreseen (payload : Record) (response : Response) :
    ((validate payload).conclude response).Foreseen Error.OfValidation ↔ response.Judged := by
  have hunavailable : ∀ what status,
      (unavailable what status : Conclusion Verdict).Foreseen Error.OfValidation :=
    fun _ _ => .inr ⟨.unavailable _ _, trivial, rfl⟩
  cases response with
  | failed message => exact iff_of_true (hunavailable ..) trivial
  | answered status content =>
    simp only [validate, Response.Judged]
    by_cases hstatus : 500 ≤ status ∨ status = 404
    · rw [if_pos hstatus]
      exact iff_of_true (hunavailable ..) (or_assoc.mp (.inl hstatus))
    · rw [if_neg hstatus, withContent_eq, ← or_assoc, or_iff_right hstatus]
      rcases hjson : jsonOf content with e | _ | v
      · obtain rfl := jsonOf_eq_error hjson
        simp [Conclusion.Foreseen, Conclusion.Succeeds]
      · exact iff_of_true (hunavailable ..) (.inl rfl)
      -- an answer that is JSON can only fail by its shape
      · have hfault : ¬∃ e, Error.OfValidation e ∧ verdictOf v = .error (.error e) := by
          rintro ⟨e, -, h⟩
          exact verdictOf_ne_error v e h
        rw [Conclusion.Foreseen, or_iff_left hfault, Conclusion.Succeeds]
        cases v with
        | record es =>
          rw [verdictOf_ok]
          simp
        | _ => simp [verdictOf]

/-! ## Runs -/

/-- **Runs.** The caller is prepared for what a run concludes after a request has been sent, unless
the answer is too deep; or it is a page of drafts that cannot be gone through; or it is an answer to
a validation that is no record, or whose problems cannot be gone through. -/
theorem foreseen_iff (base : Url) (respond : Dispatch → Response) (sent : Dispatch) :
    (∀ (c : Call) (told : Conclusion c.Outcome), c.exchange.run base respond = (some sent, told) →
      (told.Foreseen Error.OfStorage ↔ told.result ≠ .error .answerTooDeep ∧
        ¬∃ body, (c.request.body? (respond sent)).result = .ok body ∧ c.Trips body)) ∧
    (∀ (payload : Record) (told : Conclusion Verdict),
      (validate payload).run base respond = (some sent, told) →
      (told.Foreseen Error.OfValidation ↔ (respond sent).Judged)) := by
  constructor
  · intro c told hrun
    rw [run_eq_some hrun]
    exact c.conclude_foreseen (respond sent)
  · intro payload told hrun
    rw [run_eq_some hrun]
    exact validate_foreseen payload (respond sent)

/-- A page of drafts. -/
def pageOf (items : List Value) : List UInt8 :=
  Text.utf8Bytes (Json.write (.record [("content", .list items)])).toList

/-- A page without drafts, and a validation that is out of reach. -/
theorem foreseen_empty :
    ((Call.draftAnswers (.int 12)).exchange.run host fun _ => .answered 200 (pageOf [])).2.Foreseen
        Error.OfStorage ∧
      ((validate []).run host fun _ => .failed "timed out").2.Foreseen Error.OfValidation := by
  constructor
  · obtain ⟨sent, hrun⟩ := exists_run (Call.draftAnswers (.int 12)).exchange host rfl
      (by decide +kernel) fun _ => .answered 200 (pageOf [])
    have hbody : (draftsRequest.body? (.answered 200 (pageOf []))).result =
        .ok (some (.record [("content", .list [])])) := rfl
    have htold : ((draftAnswers (.int 12)).conclude (.answered 200 (pageOf []))).result = .ok [] :=
      rfl
    rw [hrun]
    refine ((foreseen_iff host (fun _ => .answered 200 (pageOf [])) sent).1 _ _ hrun).mpr ⟨?_, ?_⟩
    · exact fun hdeep => nomatch htold.symm.trans hdeep
    · rintro ⟨body, hok, hunfit⟩
      obtain rfl := Except.ok.inj (hbody.symm.trans hok)
      cases hunfit with
      | page _ hrecord => exact hrecord _ rfl
      | content hcontent => cases hcontent
      | member hcontent => cases hcontent
  · obtain ⟨sent, hrun⟩ := exists_run (validate []) host rfl (by decide +kernel)
      fun _ => .failed "timed out"
    rw [hrun]
    exact ((foreseen_iff host (fun _ => .failed "timed out") sent).2 _ _ hrun).mpr trivial

/-- **A null among the drafts** is tripped over. -/
theorem not_foreseen_null :
    ¬∀ (base : Url) (respond : Dispatch → Response) (sent : Dispatch),
      (∀ (c : Call) (told : Conclusion c.Outcome), c.exchange.run base respond = (some sent, told) →
        told.result ≠ .error .answerTooDeep → told.Foreseen Error.OfStorage) ∧
      (∀ (payload : Record) (told : Conclusion Verdict),
        (validate payload).run base respond = (some sent, told) →
        told.result ≠ .error .answerTooDeep → told.Foreseen Error.OfValidation) := by
  intro h
  obtain ⟨sent, hrun⟩ := exists_run (Call.draftAnswers (.int 12)).exchange host rfl
    (by decide +kernel) fun _ => .answered 200 (pageOf [.null])
  have htold : ((draftAnswers (.int 12)).conclude (.answered 200 (pageOf [.null]))).result =
      .error .notRecord := rfl
  have hforeseen := (h host (fun _ => .answered 200 (pageOf [.null])) sent).1 _ _ hrun
    fun hdeep => nomatch htold.symm.trans hdeep
  exact Conclusion.Trips.not_foreseen (.inl htold) hforeseen

end Storage

end DynamicForm

import DynamicForm.Proofs.Storage.Call

/-!
# Responses that are no success

Storage says by the status whether it has done what it was asked for. A call reports an error status
as such, and drafts that storage does not know are none. Any other status that is no success is
passed over unless the content gives it away: with a content that is JSON, or with none, the response
is taken for a success.

- `Call.Declines` is what a call owes its caller after a response with a status that is no success.
- `Call.declines_iff`: it does so for error statuses, and where the content is not JSON.
-/

namespace DynamicForm.Storage

/-- The call fails with the status, or finds no drafts where storage does not know any. -/
def Call.Declines : (c : Call) → Nat → Conclusion c.Outcome → Prop
  | draftAnswers _, status, told =>
    if status = 404 then told.result = .ok [] else told.Refused status
  | _, status, told => told.Refused status

namespace Conclusion

variable {α β : Type} {status : Nat} {c : Conclusion α}

theorem Tame.not_refused (h : c.Tame) : ¬c.Refused status := by
  rintro ⟨message, hrefused⟩
  cases h with
  | ok h =>
    obtain ⟨a, h⟩ := h
    rw [h] at hrefused
    cases hrefused
  | failure h =>
    rw [h] at hrefused
    cases hrefused
  | tooDeep h =>
    rw [h] at hrefused
    cases hrefused

theorem Trips.not_refused (h : c.Trips) : ¬c.Refused status := by
  rintro ⟨message, hrefused⟩
  rcases h with h | h <;>
  · rw [h] at hrefused
    cases hrefused

/-- What goes on without a status is refused where it starts. -/
theorem refused_andThen {next : α → Conclusion β} (h : ∀ a, ¬(next a).Refused status) :
    (c.andThen next).Refused status ↔ c.Refused status := by
  unfold Refused at h ⊢
  rw [result_andThen]
  cases hresult : c.result with
  | error e => simp [Except.bind]
  | ok a => simpa [Except.bind] using h a

end Conclusion

theorem Call.not_refused_reading (c : Call) (body : Option Value) (status : Nat) :
    ¬(c.reading body).Refused status := by
  by_cases h : c.Trips body
  · exact (Call.reading_trips h).not_refused
  · exact (Call.reading_tame h).not_refused

/-- A call carries the status exactly if the body is refused with it. -/
theorem Call.refused_conclude (c : Call) {response : Response} {status : Nat}
    (h : ∀ form, c = .draftAnswers form → ¬(c.request.body? response).Refused 404) :
    (c.exchange.conclude response).Refused status ↔ (c.request.body? response).Refused status := by
  rw [c.conclude_eq response h]
  exact Conclusion.refused_andThen fun body => c.not_refused_reading body status

/-- **Responses that are no success.** A call declines one for an error status, and for a content
that is not JSON. Any other it takes for a success with the same content. -/
theorem Call.declines_iff (c : Call) {base : Url} {respond : Dispatch → Response} {sent : Dispatch}
    {told : Conclusion c.Outcome} {status : Nat} {content : List UInt8}
    (hrun : c.exchange.run base respond = (some sent, told))
    (hanswer : respond sent = .answered status content) (hstatus : status < 200 ∨ 300 ≤ status) :
    (c.Declines status told ↔ (400 ≤ status ∧ status < 600) ∨ Garbled content) ∧
      (¬c.Declines status told → told = c.exchange.conclude (.answered 200 content)) := by
  have htold := run_eq_some hrun
  rw [hanswer] at htold
  subst htold
  have hempty : status ≠ 204 := by omega
  have hbody : (c.request.body? (.answered status content)).Refused status ↔
      (400 ≤ status ∧ status < 600) ∨ Garbled content := by
    rw [body?_refused, eq_self, true_and, and_iff_right hempty]
  by_cases hknown : ∃ form, c = .draftAnswers form ∧ status = 404
  · -- an unknown page is an error status, and it is answered with no drafts
    obtain ⟨form, rfl, rfl⟩ := hknown
    have hnone : Call.Declines (.draftAnswers form) 404
        ((Storage.draftAnswers form).conclude (.answered 404 content)) :=
      conclude_draftAnswers_of_refused form (hbody.mpr (.inl (by decide)))
    exact ⟨iff_of_true hnone (.inl (by decide)), fun h => absurd hnone h⟩
  have hread : ∀ form, c = .draftAnswers form →
      ¬(c.request.body? (.answered status content)).Refused 404 := by
    rintro form hc hrefused
    exact hknown ⟨form, hc, ((body?_refused ..).mp hrefused).1.symm⟩
  -- in all other cases declining is failing with the status
  have hdeclines : c.Declines status (c.exchange.conclude (.answered status content)) ↔
      (c.exchange.conclude (.answered status content)).Refused status := by
    cases c with
    | draftAnswers form =>
      have hne : status ≠ 404 := fun h => hknown ⟨form, rfl, h⟩
      rw [Call.Declines, if_neg hne]
    | _ => rfl
  rw [hdeclines, c.refused_conclude hread]
  refine ⟨hbody, fun hfree => ?_⟩
  have hread' : ∀ form, c = .draftAnswers form →
      ¬(c.request.body? (.answered 200 content)).Refused 404 :=
    fun form _ hrefused => absurd ((body?_refused ..).mp hrefused).1 (by decide)
  rw [c.conclude_eq _ hread, c.conclude_eq _ hread', body?_eq_of_not_refused _ hfree hempty]

/-- A definition without fields. -/
def survey : Definition := { name := "Survey", key := "survey" }

/-- An overloaded storage is no success. -/
theorem declines_overloaded :
    (Call.update (.int 12) survey).Declines 503
      ((Call.update (.int 12) survey).exchange.run host fun _ => .answered 503 []).2 := by
  obtain ⟨sent, hrun⟩ := exists_run (Call.update (.int 12) survey).exchange host rfl
    (by decide +kernel) fun _ => .answered 503 []
  rw [hrun]
  exact (Call.declines_iff (.update (.int 12) survey) hrun rfl (.inr (by decide))).1.mpr
    (.inl (by decide))

/-- **A redirect passes for a success** when it has no content: the definition counts as stored. -/
theorem not_declined_redirect :
    ¬∀ (c : Call) (base : Url) (respond : Dispatch → Response) (sent : Dispatch)
      (told : Conclusion c.Outcome) (status : Nat) (content : List UInt8),
      c.exchange.run base respond = (some sent, told) → respond sent = .answered status content →
      (status < 200 ∨ 300 ≤ status) → c.Declines status told := by
  intro h
  obtain ⟨sent, hrun⟩ := exists_run (Call.update (.int 12) survey).exchange host rfl
    (by decide +kernel) fun _ => .answered 302 []
  obtain ⟨message, hrefused⟩ := h (.update (.int 12) survey) host (fun _ => .answered 302 []) sent _
    302 [] hrun rfl (.inr (by decide))
  cases hrefused

end DynamicForm.Storage

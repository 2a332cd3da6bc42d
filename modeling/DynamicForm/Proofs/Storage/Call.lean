import DynamicForm.Proofs.Storage.Verdict

/-!
# Calls for storage

Storage is asked for a definition, for answers or to keep one of them. Whatever the call, it ends in
the same way: the body of the response is taken first, and then it is read. Only the body depends on
the status, and only the drafts of a user can be read in vain without an error of the library.

- `Call` is a call, `Call.exchange` its exchange and `Call.reading` how it reads a body.
- `Unfit` says of a page of drafts that it cannot be gone through.
- `Call.conclude_eq`: a call ends with the reading of the body, unless it is for drafts that storage
  does not know.
- `Call.reading_tame`, `Call.reading_trips`: how a reading ends.
-/

namespace DynamicForm.Storage

/-- A call for storage. -/
inductive Call where
  | fetch (ref : Value)
  | create (d : Definition)
  | update (id : Value) (d : Definition)
  | save (d : Definition)
  | saveDraft (form : Value) (answers : Record) (context : Context)
  | submitAnswers (form : Value) (answers : Record) (context : Context)
  | draftAnswers (form : Value)

/-- What a call is for. -/
def Call.Outcome : Call → Type
  | fetch _ => Definition
  | create _ => Option Definition
  | update _ _ => Option Definition
  | save _ => Option Definition
  | saveDraft _ _ _ => Option Submission
  | submitAnswers _ _ _ => Option Submission
  | draftAnswers _ => Record

/-- The exchange that a call is made of. -/
def Call.exchange : (c : Call) → Exchange c.Outcome
  | fetch ref => Storage.fetch ref
  | create d => Storage.create d
  | update id d => Storage.update id d
  | save d => Storage.save d
  | saveDraft form answers context => Storage.saveDraft form answers context
  | submitAnswers form answers context => Storage.submitAnswers form answers context
  | draftAnswers form => Storage.draftAnswers form

/-- The request of a call. -/
abbrev Call.request (c : Call) : Request := c.exchange.request

/-- The answers of the latest draft for a form on a page. -/
def readDrafts (form : Value) (page : Option Value) : Conclusion Record :=
  match draftItems page with
  | .ok items => (draftsOf form items).andThen latestAnswers
  | .error e => ⟨[], .error e⟩

/-- How a call reads the body of a response. -/
def Call.reading : (c : Call) → Option Value → Conclusion c.Outcome
  | fetch ref => fun v =>
    let r := (Storage.fetch ref).request
    (r.model? definitionName Definition.read v).andThen fun d =>
      match d with
      | some d => ⟨[], .ok d⟩
      | none => .fail (.persistence (r.title ++ " returned no form definition") none) []
  | create d => (Storage.create d).request.model? definitionName Definition.read
  | update id d => (Storage.update id d).request.model? definitionName Definition.read
  | save d => (Storage.save d).request.model? definitionName Definition.read
  | saveDraft form answers context =>
    (Storage.saveDraft form answers context).request.model? submissionName Submission.read
  | submitAnswers form answers context =>
    (Storage.submitAnswers form answers context).request.model? submissionName Submission.read
  | draftAnswers form => readDrafts form

/-- A member is null, and the members before it are drafts. -/
def Halts (items : List Value) : Prop :=
  ∃ before after, items = before ++ .null :: after ∧ ∀ v ∈ before, ∃ d, Submission.read v = .ok d

/-- A page of drafts that cannot be gone through. -/
inductive Unfit (page : Value) : Prop where
  /-- The page is no record, and it is not empty either. -/
  | page : page.isTruthy = true → (∀ es, page ≠ .record es) → Unfit page
  /-- The content has no members, and it is not empty either. -/
  | content : (page.get "content").isTruthy = true → membersOf (page.get "content") = none →
      Unfit page
  /-- A member of the content is null. -/
  | member {items : List Value} : (page.get "content").isTruthy = true →
      membersOf (page.get "content") = some items → Halts items → Unfit page

/-- The call trips over the body. -/
def Call.Trips : Call → Option Value → Prop
  | draftAnswers _, some page => Unfit page
  | _, _ => False

/-- The content holds something that is not JSON. -/
def Garbled (content : List UInt8) : Prop :=
  content.all isBlankByte = false ∧ jsonOf content = .ok none

/-! ## How conclusions are put together

A conclusion has notices beside its result. What follows a result is put behind it, and the notices
add up; for the result only the order of the parts matters, not how they are grouped. -/

namespace Conclusion

variable {α β γ : Type}

/-- The conclusion has a result. -/
def Succeeds (c : Conclusion α) : Prop := ∃ a, c.result = .ok a

/-- The conclusion is a failure of storage that carries the status. -/
def Refused (status : Nat) (c : Conclusion α) : Prop :=
  ∃ message, c.result = .error (.error (.persistence message (some status)))

/-- The conclusion is no error of the library: something has another shape than it should. -/
def Trips (c : Conclusion α) : Prop := c.result = .error .notRecord ∨ c.result = .error .notMembers

/-- The conclusion is a result, a failure of storage without a status, or an answer that is too deep
to be read. -/
inductive Tame (c : Conclusion α) : Prop where
  | ok : c.Succeeds → Tame c
  | failure {message : String} : c.result = .error (.error (.persistence message none)) → Tame c
  | tooDeep : c.result = .error .answerTooDeep → Tame c

/-- The result of two parts is that of the second after the first. -/
theorem result_andThen (c : Conclusion α) (next : α → Conclusion β) :
    (c.andThen next).result = c.result.bind fun a => (next a).result := by
  unfold andThen
  cases c.result <;> rfl

theorem andThen_assoc (c : Conclusion α) (next : α → Conclusion β) (last : β → Conclusion γ) :
    (c.andThen next).andThen last = c.andThen fun a => (next a).andThen last := by
  obtain ⟨notices, _ | a⟩ := c
  · rfl
  · rcases hnext : next a with ⟨more, _ | b⟩ <;> simp [andThen, hnext]

theorem Tame.andThen {c : Conclusion α} {next : α → Conclusion β} (h : c.Tame)
    (hnext : ∀ a, c.result = .ok a → (next a).Tame) : (c.andThen next).Tame := by
  have hresult := result_andThen c next
  cases h with
  | ok h =>
    obtain ⟨a, ha⟩ := h
    rw [ha] at hresult
    cases hnext a ha with
    | ok h => exact .ok (h.imp fun _ => hresult.trans)
    | failure h => exact .failure (hresult.trans h)
    | tooDeep h => exact .tooDeep (hresult.trans h)
  | failure h => exact .failure (by rw [hresult, h]; rfl)
  | tooDeep h => exact .tooDeep (by rw [hresult, h]; rfl)

end Conclusion

/-! ## Bodies

The status decides first. An error status is a refusal whatever has been sent, and 204 is no body
whatever has been sent; between these the content counts. -/

/-- Whether there is a body, and what it is, is up to the status first. -/
theorem body?_answered (r : Request) (status : Nat) (content : List UInt8) :
    r.body? (.answered status content) =
      if 400 ≤ status ∧ status < 600 then
        r.failure (" returned HTTP " ++ toString status) (some status)
      else if status = 204 ∨ content.all isBlankByte then ⟨[], .ok none⟩
      else match jsonOf content with
        | .ok (some v) => ⟨[], .ok (some v)⟩
        | .ok none => r.failure " returned a non-JSON body" (some status)
        | .error e => ⟨[], .error e⟩ := by
  rw [Request.body?, withContent_eq]
  congr 2
  rcases jsonOf content with _ | _ | _ <;> rfl

/-- **The body** is refused with the status for an error, and for a content that is not JSON. -/
theorem body?_refused (r : Request) (status : Nat) (content : List UInt8) (carried : Nat) :
    (r.body? (.answered status content)).Refused carried ↔
      carried = status ∧ ((400 ≤ status ∧ status < 600) ∨ (status ≠ 204 ∧ Garbled content)) := by
  have hrefused : ∀ what,
      (r.failure what (some status) : Conclusion (Option Value)).Refused carried ↔
        carried = status := by
    intro what
    simp only [Conclusion.Refused, Request.failure, Conclusion.fail, Except.error.injEq,
      CallError.error.injEq, Error.persistence.injEq, Option.some.injEq, Int.natCast_inj,
      exists_and_right, exists_eq', true_and]
    exact eq_comm
  rw [body?_answered, Garbled]
  -- an error status first, then a body that is not there, then the content
  by_cases herror : 400 ≤ status ∧ status < 600
  · rw [if_pos herror, hrefused, and_iff_left (.inl herror)]
  rw [if_neg herror, or_iff_right herror]
  by_cases hempty : status = 204 ∨ content.all isBlankByte = true
  · rw [if_pos hempty]
    refine iff_of_false (by simp [Conclusion.Refused]) ?_
    rintro ⟨-, hstatus, hblank, -⟩
    exact hempty.elim hstatus (by simp [hblank])
  · rw [if_neg hempty]
    obtain ⟨hstatus, hblank⟩ := not_or.mp hempty
    rcases hjson : jsonOf content with e | _ | v
    · obtain rfl := jsonOf_eq_error hjson
      simp [Conclusion.Refused]
    · simp [hrefused, hstatus, hblank]
    · simp [Conclusion.Refused]

theorem isUnknown_iff (c : Conclusion α) : isUnknown c = true ↔ c.Refused 404 := by
  unfold isUnknown Conclusion.Refused
  split
  · next message h => simp [h]
  · next hne =>
    refine iff_of_false Bool.false_ne_true ?_
    rintro ⟨message, h⟩
    exact hne message h

/-- A body that is not refused is independent of the status, unless that says that there is none. -/
theorem body?_eq_of_not_refused (r : Request) {status : Nat} {content : List UInt8}
    (h : ¬(r.body? (.answered status content)).Refused status) (hempty : status ≠ 204) :
    r.body? (.answered status content) = r.body? (.answered 200 content) := by
  have hfine : ¬(400 ≤ 200 ∧ 200 < 600) := by decide
  rw [body?_refused, eq_self, true_and, not_or] at h
  obtain ⟨herror, hjson⟩ := h
  rw [body?_answered, body?_answered, if_neg herror, if_neg hfine]
  by_cases hblank : content.all isBlankByte = true
  · rw [if_pos (.inr hblank), if_pos (.inr hblank)]
  · rw [if_neg (not_or.mpr ⟨hempty, hblank⟩), if_neg (not_or.mpr ⟨by decide, hblank⟩)]
    rcases hread : jsonOf content with e | _ | v
    · rfl
    · exact absurd ⟨hempty, Bool.eq_false_iff.mpr hblank, hread⟩ hjson
    · rfl

/-! ## Readings

A body that is read as a model is one, or the library says which payload it did not expect. -/

section Reading

variable {α : Type} (r : Request) (what : String) {read : Read.Reader α} {v : Value}

theorem model?_of_ok {a : α} (hv : v ≠ .null) (h : read v = .ok a) :
    r.model? what read (some v) = ⟨[], .ok (some a)⟩ := by
  rw [Request.model?, h]
  exact hv

/-- Anything else is a failure without a status, since the status was no error. -/
theorem model?_of_bad {issues : List Issue} (hv : v ≠ .null) (h : read v = .bad issues) :
    (r.model? what read (some v)).result = .error (.error (.persistence
      (r.title ++ " returned an unexpected " ++ what ++ " payload") none)) := by
  rw [Request.model?, h]
  · rfl
  · exact hv

theorem model?_tame (body : Option Value) : (r.model? what read body).Tame := by
  unfold Request.model?
  split
  · exact .ok ⟨_, rfl⟩
  · exact .ok ⟨_, rfl⟩
  · split
    · exact .ok ⟨_, rfl⟩
    · exact .failure rfl

end Reading

/-- Decoding the answers of a draft ends in answers or in a failure as well. -/
theorem latestAnswers_tame (drafts : List Submission) : (latestAnswers drafts).Tame := by
  unfold latestAnswers
  split
  · exact .ok ⟨_, rfl⟩
  · split
    · exact .ok ⟨_, rfl⟩
    · exact .tooDeep rfl
    · exact .failure rfl

/-! ## Drafts

A page is gone through member by member, and here a reading can trip: a member that is null has no
form that one could ask for. -/

section Drafts

variable {form v : Value} {d : Submission} {rest items : List Value}

/-- A member that is read counts if it is for the form. -/
theorem draftsOf_cons_of_read (h : Submission.read v = .ok d) :
    draftsOf form (v :: rest) = (draftsOf form rest).andThen fun ds =>
      ⟨[], .ok (if formText d = form.display then d :: ds else ds)⟩ := by
  have hv : v ≠ .null := by
    rintro rfl
    cases h
  rw [draftsOf, model?_of_ok _ _ hv h]
  rfl

/-- A null member ends the walk through a page, if the walk comes to it. -/
theorem draftsOf_of_halts (h : Halts items) : (draftsOf form items).result = .error .notRecord := by
  obtain ⟨before, after, rfl, hbefore⟩ := h
  induction before with
  | nil => rfl
  | cons v rest ih =>
    obtain ⟨d, hd⟩ := hbefore v List.mem_cons_self
    rw [List.cons_append, draftsOf_cons_of_read hd, Conclusion.result_andThen,
      ih ((List.forall_mem_cons.mp hbefore).2)]
    rfl

/-- Without such a member the walk ends in drafts or in a failure. -/
theorem draftsOf_tame (h : ¬Halts items) : (draftsOf form items).Tame := by
  induction items with
  | nil => exact .ok ⟨_, rfl⟩
  | cons v rest ih =>
    have hv : v ≠ .null := by
      rintro rfl
      exact h ⟨[], rest, rfl, List.forall_mem_nil _⟩
    cases hread : Submission.read v with
    | ok d =>
      have hrest : ¬Halts rest := by
        rintro ⟨before, after, rfl, hbefore⟩
        exact h ⟨v :: before, after, rfl, List.forall_mem_cons.mpr ⟨⟨d, hread⟩, hbefore⟩⟩
      rw [draftsOf_cons_of_read hread]
      exact (ih hrest).andThen fun _ _ => .ok ⟨_, rfl⟩
    | bad issues =>
      have hmodel := model?_of_bad draftsRequest submissionName hv hread
      exact .failure (by rw [draftsOf, Conclusion.result_andThen, hmodel]; rfl)

/-- A content that is not empty has to have members. -/
theorem draftItems_of_content {page : Value} (h : (page.get "content").isTruthy = true) :
    draftItems (some page) = match membersOf (page.get "content") with
      | some items => .ok items
      | none => .error .notMembers := by
  cases page with
  | record es =>
    have hcontent : truthy? ((Record.get? es "content").getD .null) =
        some ((Value.record es).get "content") := if_pos h
    unfold draftItems entryOf
    dsimp only [Option.getD_some, bind, Except.bind]
    rw [hcontent]
    dsimp only
    cases membersOf ((Value.record es).get "content") <;> rfl
  | _ => cases h

theorem draftItems_of_no_content {page : Value} (h : ¬(page.get "content").isTruthy = true)
    (hpage : page.isTruthy = true → ∃ es, page = .record es) : draftItems (some page) = .ok [] := by
  have hentry : entryOf page "content" = .ok (page.get "content") := by
    by_cases htrue : page.isTruthy = true
    · obtain ⟨es, rfl⟩ := hpage htrue
      rfl
    · cases page with
      | null => rfl
      | record es => rfl
      | _ => exact if_neg htrue
  unfold draftItems truthy?
  dsimp only [Option.getD_some, bind, Except.bind]
  rw [hentry]
  dsimp only
  rw [if_neg h]
  rfl

/-- Nothing can be asked of a page that is no record. -/
theorem draftItems_of_ne_record {page : Value} (h : page.isTruthy = true)
    (hpage : ∀ es, page ≠ .record es) : draftItems (some page) = .error .notRecord := by
  have hentry : entryOf page "content" = .error .notRecord := by
    cases page with
    | record es => exact absurd rfl (hpage es)
    | _ => exact if_pos h
  unfold draftItems
  rw [Option.getD_some, hentry]
  rfl

/-- A page that is unfit is tripped over. -/
theorem readDrafts_of_unfit {page : Value} (h : Unfit page) :
    (readDrafts form (some page)).Trips := by
  unfold readDrafts
  cases h with
  | page htrue hrecord =>
    rw [draftItems_of_ne_record htrue hrecord]
    exact .inl rfl
  | content htrue hmembers =>
    rw [draftItems_of_content htrue, hmembers]
    exact .inr rfl
  | member htrue hmembers hhalts =>
    rw [draftItems_of_content htrue, hmembers]
    refine .inl ?_
    dsimp only
    rw [Conclusion.result_andThen, draftsOf_of_halts hhalts]
    rfl

/-- A page that is not unfit is read. -/
theorem readDrafts_tame {page : Value} (h : ¬Unfit page) : (readDrafts form (some page)).Tame := by
  unfold readDrafts
  by_cases htrue : (page.get "content").isTruthy = true
  · rw [draftItems_of_content htrue]
    cases hmembers : membersOf (page.get "content") with
    | none => exact absurd (.content htrue hmembers) h
    | some items =>
      have hhalts : ¬Halts items := fun hhalts => h (.member htrue hmembers hhalts)
      exact (draftsOf_tame hhalts).andThen fun drafts _ => latestAnswers_tame drafts
  · have hpage : page.isTruthy = true → ∃ es, page = .record es := by
      intro hpage
      cases page with
      | record es => exact ⟨es, rfl⟩
      | _ => exact absurd (.page hpage nofun) h
    rw [draftItems_of_no_content htrue hpage]
    exact .ok ⟨[], rfl⟩

end Drafts

/-! ## Calls

The exchange of a call has no more in it than the two steps, with one exception for drafts. -/

/-- **Readings.** A call reads a body that it does not trip over. -/
theorem Call.reading_tame {c : Call} {body : Option Value} (h : ¬c.Trips body) :
    (c.reading body).Tame := by
  cases c with
  | fetch ref =>
    refine (model?_tame ..).andThen fun d _ => ?_
    cases d with
    | none => exact .failure rfl
    | some d => exact .ok ⟨d, rfl⟩
  | draftAnswers form =>
    cases body with
    | none => exact .ok ⟨[], rfl⟩
    | some page => exact readDrafts_tame h
  | _ => exact model?_tame ..

theorem Call.reading_trips {c : Call} {body : Option Value} (h : c.Trips body) :
    (c.reading body).Trips := by
  cases c with
  | draftAnswers form =>
    cases body with
    | none => exact h.elim
    | some page => exact readDrafts_of_unfit h
  | _ => exact h.elim

/-- **Calls.** A call reads the body of the response, unless it is for drafts that storage does not
know. -/
theorem Call.conclude_eq (c : Call) (response : Response)
    (h : ∀ form, c = .draftAnswers form → ¬(c.request.body? response).Refused 404) :
    c.exchange.conclude response = (c.request.body? response).andThen c.reading := by
  cases c with
  | fetch ref => exact Conclusion.andThen_assoc ..
  | save d =>
    change (Storage.save d).conclude response = ((Storage.save d).request.body? response).andThen
      ((Storage.save d).request.model? definitionName Definition.read)
    unfold Storage.save
    cases d.id <;> rfl
  | draftAnswers form =>
    have hknown : ¬isUnknown (draftsRequest.body? response) = true :=
      fun hunknown => h form rfl ((isUnknown_iff _).mp hunknown)
    exact if_neg hknown
  | _ => rfl

/-- Drafts that storage does not know are none. -/
theorem conclude_draftAnswers_of_refused (form : Value) {response : Response}
    (h : (draftsRequest.body? response).Refused 404) :
    ((draftAnswers form).conclude response).result = .ok [] := by
  have hunknown := (isUnknown_iff _).mpr h
  have hconclude : (draftAnswers form).conclude response =
      ⟨(draftsRequest.body? response).notices, .ok []⟩ := if_pos hunknown
  rw [hconclude]

/-- A request that has been sent is concluded by the response. -/
theorem run_eq_some {e : Exchange α} {base : Url} {respond : Dispatch → Response} {sent : Dispatch}
    {told : Conclusion α} (h : e.run base respond = (some sent, told)) :
    told = e.conclude (respond sent) := by
  unfold Exchange.run at h
  split at h
  · obtain ⟨hsent, htold⟩ := Prod.mk.inj h
    obtain rfl := Option.some.inj hsent
    exact htold.symm
  · cases h

/-- A request that nothing stands against is sent, and then concluded by the response. -/
theorem exists_run (e : Exchange α) (base : Url) (hfree : e.obstacle = none)
    (h : (e.request.dispatch base).isOk = true) (respond : Dispatch → Response) :
    ∃ sent, e.run base respond = (some sent, e.conclude (respond sent)) := by
  obtain ⟨sent, hsent⟩ := dispatch_of_isOk h
  exact ⟨sent, by rw [Exchange.run, hfree, Option.elim_none, hsent]⟩

/-- An address of storage. -/
def host : Url := { scheme := "http", authority := "x" }

end DynamicForm.Storage

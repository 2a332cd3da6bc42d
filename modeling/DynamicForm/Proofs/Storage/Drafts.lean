import DynamicForm.Proofs.Json.RoundTrip
import DynamicForm.Proofs.Storage.Foresight
import DynamicForm.Proofs.Storage.Sending
import DynamicForm.Proofs.Text.Utf8
import Mathlib.Data.List.Forall2

/-!
# Drafts that are read back

A draft carries its answers as a text. The drafts of a user come on a page, those of other forms
among them, and the latest one for the form in question is decoded. What comes out are the answers
that have been saved, if their text is the one of the latest draft.

- `Dispatch.answersText` is the text of the answers in a request that has been sent.
- `Response.Lists` says of a response that it is a page of drafts, `IsLatest` of a draft that it is
  later than all others for a form.
- `latest_of_lt`: a draft that is later than all others is the latest.
- `conclude_of_lists`: of a page, only the drafts for the form count.
- `body?_written`: a record that is written is read as the body of a response.
- `draftAnswers_saved`: saved answers are what is read from a page with their draft as the latest.
-/

namespace DynamicForm

namespace Storage

/-- The text of the answers in a request. -/
def Dispatch.answersText (sent : Dispatch) : Option String :=
  ((sent.body.getD .null).get "dataJson").text?

/-- The members of a page are read as these drafts. -/
abbrev AreDrafts (items : List Value) (drafts : List Submission) : Prop :=
  List.Forall₂ (fun item d => Submission.read item = .ok d) items drafts

/-- The response is a page that holds these drafts. -/
def Response.Lists (response : Response) (drafts : List Submission) : Prop :=
  ∃ page items, (draftsRequest.body? response).result = .ok (some page) ∧
    page.get "content" = .list items ∧ AreDrafts items drafts

/-- Whether a draft is for a form. -/
def isFor (form : Value) (d : Submission) : Bool := decide (formText d = form.display)

/-- The draft is for the form, and it is later than all others that are. -/
def IsLatest (form : Value) (drafts : List Submission) (d : Submission) : Prop :=
  formText d = form.display ∧ ∃ before after, drafts = before ++ d :: after ∧
    ∀ e ∈ before ++ after, formText e = form.display → draftRank e < draftRank d

/-! ## Saving

Answers are sent as a text inside of a record, so they are encoded twice: once for themselves, and
once more with the request. -/

/-- Answers that have been sent are not nested too far, and they are sent as their text. -/
theorem saveDraft_sent {form : Value} {answers : Record} {context : Context} {base : Url}
    {respond : Dispatch → Response} {sent : Dispatch}
    (h : ((saveDraft form answers context).run base respond).1 = some sent) :
    (Value.record answers).nesting ≤ Json.depthLimit ∧
      sent.answersText = some (Json.write (.record answers)) := by
  unfold Exchange.run at h
  split at h
  · next dispatched hdispatch =>
    obtain rfl := Option.some.inj h
    -- What is nested too far is refused before anything is sent.
    by_cases hnesting : (Value.record answers).nesting ≤ Json.depthLimit
    · have hfree : (saveDraft form answers context).obstacle = none := if_pos hnesting
      rw [hfree, Option.elim_none] at hdispatch
      obtain ⟨url, -, -, rfl⟩ := (dispatch_eq_ok rfl).mp hdispatch
      exact ⟨hnesting, rfl⟩
    · have hdeep : (saveDraft form answers context).obstacle = some .answerTooDeep :=
        if_neg hnesting
      rw [hdeep] at hdispatch
      cases hdispatch
  · cases h

/-! ## The latest draft

The walk keeps the best draft so far and replaces it by one that is later. Of equal ones the earlier
stays, which is why a draft has to be later than all others to be sure of being picked. -/

section Latest

variable {d : Submission} {before after drafts : List Submission}

/-- Drafts that are not later change nothing. -/
theorem foldl_latest_of_le (h : ∀ e ∈ drafts, draftRank e ≤ draftRank d) :
    drafts.foldl (fun best e => if draftRank best < draftRank e then e else best) d = d := by
  induction drafts with
  | nil => rfl
  | cons e rest ih =>
    obtain ⟨he, hrest⟩ := List.forall_mem_cons.mp h
    rw [List.foldl_cons, if_neg (Int.not_lt.mpr he), ih hrest]

/-- **The latest draft** is the one that is later than all others. -/
theorem latest_of_lt (h : ∀ e ∈ before ++ after, draftRank e < draftRank d) :
    latest (before ++ d :: after) = some d := by
  obtain ⟨hbefore, hafter⟩ := List.forall_mem_append.mp h
  -- The best draft so far gives way to the latest, and this one to none that follows.
  have hstays := foldl_latest_of_le fun e he => Int.le_of_lt (hafter e he)
  cases before with
  | nil => exact congrArg some hstays
  | cons first rest =>
    obtain ⟨hfirst, hrest⟩ := List.forall_mem_cons.mp hbefore
    have hbest : draftRank (rest.foldl (fun best e =>
        if draftRank best < draftRank e then e else best) first) < draftRank d := by
      refine List.foldlRecOn (motive := fun best => draftRank best < draftRank d) rest _ hfirst ?_
      intro best hbest e he
      split
      · exact hrest e he
      · exact hbest
    rw [List.cons_append, latest, List.foldl_append, List.foldl_cons, if_pos hbest, hstays]

theorem IsLatest.latest_filter {form : Value} (h : IsLatest form drafts d) :
    latest (drafts.filter (isFor form)) = some d := by
  obtain ⟨hform, before, after, rfl, hlater⟩ := h
  have hfor : isFor form d = true := decide_eq_true hform
  rw [List.filter_append, List.filter_cons_of_pos hfor]
  refine latest_of_lt fun e he => ?_
  rw [← List.filter_append] at he
  obtain ⟨hmem, hfor⟩ := List.mem_filter.mp he
  exact hlater e hmem (of_decide_eq_true hfor)

end Latest

/-! ## Pages

From the bytes of a response to the drafts on it: the bytes are decoded, the text is read, and each
member is read as a draft. -/

section Pages

variable {form page : Value} {items : List Value} {drafts : List Submission} {response : Response}

/-- The drafts for the form are picked from the members of a page. -/
theorem draftsOf_of_read (h : AreDrafts items drafts) :
    draftsOf form items = ⟨[], .ok (drafts.filter (isFor form))⟩ := by
  induction h with
  | nil => rfl
  | cons hread _ ih =>
    rw [draftsOf_cons_of_read hread, ih, List.filter_cons, isFor]
    simp only [decide_eq_true_eq]
    rfl

theorem draftItems_of_list (h : page.get "content" = .list items) :
    draftItems (some page) = .ok items := by
  cases page with
  | record es =>
    by_cases hitems : items.isEmpty = true
    · obtain rfl := List.isEmpty_iff.mp hitems
      have hcontent : ¬((Value.record es).get "content").isTruthy = true := by rw [h]; decide
      exact draftItems_of_no_content hcontent fun _ => ⟨es, rfl⟩
    · have hcontent : ((Value.record es).get "content").isTruthy = true := by
        rw [h, Value.isTruthy, Bool.not_eq_true', Bool.eq_false_iff]
        exact hitems
      rw [draftItems_of_content hcontent, h]
      rfl
  | _ => cases h

/-- **Pages.** The latest of the drafts for the form is decoded, whatever the others are. -/
theorem conclude_of_lists (h : response.Lists drafts) :
    ((draftAnswers form).conclude response).result =
      (latestAnswers (drafts.filter (isFor form))).result := by
  obtain ⟨page, items, hbody, hcontent, hread⟩ := h
  have hknown : ¬(draftsRequest.body? response).Refused 404 := by
    rintro ⟨message, hrefused⟩
    cases hbody.symm.trans hrefused
  have hconclude := (Call.draftAnswers form).conclude_eq response (by rintro _ ⟨⟩; exact hknown)
  change ((Call.draftAnswers form).exchange.conclude response).result = _
  rw [hconclude, Conclusion.result_andThen]
  change (draftsRequest.body? response).result.bind (fun v => (readDrafts form v).result) = _
  rw [hbody]
  change (readDrafts form (some page)).result = _
  rw [readDrafts, draftItems_of_list hcontent]
  dsimp only
  rw [draftsOf_of_read hread]
  rfl

/-- A record that is written is read as the body of a response. -/
theorem body?_written (r : Request) {entries : Record} (h : (Value.record entries).Plain)
    (hnesting : (Value.record entries).nesting ≤ Json.depthLimit) :
    r.body? (.answered 200 (Text.utf8Bytes (Json.write (.record entries)).toList)) =
      ⟨[], .ok (some (.record entries))⟩ := by
  obtain ⟨second, rest, htext, hsecond⟩ : ∃ second rest,
      (Json.write (.record entries)).toList = '\x7b' :: second :: rest ∧
        0 < second.toNat ∧ second.toNat < 0x80 := by
    cases entries with
    | nil => exact ⟨'\x7d', [], rfl, by decide⟩
    | cons e more =>
      rw [Json.toList_write_record, Json.entryText, Json.toList_writeText]
      exact ⟨'"', _, rfl, by decide⟩
  -- a record is written with a brace and another ASCII character first, which tells the encoding
  have hdecode := Text.decodeAny_utf8Bytes hsecond rest
  have hread := Json.read_write h hnesting
  have hjson : jsonOf (Text.utf8Bytes (Json.write (.record entries)).toList) =
      .ok (some (.record entries)) := by
    rw [← htext] at hdecode
    rw [jsonOf, withContent, hdecode, Option.map_some, String.ofList_toList, hread]
  have hblank : (Text.utf8Bytes (Json.write (.record entries)).toList).all isBlankByte = false := by
    rw [htext]
    rfl
  rw [body?_answered, if_neg (by decide), if_neg (by simp [hblank]), hjson]

/-- A page that is written lists what its members are read as. -/
theorem lists_pageOf (h : (Value.list items).Plain)
    (hnesting : (Value.list items).nesting < Json.depthLimit) (hread : AreDrafts items drafts) :
    (Response.answered 200 (pageOf items)).Lists drafts := by
  have hpage : (Value.record [("content", .list items)]).Plain :=
    .record (List.nodup_singleton _) (List.forall_mem_singleton.mpr h)
  have hdepth : (Value.record [("content", .list items)]).nesting ≤ Json.depthLimit :=
    Nat.succ_le_of_lt (Nat.max_lt.mpr ⟨hnesting, Nat.zero_lt_of_lt hnesting⟩)
  refine ⟨.record [("content", .list items)], items, ?_, rfl, hread⟩
  rw [pageOf, body?_written draftsRequest hpage hdepth]

end Pages

/-- Answers are decoded from a text that is read as a record. -/
theorem answers_of_read {d : Submission} {answers : Record} {text : String}
    (htext : d.dataJson = some text) (hread : Json.read text = .ok (.record answers)) :
    d.answers = .ok answers := by
  rw [Submission.answers, htext, Option.getD_some]
  split
  · cases hread
  · rw [hread]

/-- **Drafts.** If the latest draft for a form carries the text of answers that have been saved,
then these answers are what is read from a page of drafts. Drafts for other forms make no difference
to what is read. -/
theorem draftAnswers_saved {base : Url} {form : Value} {respond : Dispatch → Response}
    {asked : Dispatch} {told : Conclusion Record} {drafts : List Submission}
    (hrun : (draftAnswers form).run base respond = (some asked, told))
    (hpage : (respond asked).Lists drafts) :
    (∀ (answers : Record) (context : Context) (keep : Dispatch → Response) (sent : Dispatch)
      (d : Submission), (Value.record answers).Plain →
      ((saveDraft form answers context).run base keep).1 = some sent →
      d.dataJson = sent.answersText → IsLatest form drafts d → told.result = .ok answers) ∧
    (∀ (respond' : Dispatch → Response) (asked' : Dispatch) (told' : Conclusion Record)
      (drafts' : List Submission),
      (draftAnswers form).run base respond' = (some asked', told') →
      (respond' asked').Lists drafts' →
      drafts'.filter (isFor form) = drafts.filter (isFor form) → told'.result = told.result) := by
  have htold : told.result = (latestAnswers (drafts.filter (isFor form))).result := by
    rw [run_eq_some hrun, conclude_of_lists hpage]
  constructor
  · intro answers context keep sent d hplain hsent htext hlatest
    obtain ⟨hnesting, hanswers⟩ := saveDraft_sent hsent
    have hread := answers_of_read (htext.trans hanswers) (Json.read_write hplain hnesting)
    rw [htold, latestAnswers, hlatest.latest_filter]
    dsimp only
    rw [hread]
  · intro respond' asked' told' drafts' hrun' hpage' hsame
    rw [htold, run_eq_some hrun', conclude_of_lists hpage', hsame]

/-- Answers about a trip. -/
def tripAnswers : Record :=
  [("traveller", .text "Zoë \"Zo\" 😀"), ("days", .int (-3)),
    ("legs", .list [.record [("to", .text "Kraków"), ("booked", .bool false)], .null])]

/-- Drafts on a page: an earlier one, one without a number, the saved one, and one for another
form. -/
def tripDrafts : List Submission :=
  [{ id := some 4, formDefinitionId := some (.number 12), dataJson := some "\x7b\x7d" },
    { formDefinitionId := some (.number 12) },
    { id := some 9, formDefinitionId := some (.text "12")
      dataJson := some (Json.write (.record tripAnswers)) },
    { id := some 30, formDefinitionId := some (.number 13), dataJson := some "[" }]

/-- The page of the drafts. -/
def tripPage : List Value := tripDrafts.map (Submission.write .stored)

/-- Numbers that are far from too long. -/
theorem decimalLength_small : ∀ n < 31, Binary64.decimalLength n ≤ Json.digitLimit := by decide

theorem plain_tripAnswers : (Value.record tripAnswers).Plain := by
  simp [tripAnswers, Value.plain_list, Value.plain_record, Value.plain_int, Value.Plain.text,
    Value.Plain.bool, Value.Plain.null, Record.keys, decimalLength_small]

theorem lists_tripPage : (Response.answered 200 (pageOf tripPage)).Lists tripDrafts ∧
    (Response.answered 200 (pageOf (tripPage.take 3))).Lists (tripDrafts.take 3) := by
  have hplain : (Value.list tripPage).Plain := by
    simp [tripPage, tripDrafts, Submission.write, WriteStyle.entry, WriteStyle.stored,
      Read.Attribute.plain, Submission.formDefinitionIdNames, Submission.dataJsonNames,
      FormId.toValue, Value.plain_list, Value.plain_record, Value.plain_int, Value.Plain.text,
      Record.keys, decimalLength_small]
  have hfewer : (Value.list (tripPage.take 3)).Plain :=
    Value.plain_list.mpr fun v hv => Value.plain_list.mp hplain v (List.mem_of_mem_take hv)
  have hread : AreDrafts tripPage tripDrafts := by
    rw [AreDrafts, tripPage, List.forall₂_map_left_iff]
    refine .cons ?_ (.cons ?_ (.cons ?_ (.cons ?_ .nil))) <;> rfl
  exact ⟨lists_pageOf hplain (by decide) hread,
    lists_pageOf hfewer (by decide) (List.forall₂_take 3 hread)⟩

/-- A draft with nested answers among others for the same form, with a later one for another form
and without it. -/
theorem draftAnswers_trip :
    ((draftAnswers (.int 12)).run host fun _ => .answered 200 (pageOf tripPage)).2.result =
        .ok tripAnswers ∧
      ((draftAnswers (.int 12)).run host fun _ =>
        .answered 200 (pageOf (tripPage.take 3))).2.result = .ok tripAnswers := by
  obtain ⟨sent, hsaved⟩ := exists_run (saveDraft (.int 12) tripAnswers {}) host rfl
    (by decide +kernel) fun _ => .failed "timed out"
  have hsent := congrArg Prod.fst hsaved
  have hasked (items : List Value) := exists_run (draftAnswers (.int 12)) host rfl
    (by decide +kernel) fun _ => .answered 200 (pageOf items)
  have hlatest (d : Submission) (h : tripDrafts[2]? = some d) :
      IsLatest (.int 12) tripDrafts d := by
    cases h
    exact ⟨by decide, tripDrafts.take 2, tripDrafts.drop 3, rfl, by decide +kernel⟩
  obtain ⟨hall, hfewer⟩ := lists_tripPage
  obtain ⟨asked, hrun⟩ := hasked tripPage
  obtain ⟨asked', hrun'⟩ := hasked (tripPage.take 3)
  obtain ⟨hlater, hothers⟩ := draftAnswers_saved hrun hall
  have htold := hlater tripAnswers {} _ sent _ plain_tripAnswers hsent
    (saveDraft_sent hsent).2.symm (hlatest _ rfl)
  have hsame := hothers _ asked' _ _ hrun' hfewer rfl
  rw [hrun, hrun']
  exact ⟨htold, hsame.trans htold⟩

end Storage

end DynamicForm

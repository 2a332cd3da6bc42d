import DynamicForm.Proofs.Form.Recollection
import DynamicForm.Proofs.Form.Submission

/-!
# Marks and statuses

A field counts as untried until its key is given a value or a submission is made. Its control keeps
a mark of that, which passes over the controls do not touch: it outlives that the field is hidden
and shown again, and a submission leaves it also where it is refused. Only a reset takes it away.

- `Form.Begun` holds of a form that has just been built or reset, `Request.Marks` of a call and the
  keys that it marks.
- `Form.run_touched`: the marks of a form are what calls have left since then.
- `Form.status_tells`: so the status of a field can be told from its checks and from the calls, and
  right after a submission the fields that are invalid are those for which it has been refused.
-/

namespace DynamicForm

namespace Request

/-- The call marks the key. A submission marks every key. -/
def Marks (key : String) : Request → Prop
  | .submit _ => True
  | r => key ∈ r.given.keys

def isReset : Request → Bool
  | .reset _ => true
  | _ => false

end Request

/-- What rules that a value fails, or none, say of it. -/
def Status.ofFailures (failures : List Failure) : Status :=
  if failures.isEmpty then .valid else .invalid

/-- A key without a value is no key of the record. -/
theorem Record.not_mem_keys_of_get? {r : Record} {key : String} (h : r.get? key = none) :
    key ∉ r.keys := by
  intro hmem
  obtain ⟨entry, hentry, rfl⟩ := List.mem_map.mp hmem
  have hother := List.lookup_eq_none_iff.mp h entry hentry
  simp at hother

theorem Status.ofFailures_eq_invalid {failures : List Failure} :
    ofFailures failures = .invalid ↔ failures ≠ [] := by
  cases failures <;> simp [ofFailures]

/-- Valid is what fails none, with nothing in between. -/
theorem Status.ofFailures_eq_valid {failures : List Failure} :
    ofFailures failures = .valid ↔ failures = [] := by
  cases failures <;> simp [ofFailures]

namespace Form

variable {d : Definition} {form : Form}

/-- A form that has just been built or reset. What was called before a reset does not matter. -/
inductive Begun (d : Definition) : Form → Prop where
  | build {initial : Record} {form : Form} : (build d initial).2 = .ok form → Begun d form
  | reset {form : Form} (initial : Option Record) : Reachable d form →
      (form.reset initial).result = .ok () → Begun d (form.reset initial).form

theorem Begun.settled (h : Begun d form) : Settled d form := by
  cases h with
  | build hb => exact .build hb
  | reset initial hr hok => exact .reset initial hr hok

/-! ## Marks

Two kinds of calls leave marks: a change of values marks the keys that it names, and a submission
marks all. Since marks are only ever added between two resets, the marks of a form are those of all
calls since the last one. -/

/-- Initial values are not given by anyone, and leave no mark. -/
theorem patch_touched (values : Record) (c : Control) : (c.patch values).touched = c.touched := by
  unfold Control.patch
  split <;> rfl

/-- A value that is given marks its control, even if it is the one that was there. -/
theorem assign_touched (values : Record) (c : Control) :
    (c.assign values).touched = true ↔ c.touched = true ∨ c.key ∈ values.keys := by
  unfold Control.assign
  cases hv : values.get? c.key with
  | some v => exact ⟨fun _ => .inr (Record.mem_keys_of_get? hv), fun _ => rfl⟩
  | none => exact ⟨.inl, fun h => h.resolve_right (Record.not_mem_keys_of_get? hv)⟩

/-- Nothing is marked at first. -/
theorem Begun.untouched (h : Begun d form) : ∀ c ∈ form.controls, c.touched = false := by
  have hfresh : ∀ {cs done : List Control}, (∀ c ∈ cs, c.touched = false) →
      (Control.settle cs).1 = done → ∀ c ∈ done, c.touched = false := by
    rintro cs done hcs rfl c hc
    obtain ⟨b, hb, hrefreshed⟩ := exists_of_forall₂ (Control.settle_refreshed cs) hc
    exact hrefreshed.touched.trans (hcs b hb)
  cases h with
  | build hb =>
    obtain ⟨cs, settled, hcs, hs, rfl⟩ := build_ok hb
    refine hfresh (List.forall_mem_map.mpr fun c hc => ?_) (congrArg Prod.fst hs)
    obtain ⟨f, -, checks, -, rfl⟩ := exists_of_forall₂ (controlsFor_leadingFields hcs) hc
    exact patch_touched ..
  | reset initial _ _ =>
    refine hfresh (List.forall_mem_map.mpr fun c _ => ?_) (settle_controls ..).symm
    exact patch_touched ..

/-- **One call.** A call that returns adds the marks that it makes. -/
theorem after_touched {r : Request} (hr : r.Returns form) (hkeeps : r.isReset = false) :
    List.Forall₂ (fun c e => e.key = c.key ∧
      (e.touched = true ↔ c.touched = true ∨ r.Marks c.key)) form.controls
      (form.after r).controls := by
  -- a change of values marks the keys that it names, and settling leaves the marks alone
  have hset : ∀ values, (form.setValues values).result = .ok () →
      List.Forall₂ (fun c e => e.key = c.key ∧
        (e.touched = true ↔ c.touched = true ∨ c.key ∈ values.keys)) form.controls
        (form.setValues values).form.controls := by
    intro values hok
    have hrefreshed := Control.settle_refreshed (form.assigned values)
    rw [settle_of_setValues hok, assigned, List.forall₂_map_left_iff] at hrefreshed
    refine hrefreshed.imp fun c e hce => ⟨?_, ?_⟩
    · rw [hce.key, Control.key, assign_field, Control.key]
    · rw [hce.touched, assign_touched]
  have hrest : List.Forall₂ (fun c e => e.key = c.key ∧
      (e.touched = true ↔ c.touched = true ∨ c.key ∈ Record.keys [])) form.controls
      form.controls :=
    List.forall₂_same.mpr fun c _ => ⟨rfl, by simp [Record.keys]⟩
  cases r with
  | setValue key v => exact hset [(key, v)] hr
  | setValues values => exact hset values hr
  | submit today =>
    rw [Form.after, submit_form]
    exact List.forall₂_map_right_iff.mpr (List.forall₂_same.mpr fun c _ =>
      ⟨rfl, fun _ => .inr trivial, fun _ => rfl⟩)
  | reset initial => cases hkeeps
  | subscribe once => exact hrest
  | unsubscribe ticket => exact hrest

/-- **A run.** A control is marked if it was at first or a call has marked its key since. -/
theorem run_touched {calls : List Request} (hreturns : form.Returns calls)
    (hkeeps : ∀ r ∈ calls, r.isReset = false) :
    List.Forall₂ (fun c e => e.key = c.key ∧
      (e.touched = true ↔ c.touched = true ∨ ∃ r ∈ calls, r.Marks c.key)) form.controls
      (form.run calls).controls := by
  induction calls generalizing form with
  | nil => exact List.forall₂_same.mpr fun c _ => ⟨rfl, by simp⟩
  | cons r rest ih =>
    obtain ⟨hr, hrest⟩ := List.forall_mem_cons.mp hkeeps
    refine forall₂_trans (after_touched hreturns.1 hr) (ih hreturns.2 hrest) ?_
    rintro c b e ⟨hkb, hb⟩ ⟨hke, he⟩
    refine ⟨hke.trans hkb, ?_⟩
    rw [he, hb, hkb, or_assoc, List.exists_mem_cons_iff]

/-- The marks since a form was built or reset. -/
theorem Begun.touched_iff (h : Begun d form) {calls : List Request}
    (hreturns : form.Returns calls) (hkeeps : ∀ r ∈ calls, r.isReset = false) {c : Control}
    (hc : c ∈ (form.run calls).controls) :
    c.touched = true ↔ ∃ r ∈ calls, r.Marks c.key := by
  obtain ⟨b, hb, hkey, htouched⟩ := exists_of_forall₂ (run_touched hreturns hkeeps) hc
  rw [htouched, h.untouched b hb, hkey]
  simp

/-! ## Statuses

A status is decided in three steps, each of which leaves the rest to the next: whether the control
is checked at all, whether it is marked, and whether it fails. -/

theorem Fits.status_eq (h : form.Fits d) (today : Date) {c : Control} (hc : c ∈ form.controls) :
    form.status today c.key = lift (statusOf today c) := by
  rw [status, control, h.control?_eq hc]

theorem lift_eq_ok {α : Type} {x : Except Fault α} {a : α} : lift x = .ok a ↔ x = .ok a := by
  cases x <;> simp [lift]

/-- A marked control has the status that its failures give it, also where it is not checked. -/
theorem statusOf_touched (today : Date) {c : Control} (h : c.touched = true) :
    statusOf today c = (c.failures today).map Status.ofFailures := by
  unfold statusOf
  rw [h]
  cases hexempt : !c.visible || c.field.disabled with
  | true => rw [Control.failures, hexempt]; rfl
  | false => rfl

/-- What is hidden or disabled is valid. -/
theorem Fits.status_of_exempt (h : form.Fits d) (today : Date) {c : Control}
    (hc : c ∈ form.controls) (hexempt : c.visible = false ∨ c.field.disabled = true) :
    form.status today c.key = .ok .valid := by
  rw [h.status_eq today hc, statusOf, if_pos (by simpa using hexempt)]
  rfl

/-- What is not marked is pristine. -/
theorem Fits.status_of_untouched (h : form.Fits d) (today : Date) {c : Control}
    (hc : c ∈ form.controls) (hv : c.visible = true) (hd : c.field.disabled = false)
    (huntouched : c.touched = false) : form.status today c.key = .ok .pristine := by
  rw [h.status_eq today hc, statusOf, hv, hd, huntouched]
  rfl

/-- What is marked has the status that its checks give it. -/
theorem Fits.status_of_touched (h : form.Fits d) (today : Date) {c : Control}
    (hc : c ∈ form.controls) (hv : c.visible = true) (hd : c.field.disabled = false)
    (htouched : c.touched = true) :
    (form.status today c.key = .ok .invalid ↔
      ∃ fs, c.field.report today form.values = .ok (c.key, fs) ∧ fs ≠ []) ∧
    (form.status today c.key = .ok .valid ↔
      c.field.report today form.values = .ok (c.key, [])) := by
  rw [h.status_eq today hc, lift_eq_ok, lift_eq_ok, statusOf_touched today htouched,
    ← h.failures_control today hc hv hd]
  cases c.failures today with
  | error e => exact ⟨⟨nofun, fun ⟨_, hfs, _⟩ => nomatch hfs⟩, nofun, nofun⟩
  | ok fs => simp [Except.map, Status.ofFailures_eq_invalid, Status.ofFailures_eq_valid]

/-- A submission returns when nothing fails. -/
theorem failures_of_accepted {today : Date} {answers : Record}
    (h : (form.submit today).result = .ok answers) : form.failures today = .ok [] := by
  rw [submit_result] at h
  split at h
  · cases h
  · assumption
  · cases h

/-- A submission is refused for what fails. -/
theorem failures_of_refused {today : Date} {failures : List (String × List Failure)}
    (h : (form.submit today).result = .error (.error (.invalid failures))) :
    form.failures today = .ok failures ∧ failures ≠ [] := by
  rw [submit_result] at h
  split at h
  · cases h
  · cases h
  · next reports hne hreports =>
    obtain rfl : reports = failures := by simpa using h
    exact ⟨hreports, hne⟩

/-- A key is among the reports when a control with it fails. -/
theorem mem_failuresIn {today : Date} {cs : List Control} {reports : List (String × List Failure)}
    (h : failuresIn today cs = .ok reports) (key : String) :
    key ∈ reports.map Prod.fst ↔
      ∃ c ∈ cs, c.key = key ∧ ∃ fs, c.failures today = .ok fs ∧ fs ≠ [] := by
  induction cs generalizing reports with
  | nil =>
    obtain rfl := Except.ok.inj h
    simp
  | cons c rest ih =>
    obtain ⟨fs, others, hfs, hothers, rfl⟩ := failuresIn_cons_ok h
    rw [List.exists_mem_cons_iff, ← ih hothers, hfs]
    cases fs with
    | nil => simp
    | cons f fs => simp [eq_comm]

/-- **After a submission.** Every control is marked, so the invalid fields are those that fail, and a
form is valid when there are none. -/
theorem Fits.submit_statuses (h : form.Fits d) {today : Date}
    {reports : List (String × List Failure)} (hreports : form.failures today = .ok reports) :
    (∀ key, (form.submit today).form.status today key = .ok .invalid ↔
      key ∈ reports.map Prod.fst) ∧
    (form.submit today).form.isValid today = .ok reports.isEmpty := by
  have hfits : (form.submit today).form.Fits d := h.after (.submit today)
  rw [submit_form] at hfits ⊢
  refine ⟨fun key => ?_, ?_⟩
  · rw [mem_failuresIn hreports key]
    constructor
    -- a key with a status has a control, which is one of those that were marked
    · intro hstatus
      cases hfind : control? { form with controls := form.controls.map Control.touch } key with
      | none =>
        rw [status, control, hfind] at hstatus
        cases hstatus
      | some c =>
        have hkey : c.key = key := by simpa using List.find?_some hfind
        obtain ⟨b, hb, rfl⟩ := List.mem_map.mp (List.mem_of_find?_eq_some hfind)
        rw [status, control, hfind] at hstatus
        have hmarked := (lift_eq_ok.mp hstatus).symm.trans (statusOf_touched today rfl)
        rw [show b.touch.failures today = b.failures today from rfl] at hmarked
        cases hfs : b.failures today with
        | error e =>
          rw [hfs] at hmarked
          cases hmarked
        | ok fs =>
          rw [hfs] at hmarked
          exact ⟨b, hb, hkey, fs, hfs,
            Status.ofFailures_eq_invalid.mp (Except.ok.inj hmarked).symm⟩
    · rintro ⟨c, hc, rfl, fs, hfs, hne⟩
      have hstatus := hfits.status_eq today (List.mem_map_of_mem (f := Control.touch) hc)
      rw [statusOf_touched today rfl, show c.touch.failures today = c.failures today from rfl,
        hfs] at hstatus
      exact hstatus.trans (congrArg Except.ok (Status.ofFailures_eq_invalid.mpr hne))
  · rw [isValid, show failures today { form with controls := form.controls.map Control.touch } =
      form.failures today from failuresIn_touch today form.controls, hreports]
    rfl

/-- **Statuses.** Let a form be called, after it was built or reset, with nothing but refused
submissions that does not return. A field is valid if it is hidden or disabled. One that is shown and
enabled is pristine if no call since has set its value and there was no submission, and otherwise
invalid exactly if its own checks fail on its value. Right after a submission the invalid fields are
exactly those for which it has been refused, none if it returns, and the form is valid exactly if
there are none. -/
theorem status_tells (h : Begun d form) {calls : List Request} (hreturns : form.Returns calls)
    (hkeeps : ∀ r ∈ calls, r.isReset = false) (today : Date) :
    let now := form.run calls
    (∀ c ∈ now.controls,
      (c.visible = false ∨ c.field.disabled = true → now.status today c.key = .ok .valid) ∧
      (c.visible = true → c.field.disabled = false →
        ((∀ r ∈ calls, ¬r.Marks c.key) → now.status today c.key = .ok .pristine) ∧
        ((∃ r ∈ calls, r.Marks c.key) →
          (now.status today c.key = .ok .invalid ↔
            ∃ fs, c.field.report today now.values = .ok (c.key, fs) ∧ fs ≠ []) ∧
          (now.status today c.key = .ok .valid ↔
            c.field.report today now.values = .ok (c.key, []))))) ∧
    (∀ answers, (now.submit today).result = .ok answers →
      (∀ key, (now.submit today).form.status today key ≠ .ok .invalid) ∧
      (now.submit today).form.isValid today = .ok true) ∧
    (∀ failures, (now.submit today).result = .error (.error (.invalid failures)) →
      failures ≠ [] ∧
      (∀ key, (now.submit today).form.status today key = .ok .invalid ↔
        key ∈ failures.map Prod.fst) ∧
      (now.submit today).form.isValid today = .ok false) := by
  intro now
  have hfits : now.Fits d := (h.settled.reachable.run calls).fits
  refine ⟨fun c hc => ⟨hfits.status_of_exempt today hc, fun hv hd =>
    ⟨fun hnone => ?_, fun hsome => ?_⟩⟩, fun answers hok => ?_, fun failures hrefused => ?_⟩
  -- no call has marked the key, so the control is as it was at the beginning
  · have huntouched : c.touched = false := by
      rw [← Bool.not_eq_true, h.touched_iff hreturns hkeeps hc]
      rintro ⟨r, hr, hmarks⟩
      exact hnone r hr hmarks
    exact hfits.status_of_untouched today hc hv hd huntouched
  · exact hfits.status_of_touched today hc hv hd ((h.touched_iff hreturns hkeeps hc).mpr hsome)
  · obtain ⟨hstatuses, hvalid⟩ := hfits.submit_statuses (failures_of_accepted hok)
    exact ⟨fun key hkey => List.not_mem_nil ((hstatuses key).mp hkey), hvalid⟩
  · obtain ⟨hfailures, hne⟩ := failures_of_refused hrefused
    obtain ⟨hstatuses, hvalid⟩ := hfits.submit_statuses hfailures
    refine ⟨hne, hstatuses, ?_⟩
    rw [hvalid, List.isEmpty_eq_false_iff.mpr hne]

/-- What is asked for where one field hides the other and is empty itself. -/
theorem submission_tangled :
    ∃ failure, tangled.submission ⟨2024, 1, 15⟩
      [("lost", .null), ("right", .text ""), ("left", .null)] =
        .error (.error (.invalid [("right", [failure])])) := by
  have hleading : tangled.leadingFields =
      tangled.fields.drop 3 ++ (tangled.fields.take 2).reverse := by
    cbv
  have hchecked : (tangled.shownFields
      [("lost", .null), ("right", .text ""), ("left", .null)]).filter (fun f => !f.disabled) =
        [tangled.fields[1]] := by
    rw [Definition.shownFields, hleading]
    rfl
  rw [Definition.submission, Definition.refusals, hchecked, List.mapM_cons, List.mapM_nil]
  exact ⟨_, rfl⟩

/-- The statuses after a submission that is let pass and a change that hides one field and makes the
other fail, and the refusal that comes of it. -/
theorem status_tells_tangled :
    let today : Date := ⟨2024, 1, 15⟩
    let calls : List Request := [.submit today, .setValue "right" (.text "")]
    ∃ form failures, Begun tangled form ∧ form.Returns calls ∧
      (form.run calls).status today "left" = .ok .valid ∧
      ((form.run calls).submit today).result = .error (.error (.invalid failures)) ∧
      failures.map Prod.fst = ["right"] ∧
      ((form.run calls).submit today).form.status today "right" = .ok .invalid := by
  intro today calls
  have hrun : (build tangled [("right", .text "r")]).2.toOption.map (fun form =>
      (((form.submit today).form.setValue "right" (.text "")).result.isOk,
        (form.run calls).values, (form.run calls).visibility)) =
      some (true, [("lost", .null), ("right", .text ""), ("left", .null)],
        [("lost", false), ("right", true), ("left", false)]) := by
    cbv
  obtain ⟨form, hsome, hp⟩ := Option.map_eq_some_iff.mp hrun
  have hb := eq_ok_of_toOption hsome
  obtain ⟨hset, hp⟩ := Prod.mk.inj hp
  obtain ⟨hvalues, hvisibility⟩ := Prod.mk.inj hp
  have hreturns : form.Returns calls := ⟨trivial, result_of_isOk hset, trivial⟩
  -- the last call sets values and returns, so the form is settled by then
  have hsettled : Settled tangled (form.run calls) :=
    .setValues [("right", .text "")] ((Reachable.build hb).run [.submit today])
      (result_of_isOk hset)
  have hleft : ("left", false) ∈ (form.run calls).visibility := by simp [hvisibility]
  have hkeeps : ∀ r ∈ calls, r.isReset = false := by simp [calls, Request.isReset]
  obtain ⟨hstatus, -, hrejected⟩ := status_tells (.build hb) hreturns hkeeps today
  obtain ⟨failure, hfailure⟩ := submission_tangled
  -- what the submission comes to can be computed from the values alone
  have hresult := (submit_agrees hsettled today).1
  rw [hvalues, hfailure] at hresult
  obtain ⟨c, hc, hpair⟩ := List.mem_map.mp hleft
  obtain ⟨hkey, hhidden⟩ := Prod.mk.inj hpair
  refine ⟨form, _, .build hb, hreturns, ?_, hresult, rfl,
    ((hrejected _ hresult).2.1 "right").mpr List.mem_cons_self⟩
  rw [← hkey]
  exact (hstatus c hc).1 (.inl hhidden)

end Form

end DynamicForm

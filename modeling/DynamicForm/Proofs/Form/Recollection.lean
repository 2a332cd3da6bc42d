import DynamicForm.Proofs.Form.Assignment

/-!
# Recollection

Values are written by a construction, by changes of values and by resets; passes over the controls
only take them away. So whatever a form is asked to do, a field holds what it has been given last,
or nothing. And it holds nothing from the time at which it is hidden until it is given a value
again: showing it does not bring back what it held.

- `Recollection` remembers what has been given, without a look at conditions.
- `Form.after_written`: what one call that returns makes of each control.
- `Form.values_recalled`: after any run of calls that return, a field holds what is remembered of
  it, or null; and if it has been hidden, null until it is given a value again.
-/

namespace DynamicForm

namespace Request

/-- The values that the call sets. -/
def given : Request → Record
  | .setValue key v => [(key, v)]
  | .setValues values => values
  | _ => []

/-- The call gives the key a value. A reset gives every key one. -/
def Gives (key : String) : Request → Prop
  | .reset _ => True
  | r => key ∈ r.given.keys

/-- The call returns normally. One that leaves values alone, such as a submission that is refused,
does so for the present purpose whatever its result. -/
def Returns (form : Form) : Request → Prop
  | .setValue key v => (form.setValue key v).result = .ok ()
  | .setValues values => (form.setValues values).result = .ok ()
  | .reset initial => (form.reset initial).result = .ok ()
  | _ => True

/-- The value that the call writes to a control. -/
def written (form : Form) (c : Control) : Request → Value
  | .reset initial => c.field.startingValue (initial.getD form.initialValues)
  | r => (r.given.get? c.key).getD c.value

theorem written_of_not_gives {form : Form} {c : Control} {r : Request} (h : ¬r.Gives c.key) :
    r.written form c = c.value := by
  cases r with
  | reset initial => exact absurd trivial h
  | setValue key v => simp only [written, Record.get?_of_not_mem_keys h, Option.getD_none]
  | setValues values => simp only [written, Record.get?_of_not_mem_keys h, Option.getD_none]
  | submit today => rfl
  | subscribe once => rfl
  | unsubscribe ticket => rfl

end Request

/-- What a form has been given since it was built or reset. -/
structure Recollection where
  /-- The initial values that it started with. -/
  initial : Record
  /-- What has been set since then; what has been set last comes first. -/
  given : Record := []

namespace Recollection

/-- A reset forgets what has been set. Without initial values of its own it starts with the last
ones. -/
def after (m : Recollection) : Request → Recollection
  | .reset initial => { initial := initial.getD m.initial }
  | r => { m with given := r.given ++ m.given }

def run (m : Recollection) (rs : List Request) : Recollection := rs.foldl after m

/-- The value that a field has been given last: one that has been set, else its initial value, else
its default. -/
def last (m : Recollection) (f : Field) : Value :=
  (m.given.get? f.key).getD (f.startingValue m.initial)

/-- What is set comes before what has been set. -/
theorem last_append (m : Recollection) (values : Record) (f : Field) :
    last { m with given := values ++ m.given } f = (values.get? f.key).getD (m.last f) := by
  rw [last, Record.get?_append]
  cases values.get? f.key <;> rfl

end Recollection

/-! ## One call -/

namespace Control

/-- The control of the same field, which holds the value or has lost it to its conditions. -/
def Keeps (value : Control → Value) (c e : Control) : Prop :=
  e.field = c.field ∧ (e.value = value c ∨ e.field.hasConditions = true ∧ e.value = .null)

theorem keeps_of_refreshed {value : Control → Value} {cs es done : List Control}
    (h : List.Forall₂ (fun c e => e.field = c.field ∧ e.value = value c) cs es)
    (hr : List.Forall₂ Refreshed es done) : List.Forall₂ (Keeps value) cs done := by
  refine forall₂_trans h hr fun c e e' ⟨hfield, hvalue⟩ hrefreshed => ?_
  refine ⟨hrefreshed.field.trans hfield, ?_⟩
  rw [← hvalue, hrefreshed.field]
  exact hrefreshed.value

/-- The control holds what is remembered of its field, or has lost it to its conditions. -/
def Recalls (m : Recollection) (c : Control) : Prop :=
  c.value = m.last c.field ∨ c.field.hasConditions = true ∧ c.value = .null

end Control

namespace Form

variable {d : Definition} {form : Form} {m : Recollection}

theorem settle_initialValues (cs : List Control) (changed : List String) :
    (form.settle cs changed).form.initialValues = form.initialValues := by
  unfold settle
  rcases Control.settle cs with ⟨settled, _ | e⟩ <;> rfl

theorem setValues_initialValues (values : Record) :
    (form.setValues values).form.initialValues = form.initialValues := by
  rcases setValues_cases form values with ⟨key, -, heq⟩ | heq
  · rw [heq]
  · rw [heq, settle_initialValues]

/-- The controls after a change of values that returns. -/
theorem setValues_keeps {values : Record} (hok : (form.setValues values).result = .ok ()) :
    List.Forall₂ (Control.Keeps fun c => (values.get? c.key).getD c.value) form.controls
      (form.setValues values).form.controls := by
  have hrefreshed := Control.settle_refreshed (form.assigned values)
  rw [settle_of_setValues hok] at hrefreshed
  refine Control.keeps_of_refreshed ?_ hrefreshed
  exact List.forall₂_map_right_iff.mpr (List.forall₂_same.mpr fun c _ =>
    ⟨assign_field values c, assign_value values c⟩)

/-- The controls after a reset. -/
theorem reset_keeps (initial : Option Record) :
    List.Forall₂ (Control.Keeps fun c => c.field.startingValue (initial.getD form.initialValues))
      form.controls (form.reset initial).form.controls := by
  rw [reset, settle_controls]
  refine Control.keeps_of_refreshed ?_ (Control.settle_refreshed _)
  exact List.forall₂_map_right_iff.mpr (List.forall₂_same.mpr fun c _ =>
    ⟨patch_field .., patch_fresh_value ..⟩)

/-- **One call.** After a call that returns, every control holds the value that has been written to
it, or has lost it to its conditions. -/
theorem after_written {r : Request} (hr : r.Returns form) :
    List.Forall₂ (Control.Keeps (r.written form)) form.controls (form.after r).controls := by
  have hrest : List.Forall₂ (Control.Keeps Control.value) form.controls form.controls :=
    List.forall₂_same.mpr fun c _ => ⟨rfl, .inl rfl⟩
  cases r with
  | setValue key v => exact setValues_keeps hr
  | setValues values => exact setValues_keeps hr
  | reset initial => exact reset_keeps initial
  | submit today =>
    rw [Form.after, submit_form]
    exact List.forall₂_map_right_iff.mpr (List.forall₂_same.mpr fun c _ => ⟨rfl, .inl rfl⟩)
  | subscribe once => exact hrest
  | unsubscribe ticket => exact hrest

/-- The form remembers the initial values that a reset goes back to. -/
theorem after_initialValues (h : form.initialValues = m.initial) (r : Request) :
    (form.after r).initialValues = (m.after r).initial := by
  cases r with
  | setValue key v => exact (setValues_initialValues [(key, v)]).trans h
  | setValues values => exact (setValues_initialValues values).trans h
  | reset initial =>
    rw [Form.after, reset, settle_initialValues, Recollection.after, h]
  | submit today =>
    rw [Form.after, submit_form]
    exact h
  | subscribe once => exact h
  | unsubscribe ticket => exact h

/-- What is written to a control that holds what is remembered is remembered from then on. -/
theorem written_recalled (h : form.initialValues = m.initial) {c : Control} (hc : c.Recalls m)
    (r : Request) : r.written form c = (m.after r).last c.field ∨
      c.field.hasConditions = true ∧ r.written form c = .null := by
  -- what a change names is remembered as given last, and everything else as before
  have hset : ∀ values : Record, (values.get? c.key).getD c.value =
      Recollection.last { m with given := values ++ m.given } c.field ∨
      c.field.hasConditions = true ∧ (values.get? c.key).getD c.value = .null := by
    intro values
    rw [Recollection.last_append, Control.key]
    cases values.get? c.field.key with
    | some v => exact .inl rfl
    | none => exact hc
  cases r with
  | reset initial =>
    left
    rw [Request.written, h]
    rfl
  | setValue key v => exact hset [(key, v)]
  | setValues values => exact hset values
  | submit today => exact hset []
  | subscribe once => exact hset []
  | unsubscribe ticket => exact hset []

/-! ## Runs -/

/-- Every call of the run returns normally. -/
def Returns (form : Form) : List Request → Prop
  | [] => True
  | r :: rest => r.Returns form ∧ (form.after r).Returns rest

theorem returns_append {before after : List Request} :
    form.Returns (before ++ after) ↔ form.Returns before ∧ (form.run before).Returns after := by
  induction before generalizing form with
  | nil => exact ⟨fun h => ⟨trivial, h⟩, And.right⟩
  | cons r rest ih =>
    rw [List.cons_append, Returns, Returns, ih, and_assoc]
    rfl

theorem run_append (before after : List Request) :
    form.run (before ++ after) = (form.run before).run after := List.foldl_append

/-- The memory fits the form. -/
structure Remembers (m : Recollection) (form : Form) : Prop where
  initialValues : form.initialValues = m.initial
  recalls : ∀ c ∈ form.controls, c.Recalls m

/-- A form that has just been built holds the values that it starts with. -/
theorem remembers_of_build {initial : Record} (h : (build d initial).2 = .ok form) :
    Remembers { initial := initial } form := by
  obtain ⟨cs, settled, hcs, hs, rfl⟩ := build_ok h
  refine ⟨rfl, fun c hc => ?_⟩
  have hrefreshed := Control.settle_refreshed (cs.map (Control.patch initial))
  rw [hs] at hrefreshed
  obtain ⟨e, he, hr⟩ := exists_of_forall₂ hrefreshed hc
  obtain ⟨e₀, he₀, rfl⟩ := List.mem_map.mp he
  obtain ⟨f, -, checks, -, rfl⟩ := exists_of_forall₂ (controlsFor_leadingFields hcs) he₀
  have hvalue := hr.value
  rw [patch_fresh_value, ← hr.field] at hvalue
  rw [Control.Recalls, show c.field = f from hr.field.trans (patch_field ..)] at *
  exact hvalue

/-- **A call that returns keeps the memory.** -/
theorem Remembers.after (h : Remembers m form) {r : Request} (hr : r.Returns form) :
    Remembers (m.after r) (form.after r) := by
  refine ⟨after_initialValues h.initialValues r, fun e he => ?_⟩
  obtain ⟨c, hc, hfield, hvalue⟩ := exists_of_forall₂ (after_written hr) he
  rcases hvalue with hwritten | hlost
  · rw [Control.Recalls, hwritten, hfield]
    exact written_recalled h.initialValues (h.recalls c hc) r
  · exact .inr hlost

theorem Remembers.run (h : Remembers m form) {rs : List Request} (hrs : form.Returns rs) :
    Remembers (m.run rs) (form.run rs) := by
  induction rs generalizing form m with
  | nil => exact h
  | cons r rest ih => exact ih (h.after hrs.1) hrs.2

/-- What is shown agrees with the values also after calls that return. -/
theorem Agrees.after_returns (h : form.Agrees) (hreachable : Reachable d form) {r : Request}
    (hr : r.Returns form) : (form.after r).Agrees := by
  cases r with
  | setValue key v => exact (Settled.setValue hreachable hr).agrees
  | setValues values => exact (Settled.setValues values hreachable hr).agrees
  | reset initial => exact (Settled.reset initial hreachable hr).agrees
  | submit today => exact h.after rfl
  | subscribe once => exact h.after rfl
  | unsubscribe ticket => exact h.after rfl

theorem Agrees.run_returns (h : form.Agrees) (hreachable : Reachable d form) {rs : List Request}
    (hrs : form.Returns rs) : (form.run rs).Agrees := by
  induction rs generalizing form with
  | nil => exact h
  | cons r rest ih => exact ih (h.after_returns hreachable hrs.1) (hreachable.call r) hrs.2

theorem Fits.isVisible_eq (h : form.Fits d) {c : Control} (hc : c ∈ form.controls) :
    form.isVisible c.key = .ok c.visible := by
  rw [isVisible, control, h.control?_eq hc]
  rfl

/-- **Nothing comes back.** A control without a value has none after calls that do not give its key
one. -/
theorem run_stays_null {rs : List Request} (hrs : form.Returns rs) :
    List.Forall₂ (fun c e => e.field = c.field ∧ (c.value = .null →
      (∀ r ∈ rs, ¬r.Gives c.key) → e.value = .null)) form.controls (form.run rs).controls := by
  induction rs generalizing form with
  | nil => exact List.forall₂_same.mpr fun c _ => ⟨rfl, fun hnull _ => hnull⟩
  | cons r rest ih =>
    refine forall₂_trans (after_written hrs.1) (ih hrs.2) fun c b e hcb hbe => ?_
    obtain ⟨hfield, hvalue⟩ := hcb
    refine ⟨hbe.1.trans hfield, fun hnull hgives => ?_⟩
    obtain ⟨hr, hrest⟩ := List.forall_mem_cons.mp hgives
    have hb : b.value = .null := by
      rcases hvalue with hwritten | ⟨-, hlost⟩
      · exact hwritten.trans ((Request.written_of_not_gives hr).trans hnull)
      · exact hlost
    have hkey : b.key = c.key := congrArg Field.key hfield
    exact hbe.2 hb (hkey ▸ hrest)

/-- **Recollection.** After a construction and any calls that return, each field holds the value
that it has been given last since it was built or reset, or null; one without conditions holds just
that value; and one that was hidden at some time holds null if no call since then has given its key
a value. -/
theorem values_recalled {initial : Record} (hb : (build d initial).2 = .ok form)
    {calls : List Request} (hreturns : form.Returns calls) :
    let m := Recollection.run { initial := initial } calls
    ∀ c ∈ (form.run calls).controls,
      (c.value = .null ∨ c.value = m.last c.field) ∧
      (c.field.hasConditions = false → c.value = m.last c.field) ∧
      ∀ before after, calls = before ++ after → (∀ r ∈ after, ¬r.Gives c.key) →
        (form.run before).isVisible c.key = .ok false → c.value = .null := by
  intro m c hc
  have hrecalls := ((remembers_of_build hb).run hreturns).recalls c hc
  refine ⟨hrecalls.symm.imp_left And.right, fun hno => ?_, ?_⟩
  · rcases hrecalls with hvalue | ⟨hconditions, -⟩
    · exact hvalue
    · rw [hno] at hconditions
      cases hconditions
  -- once hidden, the control has no value, and nothing brings one back
  · rintro before after rfl hgives hhidden
    obtain ⟨hbefore, hafter⟩ := returns_append.mp hreturns
    rw [run_append] at hc
    obtain ⟨c₀, hc₀, hfield, hstays⟩ := exists_of_forall₂ (run_stays_null hafter) hc
    have hkey : c.key = c₀.key := congrArg Field.key hfield
    have hreachable : Reachable d form := .build hb
    have hnull : c₀.value = .null := by
      refine ((Settled.build hb).agrees.run_returns hreachable hbefore).cleared c₀ hc₀ ?_
      rw [hkey, (hreachable.run before).fits.isVisible_eq hc₀] at hhidden
      exact Except.ok.inj hhidden
    exact hstays hnull (hkey ▸ hgives)

/-- A field that is hidden and shown again has lost its value, also over a submission. -/
theorem values_recalled_branched :
    let hides : List Request := [.setValue "kind" (.text "y"), .submit ⟨2024, 1, 15⟩]
    let shows : List Request := [.setValue "kind" (.text "x")]
    ∃ form, (build branched [("kind", .text "x"), ("detail", .text "d")]).2 = .ok form ∧
      form.Returns (hides ++ shows) ∧
      ∃ c ∈ (form.run (hides ++ shows)).controls, c.key = "detail" ∧ c.visible = true ∧
        c.value = .null := by
  intro hides shows
  have hrun : (build branched [("kind", .text "x"), ("detail", .text "d")]).2.toOption.any
      (fun form =>
      (form.setValue "kind" (.text "y")).result.isOk &&
        ((form.run hides).setValue "kind" (.text "x")).result.isOk &&
        decide (((form.run hides).isVisible "detail").toOption = some false) &&
        (form.run (hides ++ shows)).controls.any fun c =>
          decide (c.key = "detail") && c.visible) = true := by
    cbv
  obtain ⟨form, hb, hp⟩ := exists_of_build hrun
  simp only [Bool.and_eq_true, decide_eq_true_eq] at hp
  obtain ⟨⟨⟨hfirst, hlast⟩, hhidden⟩, hshown⟩ := hp
  have hreturns : form.Returns (hides ++ shows) :=
    ⟨result_of_isOk hfirst, trivial, result_of_isOk hlast, trivial⟩
  obtain ⟨c, hc, hc'⟩ := List.any_eq_true.mp hshown
  obtain ⟨hkey, hvisible⟩ := Bool.and_eq_true_iff.mp hc'
  have hkey : c.key = "detail" := of_decide_eq_true hkey
  refine ⟨form, hb, hreturns, c, hc, hkey, hvisible, ?_⟩
  refine (values_recalled hb hreturns c hc).2.2 hides shows rfl ?_ ?_
  · rw [hkey]
    refine List.forall_mem_singleton.mpr ?_
    simp [Request.Gives, Request.given, Record.keys]
  · rw [hkey]
    exact eq_ok_of_toOption hhidden

end Form

end DynamicForm

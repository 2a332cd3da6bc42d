import DynamicForm.Proofs.Editor.Listeners
import DynamicForm.Proofs.Editor.Reachable
import DynamicForm.Proofs.Form.Influence
import DynamicForm.Proofs.Form.Renewal
import DynamicForm.Proofs.Listening.Replay

/-!
# Listening to forms and editors

Forms and editors notify their listeners in the same way. What listeners have to be told is what has
been asked for: the keys that are set in a form, if the call returns, and what is edited in an editor,
if the command is carried out and finds anything to do. A submission and an identity that comes from
the storage are nobody's business.

The listeners of a form find what is shown in agreement with the values. There is one way around this:
a listener can set values whose refresh is ended by a fault, and keep this to itself. Values have been
set by then, and what is shown has not been brought into agreement with them; whoever is called next
finds it like that.

- `Form.subject` and `Editor.subject` are the operations of a form and of an editor.
- `Form.subject_lawful` and `Editor.subject_lawful`: they notify all listeners of what is owed to them,
  and nobody when nothing is.
- `Form.subject_upholds`: calls establish the agreement of what is shown with the values before they
  notify anyone.
- `Listening.heard_in_order`: so whatever listeners do, notifications are complete, nobody leaves
  but who is unsubscribed, and the listeners of a form find it in agreement unless a call has been cut
  short.
- `Listening.not_found_meddling`: a listener that is called after such a call does not.
-/

namespace DynamicForm

open Listening

/-- It is enough to know some state with which a call notifies whom it owes a notification. -/
theorem Listening.Subject.act_eq_of {σ α ν : Type} {p : Subject σ α ν} {s t : σ} {a : α}
    (hwith : ∀ s l l', p.withListeners (p.withListeners s l) l' = p.withListeners s l')
    (h : p.act s a = p.notified t (p.owed? s a) (p.listeners s)) :
    p.act s a = p.notified (p.reached s a) (p.owed? s a) (p.listeners s) := by
  rw [h, Subject.reached, h]
  cases p.owed? s a <;> simp only [Subject.notified, hwith]

/-! ## Forms -/

/-- The form with other listeners. -/
def Form.withListeners (form : Form) (l : Subscribers) : Form := { form with listeners := l }

/-- The outcome without its answer. -/
def Outcome.void {α : Type} (o : Outcome α) : Outcome Unit where
  form := o.form
  result := o.result.map fun _ => ()
  notices := o.notices
  calls := o.calls

/-- What the operation leaves, and whom it tells what. -/
def Outcome.heard {α : Type} (o : Outcome α) : Form × List (Nat × List String) :=
  (o.form, o.calls.map fun c => (c.ticket, c.changed))

/-- The operation is ended early by a fault. -/
def Outcome.isCut {α : Type} (o : Outcome α) : Bool :=
  match o.result with
  | .error (.fault _) => true
  | _ => false

/-- What listeners have to be told of an operation that sets these keys: the keys, if it returns. -/
def Outcome.owed? {α : Type} (o : Outcome α) (changed : List String) : Option (List String) :=
  match o.result with
  | .ok _ => some changed
  | .error _ => none

/-- Nothing is owed of an operation that does not return. -/
theorem Outcome.result_of_owed {o : Outcome Unit} {changed told : List String}
    (h : o.owed? changed = some told) : o.result = .ok () := by
  unfold Outcome.owed? at h
  split at h
  · next hok => exact hok
  · cases h

namespace Form

/-- A call of a form by which listeners do not come or go. -/
inductive Act where
  | setValue (key : String) (v : Value)
  | setValues (values : Record)
  | submit (today : Date)
  | reset (initial : Option Record)

/-- Carries out a call. -/
def perform (form : Form) : Act → Outcome Unit
  | .setValue key v => form.setValue key v
  | .setValues values => form.setValues values
  | .submit today => (form.submit today).void
  | .reset initial => form.reset initial

/-- What listeners have to be told of a call. A submission sets nothing. -/
def owed? (form : Form) (a : Act) : Option (List String) :=
  match a with
  | .setValue key _ => (form.perform a).owed? [key]
  | .setValues values => (form.perform a).owed? values.keys
  | .submit _ => none
  | .reset _ => (form.perform a).owed? form.keys

/-- A form as something that has listeners. They are told which keys have been set. -/
def subject : Subject Form Act (List String) where
  listeners := listeners
  withListeners := withListeners
  subscribe form := form.subscribe false
  unsubscribe := unsubscribe
  act form a := (form.perform a).heard
  owed? := owed?
  isCut form a := (form.perform a).isCut

variable {d : Definition} {form : Form}

/-! ### Who is told what

A refresh that comes to its end calls everyone, and one that a fault ends calls nobody. -/

theorem settle_heard (form : Form) (cs : List Control) (changed : List String) :
    ∃ after, (form.settle cs changed).heard =
      subject.notified after ((form.settle cs changed).owed? changed) form.listeners := by
  rcases hs : Control.settle cs with ⟨settled, _ | e⟩
  · refine ⟨{ form with controls := settled }, ?_⟩
    rw [settle, hs]
    exact Prod.ext rfl (List.map_map ..)
  · refine ⟨{ form with controls := settled }, ?_⟩
    rw [settle, hs]
    rfl

theorem submit_calls (today : Date) (form : Form) : (form.submit today).calls = [] := by
  unfold submit
  dsimp only
  split <;> rfl

/-- Nobody is told of values for a key that there is not. -/
theorem setValues_heard (form : Form) (values : Record) :
    ∃ after, (form.setValues values).heard =
      subject.notified after ((form.setValues values).owed? values.keys) form.listeners := by
  rcases setValues_cases form values with ⟨key, -, heq⟩ | heq
  · exact ⟨form, by rw [heq]; rfl⟩
  · rw [heq]
    exact settle_heard ..

theorem perform_heard (form : Form) (a : Act) :
    ∃ after, subject.act form a = subject.notified after (subject.owed? form a) form.listeners := by
  cases a with
  | setValue key v => exact form.setValues_heard [(key, v)]
  | setValues values => exact form.setValues_heard values
  | submit today =>
    refine ⟨{ form with controls := form.controls.map Control.touch }, ?_⟩
    refine Prod.ext (form.submit_form today) ?_
    exact congrArg (List.map _) (form.submit_calls today)
  | reset initial =>
    exact settle_heard { form with initialValues := initial.getD form.initialValues } _ form.keys

/-- **Forms** notify all listeners of the keys that are set, and nobody when none are. -/
theorem subject_lawful : subject.Lawful where
  listeners_with _ _ := rfl
  with_listeners _ := rfl
  with_with _ _ _ := rfl
  subscribe_eq _ := rfl
  unsubscribe_eq _ _ := rfl
  act_eq form a := by
    obtain ⟨after, h⟩ := form.perform_heard a
    exact Subject.act_eq_of (fun _ _ _ => rfl) h

/-! ### What listeners find -/

/-- A call as one that a form is asked for. -/
def Act.request : Act → Request
  | .setValue key v => .setValue key v
  | .setValues values => .setValues values
  | .submit today => .submit today
  | .reset initial => .reset initial

theorem perform_form (form : Form) (a : Act) : (form.perform a).form = form.after a.request := by
  cases a <;> rfl

/-- A refresh has come to its end if no fault has ended it. -/
theorem settle_returns {cs : List Control} {changed : List String}
    (h : (form.settle cs changed).isCut = false) : (form.settle cs changed).result = .ok () := by
  rcases hs : Control.settle cs with ⟨settled, _ | e⟩
  · rw [settle, hs]
  · rw [settle, hs] at h
    cases h

/-- The form agrees with itself after values have been set, and it still does when they are refused
because of a key. -/
theorem Fits.setValues_agrees (h : form.Fits d) {values : Record}
    (hcase : (form.setValues values).result = .ok () ∨
      form.Agrees ∧ (form.setValues values).isCut = false) :
    (form.setValues values).form.Agrees := by
  have hfits := h.setValues values
  rcases setValues_cases form values with ⟨key, -, heq⟩ | heq
  · rw [heq] at hcase ⊢
    rcases hcase with hok | ⟨hagrees, -⟩
    · cases hok
    · exact hagrees
  · rw [heq] at hcase hfits ⊢
    exact hfits.agrees_settle (hcase.elim id fun huncut => settle_returns huncut.2)

/-- The form agrees with itself after a call that listeners have to be told of, and it still does
after one that no fault ends. -/
theorem Fits.perform_agrees (h : form.Fits d) {a : Act}
    (hcase : (∃ told, form.owed? a = some told) ∨
      form.Agrees ∧ (form.perform a).isCut = false) :
    (form.perform a).form.Agrees := by
  cases a with
  | setValue key v =>
    exact h.setValues_agrees (hcase.imp_left fun ⟨_, howed⟩ => Outcome.result_of_owed howed)
  | setValues values =>
    exact h.setValues_agrees (hcase.imp_left fun ⟨_, howed⟩ => Outcome.result_of_owed howed)
  | submit today =>
    rcases hcase with ⟨_, howed⟩ | ⟨hagrees, -⟩
    · cases howed
    · exact form.perform_form (.submit today) ▸ hagrees.after rfl
  | reset initial =>
    refine (h.reset initial).agrees_settle ?_
    rcases hcase with ⟨_, howed⟩ | ⟨-, huncut⟩
    · exact Outcome.result_of_owed howed
    · exact settle_returns huncut

/-- **What is shown** agrees with the values when listeners are called. -/
theorem subject_upholds (d : Definition) : subject.Upholds (Fits d) Agrees where
  keeps {form} a h := by
    have hfits := h.after a.request
    rw [← perform_form] at hfits
    exact ⟨hfits.definition, hfits.serves⟩
  told {form a n} h howed := by
    have hagrees := h.perform_agrees (.inl ⟨n, howed⟩)
    exact ⟨hagrees.shown, hagrees.cleared⟩
  uncut {form a} h hagrees hcut := by
    have hafter := h.perform_agrees (.inr ⟨hagrees, hcut⟩)
    exact ⟨hafter.shown, hafter.cleared⟩
  keeps_with l h := ⟨h.definition, h.serves⟩
  with_listeners l h := ⟨h.shown, h.cleared⟩

/-- Tickets are different in every form that can be reached. -/
theorem Reachable.sound_listeners (h : Reachable d form) : form.listeners.Sound := by
  induction h with
  | build hb =>
    obtain ⟨cs, settled, -, -, rfl⟩ := build_ok hb
    exact .start
  | @call form r _ ih =>
    cases r with
    | setValue key v => exact subject_lawful.sound_act ih (.setValue key v)
    | setValues values => exact subject_lawful.sound_act ih (.setValues values)
    | submit today => exact subject_lawful.sound_act ih (.submit today)
    | reset initial => exact subject_lawful.sound_act ih (.reset initial)
    | subscribe once => exact ih.subscribe fun t => if once then [t] else []
    | unsubscribe ticket => exact ih.unsubscribe ticket

end Form

/-! ## Editors -/

/-- What the edit leaves, and whom it tells what. -/
def Edit.heard {α : Type} (edit : Edit α) : Editor × List (Nat × Reason) :=
  (edit.editor, edit.calls.map fun c => (c.ticket, c.reason))

namespace Editor

/-- A call of an editor by which listeners do not come or go. -/
inductive Act where
  | perform (c : Command)
  | applySaved (saved : Definition)

/-- What listeners have to be told of a call. An identity that comes from the storage is no edit. -/
def owed? (e : Editor) : Act → Option Reason
  | .perform c => (e.perform c).owed? (c.reason? e)
  | .applySaved _ => none

/-- An editor as something that has listeners. They are told what has been edited. -/
def subject : Subject Editor Act Reason where
  listeners := listeners
  withListeners := withListeners
  subscribe e := e.subscribe false
  unsubscribe := unsubscribe
  act e
    | .perform c => (e.perform c).heard
    | .applySaved saved => ((e.applySaved saved).1, [])
  owed? := owed?
  isCut _ _ := false

variable {d : Definition} {e : Editor}

/-- However a command ends, it tells everyone what they are owed. -/
theorem Ends.heard {α : Type} {c : Command} {edit : Edit α} (h : e.Ends c edit) :
    ∃ after, edit.heard = subject.notified after (edit.owed? (c.reason? e)) e.listeners := by
  cases h with
  | refused error => exact ⟨e, rfl⟩
  | idle untold a =>
    refine ⟨e, ?_⟩
    rw [untold]
    rfl
  | @changed e' revises reason told a notices =>
    refine ⟨e', ?_⟩
    rw [told, ← revises.listeners_eq]
    exact Prod.ext rfl (List.map_map ..)
  | @stopped e' leaves error =>
    refine ⟨e', ?_⟩
    rw [← (revises_of_leaves leaves).listeners_eq]
    rfl

/-- **Editors** notify all listeners of what is edited, and nobody when nothing is. -/
theorem subject_lawful : subject.Lawful where
  listeners_with _ _ := rfl
  with_listeners _ := rfl
  with_with _ _ _ := rfl
  subscribe_eq _ := rfl
  unsubscribe_eq _ _ := rfl
  act_eq e a := by
    cases a with
    | perform c =>
      obtain ⟨after, h⟩ := (perform_ends e c).heard
      exact Subject.act_eq_of (fun _ _ _ => rfl) h
    | applySaved saved =>
      have hsaved : subject.act e (.applySaved saved) =
          subject.notified (e.applySaved saved).1 none e.listeners := by
        refine Prod.ext ?_ rfl
        change (e.applySaved saved).1 = { (e.applySaved saved).1 with listeners := e.listeners }
        rw [applySaved_editor]
      exact Subject.act_eq_of (fun _ _ _ => rfl) hsaved

/-- Tickets are different in every editor that can be reached. -/
theorem Reachable.sound_listeners (h : Reachable d e) : e.listeners.Sound := by
  induction h with
  | load locked => exact .start
  | @call e r _ ih =>
    cases r with
    | perform c => exact subject_lawful.sound_act ih (.perform c)
    | applySaved saved => exact subject_lawful.sound_act ih (.applySaved saved)
    | subscribe once => exact ih.subscribe fun t => if once then [t] else []
    | unsubscribe ticket => exact ih.unsubscribe ticket

end Editor

/-! ## In order -/

namespace Listening

/-- **Listening.** Whatever is done with a form that has been built or with an editor, by listeners
or by anyone else: of every call that they have to be told of, exactly those are told who are
subscribed when the notification begins, once each and in the order of their subscription; who
unsubscribes is taken out alone, and nothing happens the next time; and listeners of a form find that
what is shown agrees with the values, unless a call has been cut short by a fault, which none has when
the first of them is called. What forms and editors do by themselves, with listeners that unsubscribe
when they are called, is a course like any other. -/
theorem heard_in_order (d : Definition) :
    (∀ initial form, (Form.build d initial).2 = .ok form → ∀ course : Course Form.Act,
      let r := course.perform Form.subject { state := form }
      r.Orderly Form.subject ∧ r.Finds Form.Agrees) ∧
    (∀ locked, ∀ course : Course Editor.Act,
      (course.perform Editor.subject
        { state := { Editor.load d with locked := locked } }).Orderly Editor.subject) ∧
    (∀ form, Form.Reachable d form → ∀ a, Form.subject.act form a = Form.subject.replay form a) ∧
    ∀ e, Editor.Reachable d e → ∀ a, Editor.subject.act e a = Editor.subject.replay e a := by
  refine ⟨fun initial form hb course => ?_, fun locked course => ?_, fun form hform a => ?_,
    fun e he a => ?_⟩
  · have hnobody : form.listeners = {} := by
      obtain ⟨cs, settled, -, -, rfl⟩ := Form.build_ok hb
      rfl
    -- a form that has just been built agrees with itself, and nobody has been told of anything
    have hbegun : Account.Stands (Form.Fits d) Form.Agrees
        ({ state := form } : Account Form (List String)) :=
      ⟨Form.fits_of_build hb, nofun, fun _ => (Form.Settled.build hb).agrees⟩
    exact ⟨(course.perform_kept Form.subject_lawful (.start hnobody)).orderly,
      (course.perform_stands Form.subject_lawful (Form.subject_upholds d) hbegun).finds⟩
  · exact (course.perform_kept Editor.subject_lawful (.start rfl)).orderly
  · exact Subject.act_eq_replay Form.subject_lawful hform.sound_listeners a
  · exact Subject.act_eq_replay Editor.subject_lawful he.sound_listeners a

/-- A field that is shown if another one has been filled in. -/
def inquiry : Definition where
  key := "inquiry"
  fields := [
    { id := "1", type := .text, key := "name" },
    { id := "2", type := .text, key := "reason", order := 1
      conditions := some [{ fieldKey := "name", operator := .isNotEmpty }] }]

/-- Of three listeners the first unsubscribes itself and the second one and brings in another, the
second clears the field, and the third unsubscribes the first once more. -/
def quarrel : Nat → Course Form.Act
  | 0 => .unsubscribe 0 (.unsubscribe 1 (.subscribe .done))
  | 1 => .call (.setValue "name" (.text "")) (fun _ => .done) .done
  | _ => .unsubscribe 0 .done

/-- The three listeners are called, and then everyone who is left. -/
def gathering : Course Form.Act :=
  .subscribe (.subscribe (.subscribe (.call (.setValue "name" (.text "x")) quarrel
    (.unsubscribe 1 (.call (.reset none) (fun _ => .done) .done)))))

/-- The first of two listeners unsubscribes the second one and brings in another. -/
def handover : Nat → Course Editor.Act
  | 0 => .unsubscribe 1 (.subscribe .done)
  | _ => .done

/-- A field is generated while two listeners hand over, and moved at the end; in between there is
nothing to delete, and an edit is refused. -/
def revising : Course Editor.Act :=
  .subscribe (.subscribe (.call (.perform (.addField (.text "text"))) handover
    (.call (.perform (.removeCondition 0 0)) (fun _ => .done)
      (.call (.perform (.deleteField 7)) (fun _ => .done)
        (.call (.perform (.reorderField 2 0)) (fun _ => .done) .done)))))

/-- Who is called and what is shown then, in a notification inside another one, in this one, and in
the last; who is told what of edits; and that an editor calls its listeners. -/
theorem heard_in_order_gathering :
    (∃ form, (Form.build inquiry []).2 = .ok form ∧
      let r := gathering.perform Form.subject { state := form }
      r.rounds.map (fun n => n.calls.map fun c => (c.ticket, c.cut, c.state.visibleKeys)) =
        [[(2, false, ["name"]), (3, false, ["name"])],
          [(0, false, ["name", "reason"]), (1, false, ["name", "reason"]), (2, false, ["name"])],
          [(2, false, ["name"]), (3, false, ["name"])]] ∧
      r.Orderly Form.subject ∧ r.Finds Form.Agrees) ∧
    (let r := revising.perform Editor.subject { state := Editor.load Editor.survey }
     r.rounds.map (fun n => (n.told, n.calls.map Hearing.ticket)) =
       [(.addField, [0, 1]), (.reorderField, [0, 2])] ∧ r.Orderly Editor.subject) ∧
    (let e := (Editor.load Editor.survey).run [.subscribe true, .subscribe false]
     (Editor.subject.act e (.perform (.addField (.text "text")))).2 =
       [(0, .addField), (1, .addField)]) := by
  have hrun : (Form.build inquiry []).2.toOption.any (fun form =>
      let r := gathering.perform Form.subject { state := form }
      decide (r.rounds.map (fun n => n.calls.map fun c => (c.ticket, c.cut, c.state.visibleKeys)) =
        [[(2, false, ["name"]), (3, false, ["name"])],
          [(0, false, ["name", "reason"]), (1, false, ["name", "reason"]), (2, false, ["name"])],
          [(2, false, ["name"]), (3, false, ["name"])]])) = true := by
    cbv
  obtain ⟨form, hb, hrounds⟩ := Form.exists_of_build hrun
  obtain ⟨horderly, hfinds⟩ := (heard_in_order inquiry).1 [] form hb gathering
  obtain ⟨-, hedits, -, hreplay⟩ := heard_in_order Editor.survey
  have hreachable : Editor.Reachable Editor.survey
      ((Editor.load Editor.survey).run [.subscribe true, .subscribe false]) :=
    (Editor.Reachable.load []).run [.subscribe true, .subscribe false]
  refine ⟨⟨form, hb, of_decide_eq_true hrounds, horderly, hfinds⟩, ⟨by cbv, hedits [] revising⟩, ?_⟩
  exact (congrArg Prod.snd (hreplay _ hreachable _)).trans (by cbv)

/-! ### Meddling

The claim about what listeners find cannot do without its condition. In this form the fault comes after
the second field has been hidden and before the third one has been looked at again, which therefore
stays shown for a value that is gone. Nobody is told of that, and the notification that is going on
calls its next listener. -/

/-- What the first listener sets: the second field is hidden by it, and the third one cannot compare
the integer. -/
def provocation : Record := [("paid", .text "no"), ("amount", .int (10 ^ 309))]

/-- The first of two listeners sets values whose refresh a fault ends. The second one does nothing. -/
def meddling : Nat → Course Form.Act
  | 0 => .call (.setValues provocation) (fun _ => .done) .done
  | _ => .done

/-- Two listeners are told of a reset. -/
def meeting : Course Form.Act := .subscribe (.subscribe (.call (.reset none) meddling .done))

/-- What the fault leaves: the last field is shown, though its condition does not hold. -/
theorem not_agrees_provocation {form : Form} (h : form.Fits Form.expenses)
    (hshown : ∀ c ∈ form.controls, c.visible = true) :
    ¬(Form.subject.reached form (.setValues provocation)).Agrees := by
  intro hagrees
  obtain ⟨p, s, r, hr, hfield, hcontrols, hvalues⟩ :=
    h.setValues_expenses (n := 10 ^ 309) (by decide +kernel)
  have hvisible : (form.setValues provocation).form.controls = [p, s, r] := hcontrols
  have hholds : r.field.isShown (form.setValues provocation).form.values = .ok r.visible :=
    hagrees.shown r (by change r ∈ (form.setValues provocation).form.controls; simp [hvisible])
  rw [hfield, Form.values, hvisible, hvalues, hshown r hr] at hholds
  cases hholds

/-- **Finding what a fault has left.** The second listener is called after the first one has set
values, and finds a field that is shown although its condition does not hold. -/
theorem not_found_meddling :
    ∃ form, (Form.build Form.expenses [("paid", .text "yes"), ("amount", .text "0")]).2 = .ok form ∧
      ∃ n ∈ (meeting.perform Form.subject { state := form }).rounds, ∃ c ∈ n.calls,
        c.ticket = 1 ∧ ¬c.state.Agrees := by
  have hbuild : (Form.build Form.expenses
      [("paid", .text "yes"), ("amount", .text "0")]).2.toOption.any (fun form =>
        let joined := (Form.subject.subscribe (Form.subject.subscribe form).2).2
        decide (Form.subject.tickets joined = [0, 1]) &&
          (Form.subject.owed? joined (.reset none)).isSome &&
          (Form.subject.reached joined (.reset none)).controls.all fun c => c.visible) = true := by
    cbv
  obtain ⟨form, hb, hform⟩ := Form.exists_of_build hbuild
  have hupholds := Form.subject_upholds Form.expenses
  have hfits : (Form.subject.subscribe (Form.subject.subscribe form).2).2.Fits Form.expenses :=
    hupholds.keeps_with _ (hupholds.keeps_with _ (Form.fits_of_build hb))
  refine ⟨form, hb, ?_⟩
  simp only [meeting, Course.perform, Account.subscribe]
  generalize (Form.subject.subscribe (Form.subject.subscribe form).2).2 = joined at hform hfits
  simp only [Bool.and_eq_true, decide_eq_true_eq, List.all_eq_true] at hform
  obtain ⟨⟨htickets, howed⟩, hshown⟩ := hform
  obtain ⟨told, htold⟩ := Option.isSome_iff_exists.mp howed
  -- the first listener finds the form after the reset, and leaves it in disagreement
  have hreset := hupholds.keeps (.reset none) hfits
  have hleft := not_agrees_provocation hreset hshown
  -- nobody has to be told of that, because those who are told find agreement
  have huntold : Form.subject.owed? (Form.subject.reached joined (.reset none))
      (.setValues provocation) = none :=
    Option.eq_none_iff_forall_ne_some.mpr fun n hn => hleft (hupholds.told hreset hn)
  simp only [htold, htickets, callEach, meddling, Course.perform, Account.reach, huntold]
  exact ⟨_, List.mem_singleton_self _, _, List.mem_cons_of_mem _ (List.mem_singleton_self _), rfl,
    hleft⟩

end Listening

end DynamicForm

import DynamicForm.Proofs.Editor.Reachable
import DynamicForm.Proofs.Subscribers

/-!
# What listeners are told of edits

An edit that changes anything ends with a call of every listener, and one that is refused changes
nothing and calls nobody. There is one way around this: when several attributes of a field or of a
condition are changed at once and one of the values cannot be stored, those before it stay, and
nobody is told.

The notion does not mention how an edit is carried out. It compares the editor before with the
editor after, and the calls that were made with those who were listening.

- `Edit.Whole` holds of an edit that is made and announced, or else refused as a whole.
- `Editor.perform_whole`: every edit is whole unless it stops at a change after others have been made.
- `Editor.not_whole_halfway`: such an edit is not.
- `Editor.perform_listeners`: an edit takes out nobody but by calling listeners that do. In a
  reachable editor these know only tickets handed out before, by `Editor.Reachable.issued`, so that
  they leave alone who comes later.
-/

namespace DynamicForm

namespace Edit

variable {α : Type}

/-- The edit ends with a call of every listener of the editor that it began with, in the order of
their subscription and once each. All that it changes has been changed by then. -/
structure Announced (e : Editor) (edit : Edit α) : Prop where
  last : ∃ (e' : Editor) (reason : Reason) (a : α) (notices : List Notice),
    e'.listeners = e.listeners ∧ edit = e'.changed reason a notices
  calls : ∃ reason, edit.calls = e.listeners.active.map fun l => ⟨l.ticket, reason⟩

/-- An edit that returns has changed nothing and called nobody, or it has been announced. One that is
refused has changed nothing and called nobody. -/
def Whole (e : Editor) (edit : Edit α) : Prop :=
  match edit.result with
  | .ok _ => edit.editor = e ∧ edit.calls = [] ∨ edit.Announced e
  | .error _ => edit.editor = e ∧ edit.calls = []

/-- The edit is refused at a change after others have been made. These stay, and nobody is called. -/
structure Stopped (e : Editor) (c : Command) (edit : Edit α) : Prop where
  refused : ∃ error, edit.result = .error error
  leaves : c.Leaves e edit.editor
  silent : edit.calls = []

end Edit

namespace Editor

variable {α : Type} {e e' : Editor}

/-- The end of an edit of an editor whose listeners are still those of the beginning. -/
theorem announced_changed (h : e'.listeners = e.listeners) (reason : Reason) (a : α)
    (notices : List Notice) : (e'.changed reason a notices).Announced e where
  last := ⟨e', reason, a, notices, h, rfl⟩
  calls := by
    refine ⟨reason, ?_⟩
    change e'.listeners.notify.1.map _ = _
    rw [Subscribers.notify_fst, h, List.map_map]
    rfl

/-- Everyone is called who listens when the edit begins, and told what has been edited, or nobody is
when there is nothing to tell. -/
theorem Ends.calls_eq {c : Command} {edit : Edit α} (h : e.Ends c edit) :
    edit.calls = (edit.owed? (c.reason? e)).elim [] fun reason =>
      e.listeners.active.map fun l => ⟨l.ticket, reason⟩ := by
  cases h with
  | refused error => rfl
  | idle untold a =>
    rw [untold]
    rfl
  | @changed e' revises reason told a notices =>
    rw [told, ← revises.listeners_eq]
    change e'.listeners.notify.1.map _ = e'.listeners.active.map _
    rw [Subscribers.notify_fst, List.map_map]
    rfl
  | stopped leaves error => rfl

theorem Ends.whole {c : Command} {edit : Edit α} (h : e.Ends c edit) :
    edit.Whole e ∨ edit.Stopped e c := by
  cases h with
  | refused error => exact .inl ⟨rfl, rfl⟩
  | idle untold a => exact .inl (.inl ⟨rfl, rfl⟩)
  | @changed e' revises reason told a notices =>
    exact .inl (.inr (announced_changed revises.listeners_eq reason a notices))
  | stopped leaves error => exact .inr ⟨⟨error, rfl⟩, leaves, rfl⟩

/-- **Edits as a whole.** Every edit of any editor is announced to every listener if it changes
anything, or it is refused and changes nothing, unless it stops at a change after others have been
made. -/
theorem perform_whole (e : Editor) (c : Command) :
    (e.perform c).Whole e ∨ (e.perform c).Stopped e c :=
  (perform_ends e c).whole

/-- A change of a label that is made, and then one that is not. -/
def relabelling : Command := .updateField 0 [("label", .text "x"), ("required", .text "maybe")]

/-- **An edit by halves.** The label is changed although the edit is refused, and the listener is not
told. -/
theorem not_whole_halfway :
    ∃ e, Reachable survey e ∧ e.listeners.active.length = 1 ∧ ¬(e.perform relabelling).Whole e ∧
      (e.perform relabelling).result.isOk = false ∧ (e.perform relabelling).calls = [] ∧
      e.fields.map Field.label = ["", ""] ∧
      (e.perform relabelling).editor.fields.map Field.label = ["x", ""] := by
  have hr : Reachable survey ((load survey).run [.subscribe false]) :=
    (Reachable.load []).run [.subscribe false]
  have hbefore : ((load survey).run [.subscribe false]).fields.map Field.label = ["", ""] := by cbv
  have hafter : (((load survey).run [.subscribe false]).perform relabelling).editor.fields.map
      Field.label = ["x", ""] := by cbv
  have hrefused : (((load survey).run [.subscribe false]).perform relabelling).result.isOk =
      false := by cbv
  refine ⟨_, hr, by cbv, fun hwhole => ?_, hrefused, by cbv, hbefore, hafter⟩
  unfold Edit.Whole at hwhole
  split at hwhole
  · next hok =>
    rw [hok] at hrefused
    cases hrefused
  · rw [hwhole.1, hbefore] at hafter
    simp at hafter

/-! ## Who listens afterwards

Listeners can take themselves out while they are called, and take others with them. That is the only
way in which an edit touches the table. -/

/-- The listeners after an edit are those before it, or those whom a notification leaves. -/
theorem perform_listeners (e : Editor) (c : Command) :
    (e.perform c).editor.listeners = e.listeners ∨
      (e.perform c).editor.listeners = e.listeners.notify.2 := by
  have h := perform_ends e c
  generalize e.perform c = edit at h
  cases h with
  | refused error => exact .inl rfl
  | idle untold a => exact .inl rfl
  | changed revises told a notices =>
    exact .inr (congrArg (fun l => l.notify.2) revises.listeners_eq)
  | stopped leaves error => exact .inl (revises_of_leaves leaves).listeners_eq

/-- Whom no listener takes out is still there after an edit. -/
theorem stays_perform {t : Nat} (h : e.listeners.Stays t) (c : Command) :
    (e.perform c).editor.listeners.Stays t := by
  rcases e.perform_listeners c with heq | heq
  · exact heq ▸ h
  · exact heq ▸ h.notify

/-- The listeners of a reachable editor take out tickets only that have been handed out. -/
theorem Reachable.issued {d : Definition} (h : Reachable d e) : e.listeners.Issued := by
  induction h with
  | load locked => exact nofun
  | @call e r _ ih =>
    cases r with
    | perform c =>
      rcases e.perform_listeners c with heq | heq
      · exact (congrArg Subscribers.Issued heq).mpr ih
      · exact (congrArg Subscribers.Issued heq).mpr ih.notify
    | applySaved saved =>
      rw [after, applySaved_editor]
      exact ih
    -- a listener that is called once takes out the ticket that it has just been given
    | subscribe once =>
      change (e.listeners.subscribe fun t => if once then [t] else []).2.Issued
      refine ih.subscribe fun t ht => ?_
      cases once with
      | false => exact absurd ht List.not_mem_nil
      | true => exact List.mem_singleton.mp ht ▸ Nat.lt_succ_self _
    | unsubscribe ticket => exact ih.filter _

end Editor

end DynamicForm

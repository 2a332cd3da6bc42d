import DynamicForm.Proofs.Editor.Generation
import DynamicForm.Proofs.Editor.Revision
import DynamicForm.Proofs.Editor.Snapshot

/-!
# Reachable editors

An editor starts with a definition, or with an empty one, and then is only called. `Editor.Reachable`
holds of what any calls leave behind, those included that are refused or that stop on the way.

- `Editor.Reachable.numbered`: the fields of a reachable editor are numbered in the order in which
  they stand.
- `Editor.Reachable.tidy`: no two of them have the same identity, if none in the definition have.
- `Editor.Reachable.in_order`: so a definition that is taken from it shows the fields in that order,
  and an editor that starts with that definition has the same fields again.
-/

namespace DynamicForm.Editor

variable {d s : Definition} {e e' : Editor}

/-- A call of an editor that may change it. -/
inductive Request where
  | perform (c : Command)
  | applySaved (saved : Definition)
  | subscribe (once : Bool)
  | unsubscribe (ticket : Nat)

/-- The editor that a call leaves behind. -/
def after (e : Editor) : Request → Editor
  | .perform c => (e.perform c).editor
  | .applySaved saved => (e.applySaved saved).1
  | .subscribe once => (e.subscribe once).2
  | .unsubscribe ticket => e.unsubscribe ticket

/-- What a definition and any calls leave behind, whatever attributes are locked. -/
inductive Reachable (d : Definition) : Editor → Prop where
  | load (locked : List String) : Reachable d { load d with locked := locked }
  | call {e : Editor} (r : Request) : Reachable d e → Reachable d (e.after r)

/-- The editor that several calls leave behind. -/
def run (e : Editor) (rs : List Request) : Editor := rs.foldl after e

/-- Reachability is closed under whole courses of calls. -/
theorem Reachable.run (h : Reachable d e) (rs : List Request) : Reachable d (e.run rs) := by
  induction rs generalizing e with
  | nil => exact h
  | cons r rest ih => exact ih (h.call r)

/-! ## Numbering

The number of a field is its position. Operations that move fields around restore this by numbering
all of them again, and the others rely on it: a field that is put at the end gets the length as its
number, which is right only if the numbers before are. -/

/-- The fields are numbered in the order in which they stand. -/
def Numbered (fields : List Field) : Prop :=
  ∀ n (h : n < fields.length), fields[n].order = n

theorem numbered_renumber (fields : List Field) : Numbered (renumber fields) := by
  intro n hn
  simp [renumber]

/-- Numbering fields again that are numbered changes nothing. -/
theorem renumber_eq_self {fields : List Field} (h : Numbered fields) : renumber fields = fields := by
  refine List.ext_getElem (by simp [renumber]) fun n hn hn' => ?_
  have horder := h n hn'
  simp only [renumber, List.getElem_mapIdx]
  exact congrArg (fun order => { fields[n] with order := order }) horder.symm

/-- Fields that are numbered stand in the order in which they are shown. -/
theorem sortedFields_eq_self (h : Numbered d.fields) : d.sortedFields = d.fields := by
  refine List.mergeSort_of_pairwise (List.pairwise_iff_getElem.mpr fun i j hi hj hlt => ?_)
  rw [h i hi, h j hj]
  exact decide_eq_true hlt.le

theorem ids_renumber (fields : List Field) : (renumber fields).map Field.id = fields.map Field.id := by
  refine List.ext_getElem (by simp [renumber]) fun n hn hn' => ?_
  simp [renumber]

/-! ## What holds of every reachable editor

Both properties go through the same five shapes of a revision. That the numbers are in order needs
no assumption about the definition, because an editor numbers the fields when it starts; that the
identities are distinct can only be kept, never brought about. -/

/-- The fields are numbered as they stand, and each has an identity of its own. -/
structure Tidy (e : Editor) : Prop where
  numbered : Numbered e.fields
  nodup_ids : (e.fields.map Field.id).Nodup

/-- Moving a field keeps all fields. -/
theorem perm_move (fields : List Field) {source target : Nat} (hs : source < fields.length)
    (ht : target < fields.length) : (move fields source target).Perm fields := by
  have hlength : target ≤ (fields.eraseIdx source).length := by
    rw [List.length_eraseIdx_of_lt hs]
    omega
  rw [move, List.getElem?_eq_getElem hs]
  exact (List.perm_insertIdx _ _ hlength).trans (List.getElem_cons_eraseIdx_perm hs)

/-- Whatever the order of the fields was, numbering makes it good. -/
theorem Tidy.renumber {fields : List Field} (h : (fields.map Field.id).Nodup)
    (he : e.fields = Editor.renumber fields) : e.Tidy where
  numbered := he ▸ numbered_renumber fields
  nodup_ids := by rwa [he, ids_renumber]

/-- A revision numbers the fields as they stand then; a new field gets the number after the last. -/
theorem Revises.numbered (hr : e.Revises e') (h : Numbered e.fields) : Numbered e'.fields := by
  cases hr with
  | metadata name key description => exact h
  -- the new field stands at the end and has the length as its number
  | append t =>
    intro n hn
    simp only [List.length_append, List.length_singleton] at hn
    rcases Nat.lt_succ_iff_lt_or_eq.mp hn with hlt | rfl
    · simp only [List.getElem_append_left hlt]
      exact h n hlt
    · simp only [List.getElem_concat_length rfl]
      rfl
  | erase n => exact numbered_renumber _
  | move source target hs ht => exact numbered_renumber _
  | @replace n f g hf hid horder =>
    obtain ⟨hn, rfl⟩ := List.getElem?_eq_some_iff.mp hf
    intro m hm
    simp only [setField, List.getElem_set]
    split
    · next heq =>
      subst heq
      exact horder.trans (h n hn)
    · exact h m _

/-- A revision keeps identities apart; a new field gets one in no use. -/
theorem Revises.nodup_ids (hr : e.Revises e') (h : (e.fields.map Field.id).Nodup) :
    (e'.fields.map Field.id).Nodup := by
  cases hr with
  | metadata name key description => exact h
  -- the new identity has been searched for among those in use
  | append t =>
    rw [List.map_append, List.nodup_append']
    refine ⟨h, List.nodup_singleton _, ?_⟩
    rw [List.map_singleton, List.disjoint_singleton]
    exact generatedId_nextNumber_notMem e t
  | erase n =>
    rw [ids_renumber]
    exact h.sublist ((List.eraseIdx_sublist ..).map Field.id)
  | move source target hs ht =>
    rw [ids_renumber]
    exact ((perm_move e.fields hs ht).map Field.id).nodup_iff.mpr h
  | @replace n f g hf hid horder =>
    obtain ⟨hn, rfl⟩ := List.getElem?_eq_some_iff.mp hf
    -- the field in place of the other has its identity, so the list of identities is the same
    have hids : (e.setField n g).fields.map Field.id = e.fields.map Field.id := by
      refine List.ext_getElem (by simp [setField]) fun m hm hm' => ?_
      simp only [setField, List.getElem_map, List.getElem_set]
      split
      · next heq =>
        subst heq
        exact hid
      · rfl
    rw [hids]
    exact h

/-- A call leaves the fields as they were or as a revision makes them, also when it is refused or
stops on the way. -/
theorem fields_after (e : Editor) (r : Request) :
    ∃ e', (e' = e ∨ e.Revises e') ∧ (e.after r).fields = e'.fields := by
  cases r with
  | perform c =>
    obtain ⟨e', listeners, hrevises, heq⟩ := perform_editor e c
    exact ⟨e', hrevises, by rw [after, heq]⟩
  | applySaved saved => exact ⟨e, .inl rfl, by rw [after, applySaved_editor]⟩
  | subscribe once => exact ⟨e, .inl rfl, rfl⟩
  | unsubscribe ticket => exact ⟨e, .inl rfl, rfl⟩

/-- A call that changes no fields keeps their numbers, and one that does is a revision. -/
theorem numbered_after (h : Numbered e.fields) (r : Request) : Numbered (e.after r).fields := by
  obtain ⟨e', rfl | hrevises, heq⟩ := e.fields_after r
  · exact heq ▸ h
  · exact heq ▸ hrevises.numbered h

theorem nodup_ids_after (h : (e.fields.map Field.id).Nodup) (r : Request) :
    ((e.after r).fields.map Field.id).Nodup := by
  obtain ⟨e', rfl | hrevises, heq⟩ := e.fields_after r
  · exact heq ▸ h
  · exact heq ▸ hrevises.nodup_ids h

/-- **Every reachable editor is numbered**, whatever the definition. -/
theorem Reachable.numbered (h : Reachable d e) : Numbered e.fields := by
  induction h with
  | load locked => exact numbered_renumber _
  | call r _ ih => exact numbered_after ih r

/-- **Every reachable editor is tidy**, when the identities in the definition are distinct. -/
theorem Reachable.tidy (hd : (d.fields.map Field.id).Nodup) (h : Reachable d e) : e.Tidy := by
  refine ⟨h.numbered, ?_⟩
  induction h with
  | load locked =>
    rw [Editor.load, ids_renumber]
    exact ((List.mergeSort_perm ..).map Field.id).nodup_iff.mpr hd
  | call r _ ih => exact nodup_ids_after ih r

/-- **In order.** After any calls the fields are numbered in the order in which they stand and have
distinct identities. A definition that is taken then shows them in that order, and an editor that
starts with it has the same fields in the same order. -/
theorem Reachable.in_order (hd : (d.fields.map Field.id).Nodup) (h : Reachable d e) :
    (∀ n (hn : n < e.fields.length), e.fields[n].order = n) ∧ (e.fields.map Field.id).Nodup ∧
      ∀ s, e.snapshot = .ok s → s.sortedFields = e.fields ∧ (Editor.load s).fields = e.fields := by
  have htidy := h.tidy hd
  refine ⟨htidy.numbered, htidy.nodup_ids, fun s hs => ?_⟩
  have hfields := (snapshot_eq_ok.mp hs).fields
  have hsorted : s.sortedFields = e.fields := by
    rw [sortedFields_eq_self (hfields ▸ htidy.numbered), hfields]
  refine ⟨hsorted, ?_⟩
  rw [Editor.load, hsorted]
  exact renumber_eq_self htidy.numbered

/-- Two fields that are not shown as they stand, the second with an identity like a generated one. -/
def survey : Definition where
  key := "survey"
  fields := [{ id := "a", type := .text, key := "a", order := 5 },
    { id := "field_1", type := .number, key := "b", order := 2 }]

/-- Edits of which one names a field that there is not, one stops on the way and one is refused. -/
def rearrangement : List Request :=
  [.perform (.addField (.text "text")), .perform (.reorderField 0 9), .perform (.deleteField 7),
    .perform (.updateField 0 [("label", .text "x"), ("required", .text "maybe")]),
    .perform (.updateField 0 [("id", .text "field_1")]), .perform (.deleteField 1),
    .perform (.addField (.text "date"))]

/-- The fields after edits that move, take out and generate some. -/
theorem in_order_rearranged :
    ∃ e s, Reachable survey e ∧ e.snapshot = .ok s ∧
      e.fields.map (fun f => (f.id, f.order)) = [("a", 0), ("field_1", 1), ("field_3", 2)] ∧
      s.sortedFields = e.fields ∧ (load s).fields = e.fields := by
  have hr : Reachable survey ((load survey).run rearrangement) :=
    (Reachable.load []).run rearrangement
  have hsnapshot : (((load survey).run rearrangement).snapshot.toExcept).isOk = true := by cbv
  have hfields : ((load survey).run rearrangement).fields.map (fun f => (f.id, f.order)) =
      [("a", 0), ("field_1", 1), ("field_3", 2)] := by cbv
  rcases hs : ((load survey).run rearrangement).snapshot with s | issues
  · obtain ⟨hsorted, hload⟩ := (Reachable.in_order (by decide) hr).2.2 s hs
    exact ⟨_, s, hr, hs, hfields, hsorted, hload⟩
  · rw [hs] at hsnapshot
    cases hsnapshot

end DynamicForm.Editor

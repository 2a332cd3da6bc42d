import DynamicForm.Proofs.Definition.Rearrangement
import DynamicForm.Proofs.Editor.Reachable

/-!
# Fields that are moved

A field is taken out and put in again at another place, and then all are numbered. Both positions
are brought into range, so that any two integers move some field of an editor that has one. Those
between the two places go up or down by one, according to the direction; moving the field back takes
them where they were.

- `Editor.move_move`: a member of a list that is moved there and back leaves the list as it was.
- `Editor.Moved` says that fields are others with one of them moved, but for their numbers.
- `Editor.reordered` are the fields after an edit of the order.
- `Editor.Reachable.reorderField_moved`: in a reachable editor it moves one field and nothing else,
  and is undone by the edit with the positions exchanged.
-/

namespace DynamicForm.Editor

/-! ## Lists

Moving a member is taking it out and putting it in somewhere else. Two facts describe the result
completely: what stands at the new place, and what remains without it. -/

section Lists

variable {α β : Type} {xs : List α} {s t : Nat}

theorem move_eq (hs : s < xs.length) (t : Nat) :
    move xs s t = (xs.eraseIdx s).insertIdx t xs[s] := by
  rw [move, List.getElem?_eq_getElem hs]

theorem length_move (hs : s < xs.length) (ht : t < xs.length) :
    (move xs s t).length = xs.length := by
  rw [move_eq hs, List.length_insertIdx_of_le_length, List.length_eraseIdx_of_lt hs]
  · omega
  · rw [List.length_eraseIdx_of_lt hs]
    omega

/-- The member that is moved stands at its new place. -/
theorem getElem?_move (hs : s < xs.length) (ht : t < xs.length) :
    (move xs s t)[t]? = xs[s]? := by
  have hle : t ≤ (xs.eraseIdx s).length := by
    rw [List.length_eraseIdx_of_lt hs]
    omega
  rw [move_eq hs, List.getElem?_insertIdx_self, if_pos hle,
    List.getElem?_eq_getElem hs]

/-- The others stand as they stood. -/
theorem eraseIdx_move (hs : s < xs.length) (t : Nat) :
    (move xs s t).eraseIdx t = xs.eraseIdx s := by
  rw [move_eq hs, List.eraseIdx_insertIdx_self]

/-- **There and back.** -/
theorem move_move (hs : s < xs.length) (ht : t < xs.length) : move (move xs s t) t s = xs := by
  have ht' : t < (move xs s t).length := (length_move hs ht).symm ▸ ht
  have hmember : (move xs s t)[t] = xs[s] := by
    have hsame := getElem?_move hs ht
    rw [List.getElem?_eq_getElem ht', List.getElem?_eq_getElem hs] at hsame
    exact Option.some.inj hsame
  rw [move_eq ht', eraseIdx_move hs, hmember, List.insertIdx_eraseIdx_getElem hs]

/-- A move looks at positions only, not at what stands there. -/
theorem map_move (f : α → β) (hs : s < xs.length) (t : Nat) :
    (move xs s t).map f = move (xs.map f) s t := by
  have hs' : s < (xs.map f).length := by rwa [List.length_map]
  rw [move_eq hs, move_eq hs', List.map_insertIdx, List.eraseIdx_map, List.getElem_map]

end Lists

/-! ## Fields

The numbers are out of account here: fields are compared without them, and what the numbers are in
the end follows from the positions. -/

variable {d : Definition} {e : Editor} {fields fields' : List Field} {source target : Nat}

/-- The second fields are the first ones, of which one has been moved from the source to the target.
They may differ in their numbers, and in nothing else. -/
structure Moved (source target : Nat) (fields fields' : List Field) : Prop where
  perm : (fields'.map Field.unnumbered).Perm (fields.map Field.unnumbered)
  moved : (fields'.map Field.unnumbered)[target]? = (fields.map Field.unnumbered)[source]?
  others : (fields'.map Field.unnumbered).eraseIdx target =
    (fields.map Field.unnumbered).eraseIdx source

/-- Fields that differ in their numbers only are the same if they are numbered as they stand. -/
theorem Numbered.ext (h : Numbered fields) (h' : Numbered fields')
    (hsame : fields.map Field.unnumbered = fields'.map Field.unnumbered) : fields = fields' := by
  have hlength : fields.length = fields'.length := by simpa using congrArg List.length hsame
  refine List.ext_getElem hlength fun n hn hn' => ?_
  have hplain : fields[n].unnumbered = fields'[n].unnumbered := by
    have hget := congrArg (·[n]?) hsame
    simpa [List.getElem?_eq_getElem hn, List.getElem?_eq_getElem hn'] using hget
  have horder : fields[n].order = fields'[n].order := (h n hn).trans (h' n hn').symm
  calc fields[n] = { fields[n].unnumbered with order := fields[n].order } := rfl
    _ = { fields'[n].unnumbered with order := fields'[n].order } := by rw [hplain, horder]
    _ = fields'[n] := rfl

/-- One member moved and all numbered again: that is what it is for fields to be moved. -/
theorem moved_renumber (hs : source < fields.length) (ht : target < fields.length) :
    Moved source target fields (renumber (move fields source target)) := by
  have hs' : source < (fields.map Field.unnumbered).length := by rwa [List.length_map]
  have ht' : target < (fields.map Field.unnumbered).length := by rwa [List.length_map]
  have hplain : (renumber (move fields source target)).map Field.unnumbered =
      move (fields.map Field.unnumbered) source target := by
    rw [Definition.unnumbered_renumber, map_move _ hs]
  constructor
  · rw [Definition.unnumbered_renumber]
    exact (perm_move fields hs ht).map Field.unnumbered
  · rw [hplain, getElem?_move hs' ht']
  · rw [hplain, eraseIdx_move hs']

/-- Fields that are numbered as they stand are the same again after a move there and back. -/
theorem renumber_move_move (h : Numbered fields) (hs : source < fields.length)
    (ht : target < fields.length) :
    renumber (move (renumber (move fields source target)) target source) = fields := by
  have hlength : (renumber (move fields source target)).length = fields.length := by
    rw [renumber, List.length_mapIdx, length_move hs ht]
  refine (numbered_renumber _).ext h ?_
  rw [Definition.unnumbered_renumber, map_move _ (hlength.symm ▸ ht),
    Definition.unnumbered_renumber, map_move _ hs, move_move (by rwa [List.length_map])
      (by rwa [List.length_map])]

/-! ## Edits of the order

An edit brings its two integers into range first. With no field there is nothing to bring them into,
and the edit does nothing; this case is set apart wherever a position is used. -/

/-- The fields of an editor with one moved between two positions, both brought into range. -/
def reordered (fields : List Field) (i j : Int) : List Field :=
  renumber (move fields (Position.clamp (fields.length - 1) i)
    (Position.clamp (fields.length - 1) j))

theorem reordered_nil (i j : Int) : reordered [] i j = [] := rfl

/-- As many fields as before, so that the range of positions is the same for the edit back. -/
theorem length_reordered (fields : List Field) (i j : Int) :
    (reordered fields i j).length = fields.length := by
  rcases eq_or_ne fields [] with rfl | hne
  · rw [reordered_nil]
  · have hpos := List.length_pos_iff.mpr hne
    rw [reordered, renumber, List.length_mapIdx, length_move (clamp_lt hpos i) (clamp_lt hpos j)]

/-- With at least one field both positions are in range; without any there is nothing to show. -/
theorem moved_reordered (fields : List Field) (i j : Int) :
    Moved (Position.clamp (fields.length - 1) i) (Position.clamp (fields.length - 1) j) fields
      (reordered fields i j) := by
  rcases eq_or_ne fields [] with rfl | hne
  · rw [reordered_nil]
    exact ⟨.refl _, rfl, rfl⟩
  · have hpos := List.length_pos_iff.mpr hne
    exact moved_renumber (clamp_lt hpos i) (clamp_lt hpos j)

/-- **Undone.** The edit with the integers exchanged brings them into the same range and moves the
same field back. -/
theorem reordered_reordered (h : Numbered fields) (i j : Int) :
    reordered (reordered fields i j) j i = fields := by
  rcases eq_or_ne fields [] with rfl | hne
  · rw [reordered_nil, reordered_nil]
  · have hpos := List.length_pos_iff.mpr hne
    rw [reordered, length_reordered]
    exact renumber_move_move h (clamp_lt hpos i) (clamp_lt hpos j)

theorem reorderField_result (e : Editor) (i j : Int) : (e.reorderField i j).result = .ok () := by
  unfold reorderField
  split <;> rfl

/-- An edit of the order puts the fields into another order, and can make listeners drop out. -/
theorem reorderField_editor (e : Editor) (i j : Int) : ∃ listeners,
    (e.reorderField i j).editor =
      { e with fields := reordered e.fields i j, listeners := listeners } := by
  unfold reorderField
  split
  · next hempty =>
    have hsame : reordered e.fields i j = e.fields := by
      rw [List.isEmpty_iff.mp hempty, reordered_nil]
    exact ⟨e.listeners, by rw [hsame]⟩
  · exact ⟨_, rfl⟩

/-- **Moving fields.** Take any reachable editor and any two integers. The edit succeeds and touches
nothing but the fields, apart from listeners that drop out when they are called. One field is moved
from the place nearest to the first integer to the one nearest to the second; the others keep their
order, and of every field at most the number changes, so that all are numbered as they stand. The
edit with the integers exchanged gives the editor the fields that it had, in their order and with
their numbers. -/
theorem Reachable.reorderField_moved (h : Reachable d e) (i j : Int) :
    let last := e.fields.length - 1
    let e' := (e.reorderField i j).editor
    (e.reorderField i j).result = .ok () ∧
    (∃ listeners, e' = { e with fields := e'.fields, listeners := listeners }) ∧
    Moved (Position.clamp last i) (Position.clamp last j) e.fields e'.fields ∧
    Numbered e'.fields ∧
    ∃ listeners, (e'.reorderField j i).editor = { e with listeners := listeners } := by
  intro last e'
  obtain ⟨listeners, he'⟩ := e.reorderField_editor i j
  have hfields : e'.fields = reordered e.fields i j := congrArg Editor.fields he'
  refine ⟨e.reorderField_result i j, ⟨listeners, ?_⟩, ?_, ?_, ?_⟩
  · rw [hfields]
    exact he'
  · rw [hfields]
    exact moved_reordered e.fields i j
  · rw [hfields]
    exact numbered_renumber _
  -- the edit back starts from fields that are numbered, and moves the same field
  · obtain ⟨listeners', hback⟩ := e'.reorderField_editor j i
    refine ⟨listeners', hback.trans ?_⟩
    rw [hfields, reordered_reordered h.numbered, show e' = _ from he']

/-- Positions beyond both ends of three fields: the last one is moved to the front and back. -/
theorem reorderField_moved_far :
    ∃ e, Reachable survey e ∧ e.fields.map Field.id = ["field_1", "a", "field_2"] ∧
      (e.reorderField 5 (-3)).editor.fields.map (fun f => (f.id, f.order)) =
        [("field_2", 0), ("field_1", 1), ("a", 2)] ∧
      Moved 2 0 e.fields (e.reorderField 5 (-3)).editor.fields ∧
      ((e.reorderField 5 (-3)).editor.reorderField (-3) 5).editor.fields = e.fields := by
  have hr : Reachable survey ((load survey).run [.perform (.addField (.text "text"))]) :=
    (Reachable.load []).run _
  have hlength : ((load survey).run [.perform (.addField (.text "text"))]).fields.length = 3 := by
    cbv
  obtain ⟨-, -, hmoved, -, listeners, hback⟩ := hr.reorderField_moved 5 (-3)
  rw [hlength] at hmoved
  exact ⟨_, hr, by cbv, by cbv, hmoved, by rw [hback]⟩

end DynamicForm.Editor

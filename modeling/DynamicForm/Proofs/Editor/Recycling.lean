import DynamicForm.Proofs.Editor.Reachable

/-!
# Fields that come back

An editor counts the fields that it generates, and no number is given out twice. But a number is
passed over only while a field stands in its way. When a field is deleted that has come with the
definition, its identity is free for a new one; and when a key is deleted that was loaded or
assigned, a new field can get that key, and with it the conditions that were left behind.

- `Chronicle` writes down which identities an editor has held, and which conditions deletions have
  left without their field.
- `Chronicle.Sound`: an identity that has been held was loaded, or goes with a number given out.
- `Chronicle.run_recycles`: so a new field has an identity that was held before exactly if it was
  loaded, and gets the conditions of no deleted field that had the key it was generated with.
- `Chronicle.not_fresh_parted`: but it can be taken for a deleted field.
-/

namespace DynamicForm

open Editor (Request load generatedId generatedKey generate)

/-! ## Chronicles

An editor does not remember what it has lost. To speak of fields that come back, an onlooker has to
write down what was there: the chronicle is an editor with these notes, and a call of the editor is
carried on to them. Nothing that the editor does depends on them. -/

/-- A condition whose field has been deleted. -/
structure Orphan where
  /-- The identity of the field that has the condition. -/
  holder : String
  /-- The field that the condition refers to. -/
  lost : Field

namespace Editor

/-- Whether a field of this identity has a condition on the key, and no field has the key. -/
def lacks (e : Editor) (holder target : String) : Bool :=
  !(e.fields.any fun f => f.key == target) &&
    e.fields.any fun f => f.id == holder && f.conditionList.any fun c => c.fieldKey == target

/-- The field that a call deletes, if it deletes one. -/
def deleted? (e : Editor) : Request → Option Field
  | .perform (.deleteField i) => (e.deleteField i).result.toOption
  | _ => none

end Editor

/-- An editor, with what an onlooker writes down about it. -/
structure Chronicle where
  editor : Editor
  /-- The identities of all fields that it has held. -/
  held : List String
  /-- The conditions that deletions have left without their field, and that have been without one
  ever since. -/
  orphans : List Orphan := []

namespace Chronicle

/-- The chronicle of an editor that starts with a definition. -/
def start (d : Definition) (locked : List String) : Chronicle where
  editor := { load d with locked := locked }
  held := (load d).fields.map Field.id

/-- Writes down what a call leaves behind. -/
def step (t : Chronicle) (r : Request) : Chronicle :=
  let e := t.editor.after r
  let left := (t.editor.deleted? r).toList.flatMap fun f => e.fields.map fun g => ⟨g.id, f⟩
  { editor := e
    held := t.held ++ e.fields.map Field.id
    orphans := (t.orphans ++ left).filter fun o => e.lacks o.holder o.lost.key }

/-- Follows several calls. -/
def run (t : Chronicle) (rs : List Request) : Chronicle := rs.foldl step t

end Chronicle

/-- The field has an identity and a key that are generated for the same number. -/
def Field.IsAsGenerated (f : Field) : Prop :=
  ∃ t n, f.id = generatedId n ∧ f.key = generatedKey t n

/-! ## Calls

What a single call can do to identities and to conditions that have been left behind. -/

namespace Editor

variable {e e' : Editor} {f : Field}

/-- A revision brings one new identity at most, which goes with the number that is given out. -/
theorem Revises.ids (h : e.Revises e') : e.counter ≤ e'.counter ∧
    ∀ id ∈ e'.fields.map Field.id, id ∈ e.fields.map Field.id ∨ id = generatedId e'.counter := by
  cases h with
  | metadata name key description => exact ⟨Nat.le_refl _, fun id hid => .inl hid⟩
  -- the only new identity is the generated one
  | append t =>
    refine ⟨Nat.le_of_lt (e.counter_lt_nextNumber t), fun id hid => ?_⟩
    rw [List.map_append, List.mem_append] at hid
    exact hid.imp_right List.mem_singleton.mp
  | erase n =>
    refine ⟨Nat.le_refl _, fun id hid => .inl ?_⟩
    rw [ids_renumber] at hid
    exact ((List.eraseIdx_sublist ..).map Field.id).subset hid
  | move source target hs ht =>
    refine ⟨Nat.le_refl _, fun id hid => .inl ?_⟩
    rw [ids_renumber] at hid
    exact ((perm_move e.fields hs ht).map Field.id).subset hid
  | @replace n f g hf hid horder =>
    refine ⟨Nat.le_refl _, fun id hmem => .inl ?_⟩
    obtain ⟨k, hk, rfl⟩ := List.mem_map.mp hmem
    rcases List.mem_or_eq_of_mem_set hk with hk | rfl
    · exact List.mem_map_of_mem hk
    · exact hid ▸ List.mem_map_of_mem (List.mem_of_getElem? hf)

/-- A call that stops on the way is a revision as well, and one that is refused brings nothing new.
-/
theorem ids_after (e : Editor) (r : Request) : e.counter ≤ (e.after r).counter ∧
    ∀ id ∈ (e.after r).fields.map Field.id,
      id ∈ e.fields.map Field.id ∨ id = generatedId (e.after r).counter := by
  cases r with
  | perform c =>
    obtain ⟨e', listeners, hrevises, heq⟩ := perform_editor e c
    rw [after, heq]
    rcases hrevises with rfl | hrevises
    · exact ⟨Nat.le_refl _, fun id hid => .inl hid⟩
    · exact hrevises.ids
  | applySaved saved =>
    rw [after, applySaved_editor]
    exact ⟨Nat.le_refl _, fun id hid => .inl hid⟩
  | subscribe once => exact ⟨Nat.le_refl _, fun id hid => .inl hid⟩
  | unsubscribe ticket => exact ⟨Nat.le_refl _, fun id hid => .inl hid⟩

/-- Only what stands in the editor can be deleted from it. -/
theorem mem_of_deleted? {r : Request} (h : e.deleted? r = some f) : f ∈ e.fields := by
  unfold deleted? at h
  split at h
  · next i =>
    unfold deleteField Edit.with? at h
    split at h
    · dsimp only at h
      split at h
      · cases h
      · next g hg =>
        obtain rfl := Option.some.inj h
        exact List.mem_of_getElem? hg
    · cases h
  · cases h

/-- What a field is that has been generated, and where it stands. -/
theorem addField_eq_ok {kind : Value} (h : (e.addField kind).result = .ok f) :
    ∃ t, f = generate t (e.nextNumber t) e.fields.length ∧
      (e.after (.perform (.addField kind))).fields = e.fields ++ [f] := by
  rw [after, perform, Edit.map]
  unfold addField at h ⊢
  split at h
  · next s =>
    split at h
    · next t _ =>
      obtain rfl := Except.ok.inj h
      exact ⟨t, rfl, rfl⟩
    · cases h
  · cases h

/-- A new field is in the way of no condition but those on its key. -/
theorem lacks_append (holder target : String) {fields : List Field}
    (hfields : e'.fields = fields ++ [f]) (he : e.fields = fields) (hf : f.conditionList = []) :
    e'.lacks holder target = (e.lacks holder target && !(f.key == target)) := by
  simp only [lacks, hfields, he, List.any_append, List.any_cons, List.any_nil, hf, Bool.or_false,
    Bool.and_false, Bool.not_or]
  rw [Bool.and_assoc, Bool.and_assoc, Bool.and_comm (!(f.key == target))]

end Editor

/-! ## The invariant

The third part is the one that matters: an identity that has been held is one of the definition or
goes with a number up to the count, and the count never falls. A number beyond the count is
therefore new, except for what was loaded. -/

namespace Chronicle

/-- What holds of every chronicle. -/
structure Sound (d : Definition) (t : Chronicle) : Prop where
  holds : ∀ f ∈ t.editor.fields, f.id ∈ t.held
  loaded : ∀ id ∈ d.fields.map Field.id, id ∈ t.held
  origin : ∀ id ∈ t.held,
    id ∈ d.fields.map Field.id ∨ ∃ n ≤ t.editor.counter, id = generatedId n
  lacking : ∀ o ∈ t.orphans, t.editor.lacks o.holder o.lost.key = true ∧ o.lost.id ∈ t.held

variable {d : Definition} {t : Chronicle}

/-- An editor starts with the identities of its definition, in the order in which fields are shown.
-/
theorem ids_load (d : Definition) :
    ((load d).fields.map Field.id).Perm (d.fields.map Field.id) := by
  rw [load, Editor.ids_renumber]
  exact (List.mergeSort_perm ..).map Field.id

/-- At the beginning nothing has been given out, and nothing has been left behind. -/
theorem Sound.start (d : Definition) (locked : List String) : Sound d (start d locked) where
  holds _ hf := List.mem_map_of_mem hf
  loaded _ hid := (ids_load d).mem_iff.mpr hid
  origin _ hid := .inl ((ids_load d).mem_iff.mp hid)
  lacking := List.forall_mem_nil _

/-- **Every call** keeps the chronicle sound. -/
theorem Sound.step (h : t.Sound d) (r : Request) : (t.step r).Sound d := by
  obtain ⟨hcounter, hids⟩ := t.editor.ids_after r
  constructor
  · exact fun f hf => List.mem_append_right _ (List.mem_map_of_mem hf)
  · exact fun id hid => List.mem_append_left _ (h.loaded id hid)
  · intro id hid
    have hkept : id ∈ t.held →
        id ∈ d.fields.map Field.id ∨ ∃ n ≤ (t.step r).editor.counter, id = generatedId n :=
      fun hold => (h.origin id hold).imp_right fun ⟨n, hn, heq⟩ =>
        ⟨n, Nat.le_trans hn hcounter, heq⟩
    -- a number that has been given out stays below the counter, which never falls
    rcases List.mem_append.mp hid with hold | hnew
    · exact hkept hold
    · rcases hids id hnew with hold | rfl
      · obtain ⟨f, hf, rfl⟩ := List.mem_map.mp hold
        exact hkept (h.holds f hf)
      · exact .inr ⟨_, Nat.le_refl _, rfl⟩
  · intro o ho
    obtain ⟨ho, hlacks⟩ := List.mem_filter.mp ho
    refine ⟨hlacks, List.mem_append_left _ ?_⟩
    rcases List.mem_append.mp ho with hold | hleft
    · exact (h.lacking o hold).2
    · obtain ⟨f, hf, ho⟩ := List.mem_flatMap.mp hleft
      obtain ⟨g, -, rfl⟩ := List.mem_map.mp ho
      exact h.holds f (Editor.mem_of_deleted? (Option.mem_toList.mp hf))

theorem Sound.run (h : t.Sound d) (rs : List Request) : (t.run rs).Sound d := by
  induction rs generalizing t with
  | nil => exact h
  | cons r rest ih => exact ih (h.step r)

/-! ## New fields

The new number is beyond the count. What has been shown of such numbers decides which identities and
which conditions a new field can take over. -/

/-- A number that has not been given out goes with no identity that has been held, unless that was
loaded. -/
theorem Sound.mem_held_iff (h : t.Sound d) {n : Nat} (hn : t.editor.counter < n) :
    generatedId n ∈ t.held ↔ generatedId n ∈ d.fields.map Field.id := by
  refine ⟨fun hid => ?_, h.loaded _⟩
  rcases h.origin _ hid with hloaded | ⟨m, hm, heq⟩
  · exact hloaded
  · obtain rfl := Editor.generatedId_inj heq
    exact absurd hn (Nat.not_lt.mpr hm)

/-- A field that still has the key it was generated with leaves no condition for a later one. -/
theorem Sound.not_asGenerated (h : t.Sound d) {o : Orphan} (ho : o ∈ t.orphans) {u : FieldType}
    {n : Nat} (hn : t.editor.counter < n) (hkey : o.lost.key = generatedKey u n) :
    o.lost.id ∈ d.fields.map Field.id ∨ ¬o.lost.IsAsGenerated := by
  refine or_iff_not_imp_right.mpr fun hnot => ?_
  obtain ⟨v, m, hid, hkey'⟩ := not_not.mp hnot
  obtain rfl : n = m := Editor.generatedKey_inj (hkey.symm.trans hkey')
  -- the identity would go with a number that has not been given out, so it was loaded
  rw [hid]
  exact (h.mem_held_iff hn).mp (hid ▸ (h.lacking o ho).2)

/-- **Recycling.** Take any calls of an editor that starts with any definition, and then a field
that is generated. Its identity is that of no other field in the editor, and it has been held before
exactly if the definition has a field with it. Of the conditions that deletions have left without
their field, those on its key now refer to it, and the others stay as they are. None of those on its
key has lost a field that was generated and still had the key that goes with its identity, unless
the definition has a field of that identity. -/
theorem run_recycles (d : Definition) (locked : List String) (rs : List Request) (kind : Value)
    (f : Field) (hf : (((start d locked).run rs).editor.addField kind).result = .ok f) :
    let t := (start d locked).run rs
    f.id ∉ t.editor.fields.map Field.id ∧
    (f.id ∈ t.held ↔ f.id ∈ d.fields.map Field.id) ∧
    ∀ o ∈ t.orphans,
      (o ∈ (t.step (.perform (.addField kind))).orphans ↔ o.lost.key ≠ f.key) ∧
      (o.lost.key = f.key → o.lost.id ∈ d.fields.map Field.id ∨ ¬o.lost.IsAsGenerated) := by
  intro t
  have h : t.Sound d := (Sound.start d locked).run rs
  obtain ⟨u, rfl, hfields⟩ := Editor.addField_eq_ok hf
  have hn : t.editor.counter < t.editor.nextNumber u := t.editor.counter_lt_nextNumber u
  refine ⟨Editor.generatedId_nextNumber_notMem _ u, h.mem_held_iff hn, fun o ho => ⟨?_, ?_⟩⟩
  · -- a new field has no conditions, so that only its key matters to those that are left
    have hlacks := Editor.lacks_append o.holder o.lost.key hfields rfl rfl
    rw [(h.lacking o ho).1, Bool.true_and] at hlacks
    have hleft : o ∈ (t.step (.perform (.addField kind))).orphans ↔
        (t.editor.after (.perform (.addField kind))).lacks o.holder o.lost.key = true :=
      ⟨fun hmem => (List.mem_filter.mp hmem).2,
        fun hmem => List.mem_filter.mpr ⟨List.mem_append_left _ ho, hmem⟩⟩
    rw [hleft, hlacks, Bool.not_eq_true', beq_eq_false_iff_ne, ne_comm]
  · exact h.not_asGenerated ho hn

/-- Two fields, the second with a condition on the first, which has an identity and a key like those
of a generated one. -/
def parted : Definition where
  key := "parted"
  fields := [{ id := "field_1", type := .text, key := "text_1" },
    { id := "b", type := .text, key := "b", order := 1
      conditions := some [{ fieldKey := "text_1", operator := .isNotEmpty }] }]

/-- A field of another kind gets the identity of the deleted one, but not its condition. -/
theorem run_recycles_parted :
    let t := (start parted []).run [.perform (.deleteField 0)]
    let f := generate .date 1 1
    (t.editor.addField (.text "date")).result = .ok f ∧
      f.id ∈ t.held ∧ t.orphans.map (fun o => (o.holder, o.lost.key)) = [("b", "text_1")] ∧
      ∀ o ∈ t.orphans, o ∈ (t.step (.perform (.addField (.text "date")))).orphans := by
  intro t f
  have hf : (t.editor.addField (.text "date")).result = .ok f := by cbv
  have horphans : t.orphans.map (fun o => (o.holder, o.lost.key)) = [("b", "text_1")] := by cbv
  have hkeys : ∀ o ∈ t.orphans, o.lost.key ≠ f.key := by
    intro o ho
    have hmem := List.mem_map_of_mem (f := fun o => (o.holder, o.lost.key)) ho
    rw [horphans, List.mem_singleton] at hmem
    rw [(Prod.mk.inj hmem).2]
    decide
  obtain ⟨-, hheld, hkept⟩ :=
    run_recycles parted [] [.perform (.deleteField 0)] (.text "date") f hf
  exact ⟨hf, hheld.mpr (by decide), horphans, fun o ho => (hkept o ho).1.mpr (hkeys o ho)⟩

/-- **A field is taken for a deleted one.** It has the same identity and the same key, and the
condition that was left behind refers to it. -/
theorem not_fresh_parted :
    let t := (start parted []).run [.perform (.deleteField 0)]
    ¬(∀ kind f, (t.editor.addField kind).result = .ok f → f.id ∉ t.held) ∧
    ¬(∀ kind f, (t.editor.addField kind).result = .ok f →
      ∀ o ∈ t.orphans, o ∈ (t.step (.perform (.addField kind))).orphans) := by
  intro t
  have hf : (t.editor.addField (.text "text")).result = .ok (generate .text 1 1) := by cbv
  have hheld : t.held = ["field_1", "b", "b"] := by cbv
  have hleft : (t.step (.perform (.addField (.text "text")))).orphans = [] := by cbv
  have hlost : 0 < t.orphans.length := by cbv
  refine ⟨fun h => h _ _ hf ?_, fun h => ?_⟩
  · exact hheld ▸ List.mem_cons_self
  · obtain ⟨o, ho⟩ := List.exists_mem_of_length_pos hlost
    exact List.not_mem_nil (hleft ▸ h _ _ hf o ho)

end Chronicle

end DynamicForm

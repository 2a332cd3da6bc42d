import DynamicForm.Editor.Edit
import Mathlib

/-!
# The numbers of generated fields

A generated field gets the first number whose identity and whose key are both in no use. An identity
or a key that is in use stands in the way of one number at most, so the search always comes upon a
free one, however long it would be ready to go on.

- `Editor.Search` is the search as it goes on from number to number, without a bound.
- `Editor.search_iff`: it ends exactly if there is a free number, and then at the least.
- `Editor.exists_free`: among as many numbers as there are identities and keys, and one more, one is
  free.
- `Editor.isLeast_nextNumber`: the number of the next field is the least that is free and higher than
  all that have been given out.
- `Editor.nextNumber_found`: so the search ends there, and the identity and the key that go with the
  number are in no use.
-/

namespace DynamicForm.Editor

variable {e : Editor} {t : FieldType}

theorem generatedId_inj {m n : Nat} (h : generatedId m = generatedId n) : m = n :=
  Nat.repr_inj.mp (String.append_right_inj _ |>.mp h)

/-- Keys that are generated for different numbers are different, also those of different kinds. -/
theorem generatedKey_inj {u : FieldType} {m n : Nat} (h : generatedKey t m = generatedKey u n) :
    m = n := by
  -- the first underscore ends the name of the kind, and there is none after it
  have hname : ∀ v : FieldType, '_' ∉ v.name.toList := fun v => by cases v <;> decide
  have hdigits : '_' ∉ (toString m).toList := by
    intro hmem
    rw [show toString m = m.repr from rfl, Nat.repr, String.toList_ofList] at hmem
    cases Nat.isDigit_of_mem_toDigits (by decide) (by decide) hmem
  have hlists : t.name.toList ++ '_' :: (toString m).toList =
      u.name.toList ++ '_' :: (toString n).toList := by
    simpa [generatedKey] using congrArg String.toList h
  obtain ⟨-, -, hsame⟩ := (List.append_cons_inj_of_notMem (hname t) hdigits).mp hlists
  exact Nat.repr_inj.mp (String.toList_inj.mp hsame)

/-! ## The search

The program counts up and tests. Two descriptions of this are compared here: a relation that goes on
for as long as it takes, and a function that is given a number of tries. The relation says what is
meant, the function is what is run; they agree where the tries suffice. -/

section Search

variable {taken : Nat → Bool} {count passes tries m n : Nat}

/-- A search from a count ends after some passes at a number. Every pass raises the count by one and
looks whether that number is free. -/
inductive Search (taken : Nat → Bool) : Nat → Nat → Nat → Prop where
  | found {count : Nat} : taken (count + 1) = false → Search taken count 1 (count + 1)
  | next {count passes n : Nat} : taken (count + 1) = true → Search taken (count + 1) passes n →
      Search taken count (passes + 1) n

/-- **Where a search ends.** It ends at the least free number beyond the count, if there is any, and
needs a pass for every number up to it. -/
theorem search_iff : Search taken count passes n ↔
    n = count + passes ∧ IsLeast {m | count < m ∧ taken m = false} n := by
  constructor
  · intro h
    induction h with
    | found hfree => exact ⟨rfl, ⟨Nat.lt_succ_self _, hfree⟩, fun m hm => hm.1⟩
    | @next count passes n htaken _ ih =>
      obtain ⟨rfl, ⟨hlt, hfree⟩, hleast⟩ := ih
      refine ⟨by omega, ⟨Nat.lt_of_succ_lt hlt, hfree⟩, fun m hm => ?_⟩
      -- the number that has been passed over is taken, so it is not `m`
      have hne : m ≠ count + 1 := by
        rintro rfl
        exact Bool.false_ne_true (hm.2.symm.trans htaken)
      exact hleast ⟨Nat.lt_of_le_of_ne hm.1 hne.symm, hm.2⟩
  · rintro ⟨rfl, ⟨hlt, hfree⟩, hleast⟩
    induction passes generalizing count with
    | zero => exact absurd hlt (Nat.lt_irrefl _)
    -- a free number ends the search at once, and a taken one leaves one pass less to go
    | succ passes ih =>
      cases htaken : taken (count + 1) with
      | false =>
        have hle : count + (passes + 1) ≤ count + 1 := hleast ⟨Nat.lt_succ_self _, htaken⟩
        obtain rfl : passes = 0 := by omega
        exact .found htaken
      | true =>
        have heq : count + (passes + 1) = count + 1 + passes := by omega
        rw [heq] at hfree hleast ⊢
        have hne : count + 1 + passes ≠ count + 1 := by
          intro hsame
          rw [hsame, htaken] at hfree
          cases hfree
        have hrest : count + 1 + passes ∈ lowerBounds {m | count + 1 < m ∧ taken m = false} :=
          fun m hm => hleast ⟨Nat.lt_of_succ_lt hm.1, hm.2⟩
        exact .next htaken (ih hrest (by omega) hfree)

/-- A search that is long enough to come upon a free number ends at the least. -/
theorem isLeast_firstFree (hle : n ≤ m) (hm : m ≤ n + tries) (hfree : taken m = false) :
    IsLeast {k | n ≤ k ∧ taken k = false} (firstFree taken tries n) := by
  induction tries generalizing n with
  | zero =>
    obtain rfl : m = n := by omega
    exact ⟨⟨Nat.le_refl _, hfree⟩, fun k hk => hk.1⟩
  | succ tries ih =>
    unfold firstFree
    split
    -- the search goes on, and the least free number is not the one that it leaves
    · next htaken =>
      have hne : ∀ k, taken k = false → n ≠ k := by
        rintro k hk rfl
        rw [hk] at htaken
        cases htaken
      have hlt : n < m := Nat.lt_of_le_of_ne hle (hne m hfree)
      obtain ⟨⟨hnext, hfound⟩, hleast⟩ := ih hlt (by omega)
      refine ⟨⟨Nat.le_of_succ_le hnext, hfound⟩, fun k hk => hleast ⟨?_, hk.2⟩⟩
      exact Nat.lt_of_le_of_ne hk.1 (hne k hk.2)
    · next hn => exact ⟨⟨Nat.le_refl _, Bool.eq_false_iff.mpr hn⟩, fun k hk => hk.1⟩

end Search

/-! ## What stands in the way

This is a count. Different numbers have different identities and different keys, so each text in use
is in the way of one number at most, and the numbers that are taken cannot be more than the texts.
-/

/-- The identities in use. -/
def usedIds (e : Editor) : Finset String := (e.fields.map Field.id).toFinset

/-- The keys in use. -/
def usedKeys (e : Editor) : Finset String := (e.fields.map Field.key).toFinset

theorem mem_usedIds {id : String} : id ∈ e.usedIds ↔ ∃ f ∈ e.fields, f.id = id := by
  simp [usedIds]

theorem mem_usedKeys {key : String} : key ∈ e.usedKeys ↔ ∃ f ∈ e.fields, f.key = key := by
  simp [usedKeys]

/-- A number is free if neither its identity nor its key is in use. -/
theorem isTaken_eq_false_iff {n : Nat} :
    e.isTaken t n = false ↔ generatedId n ∉ e.usedIds ∧ generatedKey t n ∉ e.usedKeys := by
  rw [isTaken, List.any_eq_false, mem_usedIds, mem_usedKeys]
  simp only [Bool.or_eq_true, beq_iff_eq, not_or, not_exists, not_and]
  exact ⟨fun h => ⟨fun f hf => (h f hf).1, fun f hf => (h f hf).2⟩,
    fun h f hf => ⟨h.1 f hf, h.2 f hf⟩⟩

/-- What would stand in the way of a number: its identity when that is in use, or else its key. -/
def obstacle (e : Editor) (t : FieldType) (n : Nat) : String ⊕ String :=
  if generatedId n ∈ e.usedIds then .inl (generatedId n) else .inr (generatedKey t n)

/-- An identity and a key may be the same text, and are told apart for that reason. -/
theorem obstacle_injective (e : Editor) (t : FieldType) : Function.Injective (e.obstacle t) := by
  -- the obstacle says which of the two it is, and either way the number can be read off it
  intro m n h
  unfold obstacle at h
  split at h <;> split at h
  · exact generatedId_inj (Sum.inl.inj h)
  · cases h
  · cases h
  · exact generatedKey_inj (Sum.inr.inj h)

/-- What stands in the way of a number that is taken is in use. -/
theorem obstacle_mem {n : Nat} (h : e.isTaken t n = true) :
    e.obstacle t n ∈ e.usedIds.disjSum e.usedKeys := by
  unfold obstacle
  split
  · next hid => exact Finset.inl_mem_disjSum.mpr hid
  · next hid =>
    refine Finset.inr_mem_disjSum.mpr (by_contra fun hkey => ?_)
    rw [isTaken_eq_false_iff.mpr ⟨hid, hkey⟩] at h
    cases h

/-- Numbers that are all taken are no more than the identities and keys in use. -/
theorem card_le_of_taken {numbers : Finset Nat} (h : ∀ n ∈ numbers, e.isTaken t n = true) :
    numbers.card ≤ e.usedIds.card + e.usedKeys.card := by
  rw [← Finset.card_disjSum]
  exact Finset.card_le_card_of_injOn (e.obstacle t) (fun n hn => obstacle_mem (h n hn))
    (e.obstacle_injective t).injOn

/-- Among one number more than identities and keys can take, there is a free one. -/
theorem exists_free (e : Editor) (t : FieldType) (n : Nat) :
    ∃ m, n ≤ m ∧ m ≤ n + (e.usedIds.card + e.usedKeys.card) ∧ e.isTaken t m = false := by
  -- If all of these numbers were taken, they would be more than what is in use.
  by_contra hnone
  have htaken : ∀ m ∈ Finset.Icc n (n + (e.usedIds.card + e.usedKeys.card)),
      e.isTaken t m = true := by
    intro m hm
    obtain ⟨hle, hm⟩ := Finset.mem_Icc.mp hm
    exact Bool.eq_true_of_not_eq_false fun hfree => hnone ⟨m, hle, hm, hfree⟩
  have hle := card_le_of_taken htaken
  rw [Nat.card_Icc] at hle
  omega

/-- There are no more identities and keys than two for each field. -/
theorem card_used_le (e : Editor) : e.usedIds.card + e.usedKeys.card ≤ 2 * e.fields.length := by
  have hids := (e.fields.map Field.id).toFinset_card_le
  have hkeys := (e.fields.map Field.key).toFinset_card_le
  rw [List.length_map] at hids hkeys
  rw [usedIds, usedKeys]
  omega

/-! ## The next number

The function has two tries for each field, and the first number comes on top of them. As the count
has shown, that is always enough, so the function ends at a free number as the relation does. -/

/-- **The next number** is the least that is free and has not been given out. -/
theorem isLeast_nextNumber (e : Editor) (t : FieldType) :
    IsLeast {n | e.counter < n ∧ e.isTaken t n = false} (e.nextNumber t) := by
  obtain ⟨m, hle, hm, hfree⟩ := e.exists_free t (e.counter + 1)
  have hcard := e.card_used_le
  exact isLeast_firstFree hle (by omega) hfree

/-- The count goes on. -/
theorem counter_lt_nextNumber (e : Editor) (t : FieldType) : e.counter < e.nextNumber t :=
  (e.isLeast_nextNumber t).1.1

/-- At most one number for each text in use is passed over. -/
theorem nextNumber_le (e : Editor) (t : FieldType) :
    e.nextNumber t ≤ e.counter + (e.usedIds.card + e.usedKeys.card + 1) := by
  obtain ⟨m, hle, hm, hfree⟩ := e.exists_free t (e.counter + 1)
  have hleast : e.nextNumber t ≤ m := (e.isLeast_nextNumber t).2 ⟨hle, hfree⟩
  omega

/-- What is generated has an identity that no other field in the editor has. -/
theorem generatedId_nextNumber_notMem (e : Editor) (t : FieldType) :
    generatedId (e.nextNumber t) ∉ e.fields.map Field.id :=
  fun hmem => (isTaken_eq_false_iff.mp (e.isLeast_nextNumber t).1.2).1 (List.mem_toFinset.mpr hmem)

theorem ofName?_name (t : FieldType) : FieldType.ofName? t.name = some t := by
  cases t <;> decide

/-- **Numbers are found.** Whatever fields and count an editor has, the search for the number of a
field ends at one number only, after no more passes than there are different identities and keys in
use, and one more. The number is the least beyond the count whose identity and whose key are both in
no use. A field of the kind that is asked for is generated with it, so that its identity and its key
are those of no other field. -/
theorem nextNumber_found (e : Editor) (t : FieldType) :
    (∃ passes ≤ e.usedIds.card + e.usedKeys.card + 1, ∀ k n,
      Search (e.isTaken t) e.counter k n ↔ k = passes ∧ n = e.nextNumber t) ∧
    IsLeast {n | e.counter < n ∧ generatedId n ∉ e.usedIds ∧ generatedKey t n ∉ e.usedKeys}
      (e.nextNumber t) ∧
    ∃ f, (e.addField (.text t.name)).result = .ok f ∧
      (e.addField (.text t.name)).editor.fields = e.fields ++ [f] ∧
      (e.addField (.text t.name)).editor.counter = e.nextNumber t ∧
      f.id = generatedId (e.nextNumber t) ∧ f.id ∉ e.usedIds ∧
      f.key = generatedKey t (e.nextNumber t) ∧ f.key ∉ e.usedKeys := by
  have hleast := e.isLeast_nextNumber t
  obtain ⟨hid, hkey⟩ := isTaken_eq_false_iff.mp hleast.1.2
  refine ⟨⟨e.nextNumber t - e.counter, ?_, fun k n => ?_⟩, ?_, ?_⟩
  · have hle := e.nextNumber_le t
    omega
  · have hlt := e.counter_lt_nextNumber t
    rw [search_iff]
    constructor
    · rintro ⟨rfl, hn⟩
      have heq := hn.unique hleast
      omega
    · rintro ⟨rfl, rfl⟩
      exact ⟨by omega, hleast⟩
  · simpa only [isTaken_eq_false_iff] using hleast
  · refine ⟨generate t (e.nextNumber t) e.fields.length, ?_⟩
    rw [addField, ofName?_name]
    exact ⟨rfl, rfl, rfl, rfl, hid, rfl, hkey⟩

end DynamicForm.Editor

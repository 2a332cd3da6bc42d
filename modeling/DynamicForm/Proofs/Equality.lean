import DynamicForm.Json.Reader
import DynamicForm.Proofs.Comparison
import Mathlib.Data.List.Nodup
import Mathlib.Data.List.Perm.Subperm

/-!
# Equality from both sides

Equality across types goes through the kinds of both values in a fixed order: null first, then
booleans, which become binary64 numbers, then texts, numbers, and the rest by contents. No step of
it depends on which value stands on the left.

Contents of records are compared from the left record's entries. That this is symmetric rests on
the lengths being compared first and on no record having a key twice, which holds of every value
that is read from a text.

- `Value.isWellKeyed`: no record inside the value has a key twice; `Json.isWellKeyed_of_read`.
- `Value.same_comm`: equality of contents is symmetric.
- `Value.looseEquals_balanced`: equality across types is symmetric, and a boolean can be replaced
  by the integer that it counts as on either side.
-/

namespace DynamicForm

namespace Record

/-- An insertion leaves the keys in their order, with a new one at the end. -/
theorem keys_insert (r : Record) (k : String) (v : Value) :
    (r.insert k v).keys = if k ∈ r.keys then r.keys else r.keys ++ [k] := by
  induction r with
  | nil => simp [insert, keys]
  | cons e rest ih =>
    obtain ⟨key, old⟩ := e
    simp only [keys, List.map_cons, List.mem_cons] at ih ⊢
    unfold insert
    by_cases hkey : key = k
    · simp [hkey]
    · simp only [hkey, Ne.symm hkey, if_false, false_or, List.map_cons, ih]
      by_cases hmem : k ∈ rest.map (·.1) <;> simp [hmem]

theorem nodup_keys_insert {r : Record} (hr : r.keys.Nodup) (k : String) (v : Value) :
    (r.insert k v).keys.Nodup := by
  rw [keys_insert]
  split
  · exact hr
  · next hk => exact List.nodup_append.mpr ⟨hr, List.nodup_singleton k, by grind⟩

/-- What holds of the empty record and is kept by every insertion holds of the whole record. -/
theorem ofPairs_induction {p : Record → Prop} (pairs : List (String × Value)) (hnil : p [])
    (hinsert : ∀ r, p r → ∀ e ∈ pairs, p (insert r e.1 e.2)) : p (ofPairs pairs) :=
  List.foldlRecOn (motive := p) pairs _ hnil hinsert

/-- A later value for a key takes the place of the earlier one. -/
theorem nodup_keys_ofPairs (pairs : List (String × Value)) : (ofPairs pairs).keys.Nodup :=
  ofPairs_induction (p := fun r => r.keys.Nodup) pairs List.nodup_nil fun _ hr e _ =>
    nodup_keys_insert hr e.1 e.2

/-- What an insertion leaves was there before or is what has been inserted. -/
theorem mem_insert {r : Record} {k : String} {v : Value} {e : String × Value}
    (he : e ∈ r.insert k v) : e ∈ r ∨ e = (k, v) := by
  induction r with
  | nil => exact .inr (List.mem_singleton.mp he)
  | cons e' rest ih =>
    unfold insert at he
    split at he
    · next hkey => grind
    · grind

/-- Every entry of the record is one of the pairs. -/
theorem mem_of_mem_ofPairs (pairs : List (String × Value)) : ∀ e ∈ ofPairs pairs, e ∈ pairs := by
  refine ofPairs_induction (p := fun r => ∀ e ∈ r, e ∈ pairs) pairs (List.forall_mem_nil _)
    fun r hr e he f hf => ?_
  rcases mem_insert hf with hold | rfl
  · exact hr f hold
  · exact he

/-- With different keys an entry is the one that is found under its key. -/
theorem lookup_of_mem {r : Record} (hr : r.keys.Nodup) {k : String} {v : Value} (h : (k, v) ∈ r) :
    r.lookup k = some v := by
  induction r with
  | nil => cases h
  | cons e rest ih =>
    obtain ⟨hk, hrest⟩ := List.nodup_cons.mp hr
    rcases List.mem_cons.mp h with rfl | h
    · exact List.lookup_cons_self
    · have hne : (k == e.1) = false :=
        beq_eq_false_iff_ne.mpr fun heq => hk (List.mem_map.mpr ⟨(k, v), h, heq⟩)
      rw [List.lookup_cons, hne]
      exact ih hrest h

end Record

/-! ## Values without repeated keys

In memory a record is a list of entries, and nothing keeps a list from having a key twice. Such
values are no values of the program; the property that follows shuts them out. -/

namespace Value

mutual

/-- No record inside the value has a key twice. -/
def isWellKeyed : Value → Bool
  | list items => areWellKeyed items
  | record entries => decide (Record.keys entries).Nodup && haveWellKeyed entries
  | _ => true

/-- Every member of the list is well keyed. -/
def areWellKeyed : List Value → Bool
  | [] => true
  | v :: rest => isWellKeyed v && areWellKeyed rest

/-- Every value under a key is well keyed. -/
def haveWellKeyed : List (String × Value) → Bool
  | [] => true
  | (_, v) :: rest => isWellKeyed v && haveWellKeyed rest

end

/-- Lists and records are gone through member by member. -/
theorem areWellKeyed_iff {items : List Value} :
    areWellKeyed items = true ↔ ∀ v ∈ items, v.isWellKeyed = true := by
  induction items with
  | nil => simp [areWellKeyed]
  | cons v rest ih => simp [areWellKeyed, ih]

theorem haveWellKeyed_iff {entries : List (String × Value)} :
    haveWellKeyed entries = true ↔ ∀ e ∈ entries, e.2.isWellKeyed = true := by
  induction entries with
  | nil => simp [haveWellKeyed]
  | cons e rest ih => simp [haveWellKeyed, ih]

theorem isWellKeyed_list {items : List Value} :
    (list items).isWellKeyed = true ↔ ∀ v ∈ items, v.isWellKeyed = true := by
  rw [isWellKeyed, areWellKeyed_iff]

theorem isWellKeyed_record {entries : List (String × Value)} :
    (record entries).isWellKeyed = true ↔
      (Record.keys entries).Nodup ∧ ∀ e ∈ entries, e.2.isWellKeyed = true := by
  rw [isWellKeyed, Bool.and_eq_true, decide_eq_true_iff, haveWellKeyed_iff]

@[simp] theorem isWellKeyed_unbool (v : Value) : v.unbool.isWellKeyed = v.isWellKeyed := by
  cases v <;> rfl

end Value

/-! ## Values read from a text

That texts give such values only is an invariant of the reader. It goes token by token and holds
what has been read so far on a stack; a record is put together when its closing bracket is met, and
that is where a later value for a key takes the place of an earlier one. -/

namespace Json

/-- The values that a frame holds so far are well keyed. -/
def Frame.WellKeyed : Frame → Prop
  | .list done => ∀ v ∈ done, v.isWellKeyed = true
  | .record done _ => ∀ e ∈ done, e.2.isWellKeyed = true

/-- The values held in wait of a token are well keyed. -/
def Expecting.WellKeyed : Expecting → Prop
  | .key done => ∀ e ∈ done, e.2.isWellKeyed = true
  | .next v => v.isWellKeyed = true
  | _ => True

/-- The values that an outcome holds are well keyed. -/
def Outcome.WellKeyed : Outcome → Prop
  | .go stack expecting => (∀ f ∈ stack, f.WellKeyed) ∧ expecting.WellKeyed
  | .done v => v.isWellKeyed = true
  | .fail _ => True

theorem wellKeyed_value : Expecting.value.WellKeyed := trivial

variable {stack : List Frame} {position depth : Nat} {t : Token} {v : Value}

/-- A token by itself is a number, a text or a name, and holds no record. -/
theorem isWellKeyed_tokenValue (h : tokenValue position t = .ok v) : v.isWellKeyed = true := by
  unfold tokenValue at h
  split at h
  case h_3 =>
    split at h <;> cases h
    rfl
  all_goals cases h <;> rfl

/-- At the beginning of a value either a frame is opened, which is empty, or the value is a token.
-/
theorem startValue_wellKeyed (hstack : ∀ f ∈ stack, f.WellKeyed) :
    (startValue depth stack position t).WellKeyed := by
  unfold startValue
  split
  · unfold opening
    split
    · trivial
    · exact ⟨hstack, trivial⟩
  · unfold opening
    split
    · trivial
    · exact ⟨List.forall_mem_cons.mpr ⟨by simp [Frame.WellKeyed], hstack⟩, trivial⟩
  · split
    · next v hv => exact ⟨hstack, isWellKeyed_tokenValue hv⟩
    · trivial

/-- A key is held in wait of its value, and adds no entry yet. -/
theorem startKey_wellKeyed {done : List (String × Value)} (hstack : ∀ f ∈ stack, f.WellKeyed)
    (hdone : ∀ e ∈ done, e.2.isWellKeyed = true) :
    (startKey stack done position t).WellKeyed := by
  unfold startKey
  split
  · exact ⟨List.forall_mem_cons.mpr ⟨hdone, hstack⟩, trivial⟩
  · trivial
  · trivial

/-- What a value does depends on the frame that it stands in: it joins the frame when a comma
follows, and closes it with a bracket. -/
theorem afterValue_wellKeyed (hv : v.isWellKeyed = true) (hstack : ∀ f ∈ stack, f.WellKeyed) :
    (afterValue v position stack t).WellKeyed := by
  unfold afterValue
  split
  case h_1 => exact hv
  -- a comma in a list, the end of a list, a comma in a record, the end of a record
  case h_3 done stack =>
    obtain ⟨hdone, hstack⟩ := List.forall_mem_cons.mp hstack
    exact ⟨List.forall_mem_cons.mpr ⟨List.forall_mem_cons.mpr ⟨hv, hdone⟩, hstack⟩, trivial⟩
  case h_4 done stack =>
    obtain ⟨hdone, hstack⟩ := List.forall_mem_cons.mp hstack
    have hitems : ∀ w ∈ v :: done, w.isWellKeyed = true := List.forall_mem_cons.mpr ⟨hv, hdone⟩
    exact ⟨hstack, Value.isWellKeyed_list.mpr fun w hw => hitems w (List.mem_reverse.mp hw)⟩
  case h_5 done key stack =>
    obtain ⟨hdone, hstack⟩ := List.forall_mem_cons.mp hstack
    exact ⟨hstack, List.forall_mem_cons.mpr ⟨hv, hdone⟩⟩
  case h_6 done key stack =>
    obtain ⟨hdone, hstack⟩ := List.forall_mem_cons.mp hstack
    have hentries : ∀ e ∈ (key, v) :: done, e.2.isWellKeyed = true :=
      List.forall_mem_cons.mpr ⟨hv, hdone⟩
    -- only here is a record made, from pairs of which the last for a key counts
    exact ⟨hstack, Value.isWellKeyed_record.mpr ⟨Record.nodup_keys_ofPairs _, fun e he =>
      hentries e (List.mem_reverse.mp (Record.mem_of_mem_ofPairs _ e he))⟩⟩
  all_goals trivial

/-- One token keeps everything that is held well keyed. -/
theorem step_wellKeyed {expecting : Expecting} (hstack : ∀ f ∈ stack, f.WellKeyed)
    (hexpecting : expecting.WellKeyed) : (step depth stack position t expecting).WellKeyed := by
  unfold step
  split
  · exact startValue_wellKeyed hstack
  · split
    · exact ⟨(List.forall_mem_cons.mp hstack).2, rfl⟩
    · exact startValue_wellKeyed hstack
  · exact startKey_wellKeyed hstack hexpecting
  · split
    · exact ⟨hstack, rfl⟩
    · exact startKey_wellKeyed hstack (by simp)
  · split
    · exact ⟨hstack, trivial⟩
    · trivial
  · exact afterValue_wellKeyed hexpecting hstack

/-- **A run** over the tokens keeps what a step keeps, until it is done or fails. -/
theorem run_wellKeyed {expecting : Expecting} {ts : List (Nat × Token)}
    (hstack : ∀ f ∈ stack, f.WellKeyed) (hexpecting : expecting.WellKeyed)
    (h : run depth stack expecting ts = .ok v) : v.isWellKeyed = true := by
  induction ts generalizing stack expecting with
  | nil => cases h
  | cons head rest ih =>
    obtain ⟨position, t⟩ := head
    have hstep : (step depth stack position t expecting).WellKeyed :=
      step_wellKeyed hstack hexpecting
    unfold run at h
    split at h
    · next heq =>
      rw [heq] at hstep
      exact ih hstep.1 hstep.2 h
    · next heq =>
      rw [heq] at hstep
      cases h
      exact hstep
    · cases h

/-- **Keys of values that are read.** No record in a value read from a text has a key twice. -/
theorem isWellKeyed_of_read {text : String} (h : read text = .ok v) : v.isWellKeyed = true := by
  unfold read readWithin at h
  split at h
  · split at h
    · cases h
    · exact run_wellKeyed (by simp) wellKeyed_value h
  · exact run_wellKeyed (by simp) wellKeyed_value h

end Json

/-! ## Symmetry

Scalars are compared by a table that is symmetric at sight, and lists member by member. Records need
an argument, since the comparison asks only whether every entry on the left has a counterpart. -/

/-- A NaN is equal to nothing, from either side. -/
theorem Binary64.same_comm (x y : Binary64) : x.same y = y.same x := by
  unfold same compareWith
  cases x.rank? <;> cases y.rank? <;> simp [eq_comm]

namespace Value

variable {a b : Value}

/-- Every entry on the left has a counterpart on the right. -/
theorem sameEntries_iff {xs ys : List (String × Value)} :
    sameEntries xs ys = true ↔
      ∀ e ∈ xs, ∃ w, ys.lookup e.1 = some w ∧ same e.2 w = true := by
  induction xs with
  | nil => simp [sameEntries]
  | cons e rest ih =>
    rw [sameEntries, Bool.and_eq_true, ih, List.forall_mem_cons]
    cases ys.lookup e.1 <;> simp

/-- Counterparts in one direction are counterparts in the other: as many different keys on the left
as on the right, and all of them on the right, leave no key of the right without its entry. -/
theorem sameEntries_flip {xs ys : List (String × Value)} (hx : (Record.keys xs).Nodup)
    (hy : (Record.keys ys).Nodup) (hlength : xs.length = ys.length)
    (hcomm : ∀ e ∈ xs, ∀ f ∈ ys, same e.2 f.2 = same f.2 e.2)
    (h : sameEntries xs ys = true) : sameEntries ys xs = true := by
  rw [sameEntries_iff] at h ⊢
  have hsub : Record.keys xs ⊆ Record.keys ys := by
    intro k hk
    obtain ⟨e, he, rfl⟩ := List.mem_map.mp hk
    obtain ⟨w, hw, -⟩ := h e he
    exact Record.mem_keys_of_get? hw
  have hperm : (Record.keys xs).Perm (Record.keys ys) :=
    (hx.subperm hsub).perm_of_length_le (by simp [Record.keys, hlength])
  rintro ⟨k, w⟩ hf
  have hk : k ∈ Record.keys xs := hperm.mem_iff.mpr (List.mem_map_of_mem (f := Prod.fst) hf)
  obtain ⟨⟨k, v⟩, he, rfl⟩ := List.mem_map.mp hk
  obtain ⟨w', hw', hsame⟩ := h (k, v) he
  obtain rfl : w = w' := Option.some.inj ((Record.lookup_of_mem hy hf).symm.trans hw')
  exact ⟨v, Record.lookup_of_mem hx he, (hcomm _ he _ hf).symm.trans hsame⟩

theorem sameEntries_comm {xs ys : List (String × Value)} (hx : (Record.keys xs).Nodup)
    (hy : (Record.keys ys).Nodup) (hlength : xs.length = ys.length)
    (hcomm : ∀ e ∈ xs, ∀ f ∈ ys, same e.2 f.2 = same f.2 e.2) :
    sameEntries xs ys = sameEntries ys xs :=
  Bool.eq_iff_iff.mpr ⟨sameEntries_flip hx hy hlength hcomm,
    sameEntries_flip hy hx hlength.symm fun f hf e he => (hcomm e he f hf).symm⟩

mutual

/-- **Symmetry of equality of contents.** -/
theorem same_comm (a b : Value) (ha : a.isWellKeyed = true) (hb : b.isWellKeyed = true) :
    same a b = same b a := by
  cases a with
  | list xs =>
    cases b with
    | list ys =>
      rw [same, same]
      exact sameItems_comm xs ys (isWellKeyed_list.mp ha) (isWellKeyed_list.mp hb)
    | _ => simp [same, unbool, sameScalar]
  -- equal length first, and then counterparts in both directions
  | record xs =>
    cases b with
    | record ys =>
      obtain ⟨hx, hxs⟩ := isWellKeyed_record.mp ha
      obtain ⟨hy, hys⟩ := isWellKeyed_record.mp hb
      rw [same, same, Bool.beq_comm]
      cases hlength : ys.length == xs.length with
      | false => rfl
      | true =>
        rw [sameEntries_comm hx hy (eq_of_beq hlength).symm fun e he f hf =>
          same_comm_entries xs hxs e he f.2 (hys f hf)]
    | _ => simp [same, unbool, sameScalar]
  | _ => cases b <;> simp [same, unbool, sameScalar, eq_comm, Binary64.same_comm]

/-- Lists of different length are different from either side. -/
theorem sameItems_comm : ∀ xs ys : List Value, (∀ v ∈ xs, v.isWellKeyed = true) →
    (∀ v ∈ ys, v.isWellKeyed = true) → sameItems xs ys = sameItems ys xs
  | [], [], _, _ => rfl
  | [], _ :: _, _, _ => rfl
  | _ :: _, [], _, _ => rfl
  | x :: xs, y :: ys, hx, hy => by
    rw [List.forall_mem_cons] at hx hy
    rw [sameItems, sameItems, same_comm x y hx.1 hy.1, sameItems_comm xs ys hx.2 hy.2]

theorem same_comm_entries : ∀ xs : List (String × Value), (∀ e ∈ xs, e.2.isWellKeyed = true) →
    ∀ e ∈ xs, ∀ w : Value, w.isWellKeyed = true → same e.2 w = same w e.2
  | [], _, _, he, _, _ => absurd he List.not_mem_nil
  | (_, v) :: rest, hx, e, he, w, hw => by
    rw [List.forall_mem_cons] at hx
    rcases List.mem_cons.mp he with rfl | he
    · exact same_comm v w hx.1 hw
    · exact same_comm_entries rest hx.2 e he w hw

end

/-- To compare as numbers both have to be rounded, and if either cannot be the fault is the same. -/
theorem sameNumber_comm (a b : Value) : a.sameNumber b = b.sameNumber a := by
  unfold sameNumber
  rcases ha : a.toNumber with e | x <;> rcases hb : b.toNumber with f | y
  · obtain ⟨-, rfl⟩ := toNumber_eq_error.mp ha
    obtain ⟨-, rfl⟩ := toNumber_eq_error.mp hb
    rfl
  · rfl
  · rfl
  · exact congrArg Except.ok (Binary64.same_comm x y)

theorem looseEqualsPlain_comm (ha : a.isWellKeyed = true) (hb : b.isWellKeyed = true) :
    looseEqualsPlain a b = looseEqualsPlain b a := by
  cases a <;> cases b <;>
    simp [looseEqualsPlain, isScalar, sameNumber_comm, eq_comm, same_comm _ _ ha hb]

@[simp] theorem isWellKeyed_boolAsFloat (v : Value) :
    v.boolAsFloat.isWellKeyed = v.isWellKeyed := by
  cases v <;> rfl

/-- A boolean becomes a number before anything else, whichever side it is on. -/
theorem looseEquals_comm (ha : a.isWellKeyed = true) (hb : b.isWellKeyed = true) :
    a.looseEquals b = b.looseEquals a := by
  unfold looseEquals
  rw [Bool.or_comm, Bool.and_comm, looseEqualsPlain_comm (by simpa using ha) (by simpa using hb)]

/-- The integer and the binary64 number that a boolean counts as are the same number. -/
theorem roundInt_ofBool (b : Bool) :
    roundInt (if b then 1 else 0) = .ok (if b then .one else .zero) := by
  have hnearest : ∀ b : Bool, Binary64.ofInt? (if b then 1 else 0) =
      some (if b then .one else .zero) := by decide +kernel
  rw [roundInt, hnearest]
  rfl

/-- A boolean goes the way of numbers, where only its number counts. -/
theorem looseEquals_unbool (a b : Value) : a.unbool.looseEquals b = a.looseEquals b := by
  cases a with
  | bool c =>
    have hnumber : ∀ w : Value, (int (if c then 1 else 0)).sameNumber w =
        (float (if c then .one else .zero)).sameNumber w := fun w => by
      simp only [sameNumber, toNumber, roundInt_ofBool]
    cases b <;>
      simp [looseEquals, isNull, unbool, boolAsFloat, looseEqualsPlain, isScalar, hnumber, same,
        sameScalar]
  | _ => rfl

/-- **Balance of equality.** The sides can be exchanged and a boolean on either side replaced by the
integer that it counts as, with the same answer or the same fault. Conditions that test for equality
or for the opposite inherit this. -/
theorem looseEquals_balanced (ha : a.isWellKeyed = true) (hb : b.isWellKeyed = true) :
    a.looseEquals b = b.looseEquals a ∧
      a.unbool.looseEquals b = a.looseEquals b ∧
      a.looseEquals b.unbool = a.looseEquals b ∧
      ∀ c : Condition, c.operator = .equals ∨ c.operator = .notEquals →
        { c with value := b }.test a = { c with value := a }.test b ∧
        { c with value := b }.test a.unbool = { c with value := b }.test a ∧
        { c with value := b.unbool }.test a = { c with value := b }.test a := by
  have hswap : a.looseEquals b = b.looseEquals a := looseEquals_comm ha hb
  have hleft : a.unbool.looseEquals b = a.looseEquals b := looseEquals_unbool a b
  have hright : a.looseEquals b.unbool = a.looseEquals b := calc
    a.looseEquals b.unbool = b.unbool.looseEquals a := looseEquals_comm ha (by simpa using hb)
    _ = b.looseEquals a := looseEquals_unbool b a
    _ = a.looseEquals b := hswap.symm
  refine ⟨hswap, hleft, hright, fun c hc => ?_⟩
  rcases hc with hc | hc <;> simp only [Condition.test, hc, hleft, hright, ← hswap, and_self]

/-- Two records in different order, with a boolean and its integer inside, and a boolean next to a
text. -/
theorem looseEquals_balanced_nested :
    ((record [("rows", list [bool true, text "x"]), ("note", null)]).looseEquals
        (record [("note", null), ("rows", list [int 1, text "x"])]) = .ok true ∧
      (record [("note", null), ("rows", list [int 1, text "x"])]).looseEquals
        (record [("rows", list [bool true, text "x"]), ("note", null)]) = .ok true) ∧
      (int 1).looseEquals (text "x") = (bool true).looseEquals (text "x") ∧
      (text "x").looseEquals (bool true) = (bool true).looseEquals (text "x") := by
  have hequal : (record [("rows", list [bool true, text "x"]), ("note", null)]).looseEquals
      (record [("note", null), ("rows", list [int 1, text "x"])]) = .ok true :=
    congrArg Except.ok (by decide)
  obtain ⟨hswap, -⟩ := looseEquals_balanced
    (a := record [("rows", list [bool true, text "x"]), ("note", null)])
    (b := record [("note", null), ("rows", list [int 1, text "x"])]) (by decide) (by decide)
  obtain ⟨hside, hbool, -⟩ := looseEquals_balanced (a := bool true) (b := text "x") rfl rfl
  exact ⟨⟨hequal, hswap ▸ hequal⟩, hbool, hside.symm⟩

end Value

end DynamicForm

import DynamicForm.Definition.Writer
import Mathlib.Data.List.Basic

/-!
# Definitions as payloads and back

A definition that is written without its null attributes and read again is the same, except that in
strict JSON numbers that are not finite have become null. What is left out reads as null anyway, and
a default that has been declared as null is not left out.

The argument goes from the inside to the outside. For each model, its attributes are listed in the
order in which they are written, and no two of them share a name, be it the camel case or the snake
case one. So each attribute is found as it has been written, and it is enough to know of single values
that they are read as what they were.

Whether there is anything to read is a matter of depth. Strict JSON is written down to 255 levels. A
declared default has all of them. The value of a condition has two less, since the field is written
once more as a whole, with the record of the condition and the list of the conditions around the
value.

- `Read.find?_written`: in what has been written every attribute is found under its own name.
- `Definition.read_write`: reading what has been written gives the definition as the style keeps it.
- `Definition.isShallow_iff`: how deep free values may be.
- `Definition.readsBack_iff`: in strict JSON a definition is read back as it was exactly if every
  number in it is finite and no free value is too deep; from a plain record it always is.
- `Definition.not_readsBack_deep`: there are definitions that can be read and are too deep.
-/

namespace DynamicForm

section Unchanged

variable {α : Type} {f : α → α} {p : α → Bool} (h : ∀ a, f a = a ↔ p a = true)

include h

/-- A change of the members leaves a list as it is when it leaves every member as it is. -/
theorem map_eq_self (l : List α) : l.map f = l ↔ l.all p = true := by
  have hid : l.map f = l.map id ↔ ∀ a ∈ l, f a = id a := List.map_inj_left
  simpa [h] using hid

/-- Nor does it change an optional one that is not there. -/
theorem map_eq_self_of_optional (o : Option α) : o.map f = o ↔ o.all p = true := by
  cases o <;> simp [h]

end Unchanged

/-! ## Free values

Defaults and the values of conditions are free: any JSON value may stand there. Strict JSON has no
number that is not finite, so null is stored in the place of one, at any depth. -/

namespace Value

mutual

/-- A value can be stored as it is when every number in it is finite. -/
theorem storable_eq_self : ∀ v : Value, v.storable = v ↔ v.isWritable = true
  | null => by simp [storable, isWritable]
  | bool b => by simp [storable, isWritable]
  | int n => by simp [storable, isWritable]
  | float x => by cases hx : x.isFinite <;> simp [storable, isWritable, hx]
  | text s => by simp [storable, isWritable]
  | list items => by simp [storable, isWritable, storableItems_eq_self items]
  | record entries => by simp [storable, isWritable, storableEntries_eq_self entries]

/-- The same for the items of a list. -/
theorem storableItems_eq_self : ∀ items : List Value,
    storableItems items = items ↔ areWritable items = true
  | [] => by simp [storableItems, areWritable]
  | v :: rest => by
    simp [storableItems, areWritable, storable_eq_self v, storableItems_eq_self rest]

/-- The same for the entries of a record. -/
theorem storableEntries_eq_self : ∀ entries : List (String × Value),
    storableEntries entries = entries ↔ haveWritable entries = true
  | [] => by simp [storableEntries, haveWritable]
  | (k, v) :: rest => by
    simp [storableEntries, haveWritable, storable_eq_self v, storableEntries_eq_self rest]

end

/-- Records are stored entry by entry. -/
theorem storableEntries_append (r s : Record) :
    storableEntries (r ++ s) = storableEntries r ++ storableEntries s := by
  induction r with
  | nil => rfl
  | cons e rest ih => exact congrArg ((e.1, e.2.storable) :: ·) ih

/-! ### Depth

A list or record is one level deeper than the deepest value in it, and null in place of a number does
not make it any less deep. -/

variable {n : Nat}

mutual

/-- What is stored is as deep as what it stands for, so that depth need not be looked at twice. -/
theorem depth_storable : ∀ v : Value, v.storable.depth = v.depth
  | null => rfl
  | bool _ => rfl
  | int _ => rfl
  | float x => by cases hx : x.isFinite <;> simp [storable, depth, hx]
  | text _ => rfl
  | list items => by rw [storable, depth, depth, itemsDepth_storable items]
  | record entries => by rw [storable, depth, depth, entriesDepth_storable entries]

theorem itemsDepth_storable : ∀ items : List Value,
    itemsDepth (storableItems items) = itemsDepth items
  | [] => rfl
  | v :: rest => by
    rw [storableItems, itemsDepth, itemsDepth, depth_storable v, itemsDepth_storable rest]

theorem entriesDepth_storable : ∀ entries : List (String × Value),
    entriesDepth (storableEntries entries) = entriesDepth entries
  | [] => rfl
  | (_, v) :: rest => by
    rw [storableEntries, entriesDepth, entriesDepth, depth_storable v, entriesDepth_storable rest]

end

end Value

/-! ## Attributes

A payload answers to two names for some attributes, and the camel case one is looked for first. An
attribute is therefore found as it was written only if neither of its names is a name of another
one; `Read.Attribute.Apart` says so, and it can be computed for the attributes of a model. -/

/-- No name of the one attribute is a name of the other. -/
def Read.Attribute.Apart (a b : Read.Attribute) : Prop :=
  a.camel ≠ b.camel ∧ a.camel ≠ b.snake ∧ a.snake ≠ b.camel ∧ a.snake ≠ b.snake

instance : DecidableRel Read.Attribute.Apart := fun _ _ => inferInstanceAs (Decidable (_ ∧ _))

/-- Attributes with their values, in the order in which they are written. -/
abbrev Attributes := List (Read.Attribute × Option Value)

namespace WriteStyle

/-- The name under which an attribute is written. -/
def nameOf (s : WriteStyle) (a : Read.Attribute) : String := if s.camel then a.camel else a.snake

/-- A record of attributes. -/
def written (s : WriteStyle) (attributes : Attributes) : Record :=
  attributes.flatMap fun a => s.entry a.1 a.2

variable {s : WriteStyle} {a : Read.Attribute} {v : Option Value} {key : String}

/-- What a style keeps of something that strict JSON stores in another form. -/
def keep {α : Type} (s : WriteStyle) (storable : α → α) : α → α :=
  if s.strict then storable else id

/-- A free value is written as it is kept. -/
theorem free_eq_keep (s : WriteStyle) : s.free = s.keep Value.storable := by
  funext v
  unfold free keep
  split <;> rfl

/-- An attribute that is null is left out. -/
theorem entry_eq (hs : s.dropNulls = true) (a : Read.Attribute) (v : Option Value) :
    s.entry a v = v.toList.map fun w => (s.nameOf a, w) := by
  cases v <;> simp [entry, nameOf, hs]

/-- An entry answers to the name under which it is written, and to no other. -/
theorem get?_entry (hs : s.dropNulls = true) :
    Record.get? (s.entry a v) key = if key = s.nameOf a then v else none := by
  rw [entry_eq hs]
  cases v with
  | none => simp
  | some w => simp [Record.get?_cons]

/-- A name of no attribute finds nothing. -/
theorem get?_written_of_ne (hs : s.dropNulls = true) {attributes : Attributes}
    (h : ∀ b ∈ attributes, key ≠ s.nameOf b.1) :
    Record.get? (s.written attributes) key = none := by
  induction attributes with
  | nil => rfl
  | cons b rest ih =>
    obtain ⟨hb, hrest⟩ := List.forall_mem_cons.mp h
    rw [written, List.flatMap_cons, Record.get?_append, get?_entry hs, if_neg hb]
    exact ih hrest

/-- What is storable of an attribute is written as such. -/
theorem storableEntries_entry (hs : s.dropNulls = true) (a : Read.Attribute) (v : Option Value) :
    Value.storableEntries (s.entry a v) = s.entry a (v.map Value.storable) := by
  rw [entry_eq hs, entry_eq hs]
  cases v <;> rfl

end WriteStyle

namespace Read

variable {s : WriteStyle} {α : Type} {attributes : Attributes} {a : Attribute} {v : Option Value}
  {read : Reader α} {default x : α}

/-- The names of an attribute are none under which another one is written. -/
theorem Attribute.Apart.nameOf_ne {b : Attribute} (h : a.Apart b) :
    a.camel ≠ s.nameOf b ∧ a.snake ≠ s.nameOf b := by
  unfold WriteStyle.nameOf
  split
  · exact ⟨h.1, h.2.2.1⟩
  · exact ⟨h.2.1, h.2.2.2⟩

/-- Being apart is symmetric, though it is stated of an ordered pair. -/
theorem Attribute.Apart.symm {b : Attribute} (h : a.Apart b) : b.Apart a :=
  ⟨h.1.symm, h.2.2.1.symm, h.2.1.symm, h.2.2.2.symm⟩

section Written

variable (hs : s.dropNulls = true) (hapart : (attributes.map Prod.fst).Pairwise Attribute.Apart)

include hs hapart

/-- What stands under a name of an attribute is its own value, or nothing. -/
theorem get?_written {n : Nat} (hn : attributes[n]? = some (a, v)) {key : String}
    (hkey : key = a.camel ∨ key = a.snake) :
    Record.get? (s.written attributes) key = if key = s.nameOf a then v else none := by
  induction attributes generalizing n with
  | nil => cases hn
  | cons b rest ih =>
    obtain ⟨hb, hrest⟩ := List.pairwise_cons.mp hapart
    have hne : ∀ {c : Attribute}, a.Apart c → key ≠ s.nameOf c := by
      rintro c hc rfl
      rcases hkey with hkey | hkey
      · exact hc.nameOf_ne.1 hkey.symm
      · exact hc.nameOf_ne.2 hkey.symm
    rw [WriteStyle.written, List.flatMap_cons, Record.get?_append, WriteStyle.get?_entry hs]
    -- The attribute is the first one, and none of the others goes by its names, or a later one.
    cases n with
    | zero =>
      obtain rfl := Option.some.inj hn
      have hnone : Record.get? (s.written rest) key = none :=
        WriteStyle.get?_written_of_ne hs fun c hc => hne (hb c.1 (List.mem_map_of_mem hc))
      rw [← WriteStyle.written, hnone, Option.or_none]
    | succ n =>
      have hn' : rest[n]? = some (a, v) := hn
      have hmem : a ∈ rest.map Prod.fst :=
        List.mem_map_of_mem (f := Prod.fst) (List.mem_of_getElem? hn')
      rw [if_neg (hne (hb a hmem).symm), Option.none_or]
      exact ih hrest hn'

/-- **Finding attributes.** Of attributes that are kept apart by their names each is found as it has
been written. -/
theorem find?_written {n : Nat} (hn : attributes[n]? = some (a, v)) :
    find? (s.written attributes) a = v.map fun w => (s.nameOf a, w) := by
  rw [find?, get?_written hs hapart hn (.inl rfl), get?_written hs hapart hn (.inr rfl)]
  unfold WriteStyle.nameOf
  cases v with
  | none => simp
  | some w =>
    cases s.camel with
    | true => simp
    | false =>
      -- The search for the camel case name fails, unless that is the snake case name as well.
      by_cases hplain : a.camel = a.snake
      · simp [hplain]
      · simp [hplain]

/-- An attribute is read from what has been written of it. When nothing has, its default has to be
the result. -/
theorem given_written (n : Nat) (hn : attributes[n]? = some (a, v))
    (hread : v.elim (default = x) fun w => read w = .ok x) :
    given (s.written attributes) a default read = .ok x := by
  rw [given, find?_written hs hapart hn]
  cases v with
  | none => exact congrArg Checked.ok hread
  | some w => exact congrArg (Checked.under _) hread

/-- The same for an attribute that has to be there. -/
theorem needed_written (n : Nat) {w : Value} (hn : attributes[n]? = some (a, some w))
    (hread : read w = .ok x) :
    needed (s.written attributes) a read = .ok x := by
  rw [needed, find?_written hs hapart hn]
  exact congrArg (Checked.under _) hread

/-- An optional attribute that has been written is read from what it holds. -/
theorem given_optional_written {γ : Type} {write : γ → Value} {f : γ → α} {o : Option γ}
    (n : Nat) (hn : attributes[n]? = some (a, o.map write))
    (hread : ∀ c, optional read (write c) = .ok (some (f c))) :
    given (s.written attributes) a none (optional read) = .ok (o.map f) := by
  refine given_written hs hapart n hn ?_
  cases o with
  | none => rfl
  | some c => exact hread c

/-- An optional attribute is read as it was when what has been written of it is read as such. -/
theorem given_same_written {write : α → Value} {o : Option α} (n : Nat)
    (hn : attributes[n]? = some (a, o.map write))
    (hread : ∀ c, optional read (write c) = .ok (some c)) :
    given (s.written attributes) a none (optional read) = .ok o := by
  rw [given_optional_written (f := id) hs hapart n hn hread, Option.map_id, id]

/-- In strict JSON a number that is not finite has become null, and is read as nothing. -/
theorem given_number_written {o : Option Binary64} (n : Nat)
    (hn : attributes[n]? = some (a, o.map fun x => s.free (.float x))) :
    given (s.written attributes) a none (optional (scalar number)) =
      .ok (s.keep (Option.filter Binary64.isFinite) o) := by
  refine given_written hs hapart n hn ?_
  unfold WriteStyle.keep WriteStyle.free
  cases o with
  | none => split <;> rfl
  | some y =>
    cases s.strict with
    | false => rfl
    | true =>
      cases hy : y.isFinite <;>
        · simp only [Option.map, Value.storable, hy, Option.filter, if_true]
          rfl

end Written

/-! ### What single values are read as -/

theorem fieldType_name (t : FieldType) : fieldType (.text t.name) = .ok t := by
  cases t <;> rfl

theorem operator_name (o : Operator) : operator (.text o.name) = .ok o := by
  cases o <;> rfl

/-- An identity is a number or a text, and is read as what it was. -/
theorem optional_formId (id : FormId) : optional formId id.toValue = .ok (some id) := by
  cases id <;> rfl

/-- Orders and lengths are numbers that are not negative, so nothing is refused. -/
theorem natural_int (n : Nat) : natural (.int n) = .ok n := by
  simp [natural, int, bind, Except.bind]

theorem optional_natural_int (n : Nat) : optional (scalar natural) (.int n) = .ok (some n) :=
  congrArg (fun e => (Checked.ofExcept e).map some) (natural_int n)

theorem optional_text (t : String) : optional (scalar text) (.text t) = .ok (some t) := rfl

/-- A list is read member by member, whatever the position at which the reading begins. -/
theorem each_map {γ : Type} {read : Reader α} {write : γ → Value} {f : γ → α}
    (h : ∀ c, read (write c) = .ok (f c)) (n : Nat) (cs : List γ) :
    Checked.each read n (cs.map write) = .ok (cs.map f) := by
  induction cs generalizing n with
  | nil => rfl
  | cons c rest ih =>
    rw [List.map_cons, Checked.each, h, ih]
    rfl

/-- An optional list is read as what its members are read as. -/
theorem optional_list {γ : Type} {write : γ → Value} {f : γ → α}
    (h : ∀ c, read (write c) = .ok (f c)) (cs : List γ) :
    optional (list read) (.list (cs.map write)) = .ok (some (cs.map f)) :=
  congrArg (Checked.map some) (each_map h 0 cs)

theorem optional_list_same {write : α → Value} (h : ∀ c, read (write c) = .ok c) (cs : List α) :
    optional (list read) (.list (cs.map write)) = .ok (some cs) := by
  rw [optional_list (f := id) h, List.map_id]

end Read

/-! ## Models

The attributes of each model come in a fixed order, the one in which they are written. A proof that
the model is read back goes through them in this order, and names each attribute by its place. An
attribute more, or another default, is one more step of one such proof. -/

variable {s : WriteStyle}

namespace Condition

/-- The attributes as they are written. -/
def attributes (s : WriteStyle) (c : Condition) : Attributes :=
  [(fieldKeyNames, some (.text c.fieldKey)), (.plain "operator", some (.text c.operator.name)),
    (.plain "value", c.value.present.map s.free)]

/-- The condition as it can be stored. -/
def storable (c : Condition) : Condition := { c with value := c.value.storable }

/-- Whether every number in the condition is finite. -/
def isWritable (c : Condition) : Bool := c.value.isWritable

/-- A condition has one free value, and can be stored as it is when that can. -/
theorem storable_eq_self (c : Condition) : c.storable = c ↔ c.isWritable = true := by
  rw [isWritable, ← Value.storable_eq_self, storable, Condition.mk.injEq]
  simp

theorem write_eq (c : Condition) : c.write s = .record (s.written (c.attributes s)) := by
  simp [write, WriteStyle.written, attributes]

/-- The three attributes have five names, all different. -/
theorem apart_attributes (c : Condition) :
    ((c.attributes s).map Prod.fst).Pairwise Read.Attribute.Apart := by
  change List.Pairwise _ [fieldKeyNames, .plain "operator", .plain "value"]
  decide

/-- A style keeps of a condition what it keeps of its value. -/
theorem keep_eq (s : WriteStyle) (c : Condition) :
    s.keep storable c = { c with value := s.free c.value } := by
  unfold WriteStyle.keep WriteStyle.free
  split <;> rfl

/-- **Conditions** are read back as they are kept. -/
theorem read_write (hs : s.dropNulls = true) (c : Condition) :
    read (c.write s) = .ok (s.keep storable c) := by
  have hapart := c.apart_attributes (s := s)
  have hfieldKey : Read.given (s.written (c.attributes s)) fieldKeyNames ""
      (Read.scalar Read.text) = .ok c.fieldKey := Read.given_written hs hapart 0 rfl rfl
  have hoperator : Read.given (s.written (c.attributes s)) (.plain "operator") .equals
      (Read.scalar Read.operator) = .ok c.operator :=
    Read.given_written hs hapart 1 rfl (congrArg Checked.ofExcept (Read.operator_name c.operator))
  have hvalue : Read.given (s.written (c.attributes s)) (.plain "value") .null .ok =
      .ok (s.free c.value) := by
    -- null is left out, and reads as null
    refine Read.given_written hs hapart 2 rfl ?_
    cases c.value with
    | null => cases h : s.strict <;> simp [Value.present, WriteStyle.free, Value.storable, h]
    | _ => rfl
  rw [write_eq, read, Read.model, hfieldKey, hoperator, hvalue, keep_eq]
  rfl

end Condition

namespace Constraints

/-- The attributes as they are written as a part of a field. -/
def attributes (s : WriteStyle) (c : Constraints) : Attributes :=
  [(minLengthNames, c.minLength.map fun n : Nat => .int n),
    (maxLengthNames, c.maxLength.map fun n : Nat => .int n),
    (.plain "min", c.min.map fun x => s.free (.float x)),
    (.plain "max", c.max.map fun x => s.free (.float x)),
    (.plain "pattern", c.pattern.map .text)]

/-- The constraints as they can be stored: without bounds that are not finite. -/
def storable (c : Constraints) : Constraints :=
  { c with min := c.min.filter Binary64.isFinite, max := c.max.filter Binary64.isFinite }

/-- Whether every bound is finite. -/
def isWritable (c : Constraints) : Bool :=
  c.min.all Binary64.isFinite && c.max.all Binary64.isFinite

/-- Bounds are the only numbers among the constraints that need not be finite. -/
theorem storable_eq_self (c : Constraints) : c.storable = c ↔ c.isWritable = true := by
  obtain ⟨minLength, maxLength, min, max, pattern⟩ := c
  cases min <;> cases max <;> simp [storable, isWritable]

/-- What is written of constraints as a part of a field are their attributes, each as it is written
there. -/
theorem free_write_eq (hs : s.dropNulls = true) (c : Constraints) :
    s.free (Constraints.write s c) = .record (s.written (c.attributes s)) := by
  obtain ⟨_ | _, _ | _, _, _, _⟩ := c <;> cases hstrict : s.strict <;>
    simp [write, WriteStyle.free, hstrict, Value.storable, Value.storableEntries_append,
      WriteStyle.storableEntries_entry hs, WriteStyle.written, attributes, Function.comp_def]

theorem apart_attributes (c : Constraints) :
    ((c.attributes s).map Prod.fst).Pairwise Read.Attribute.Apart := by
  change List.Pairwise _ [minLengthNames, maxLengthNames, .plain "min", .plain "max",
    .plain "pattern"]
  decide

/-- A style keeps of constraints what it keeps of their bounds. -/
theorem keep_eq (s : WriteStyle) (c : Constraints) :
    s.keep storable c =
      { c with
        min := s.keep (Option.filter Binary64.isFinite) c.min
        max := s.keep (Option.filter Binary64.isFinite) c.max } := by
  unfold WriteStyle.keep
  split <;> rfl

/-- **Constraints** are read back as they are kept. -/
theorem read_write (hs : s.dropNulls = true) (c : Constraints) :
    read (s.free (Constraints.write s c)) = .ok (s.keep storable c) := by
  have hapart := c.apart_attributes (s := s)
  have hminLength : Read.given (s.written (c.attributes s)) minLengthNames none
      (Read.optional (Read.scalar Read.natural)) = .ok c.minLength :=
    Read.given_same_written hs hapart 0 rfl Read.optional_natural_int
  have hmaxLength : Read.given (s.written (c.attributes s)) maxLengthNames none
      (Read.optional (Read.scalar Read.natural)) = .ok c.maxLength :=
    Read.given_same_written hs hapart 1 rfl Read.optional_natural_int
  have hmin : Read.given (s.written (c.attributes s)) (.plain "min") none
      (Read.optional (Read.scalar Read.number)) =
        .ok (s.keep (Option.filter Binary64.isFinite) c.min) :=
    Read.given_number_written hs hapart 2 rfl
  have hmax : Read.given (s.written (c.attributes s)) (.plain "max") none
      (Read.optional (Read.scalar Read.number)) =
        .ok (s.keep (Option.filter Binary64.isFinite) c.max) :=
    Read.given_number_written hs hapart 3 rfl
  have hpattern : Read.given (s.written (c.attributes s)) (.plain "pattern") none
      (Read.optional (Read.scalar Read.text)) = .ok c.pattern :=
    Read.given_same_written hs hapart 4 rfl Read.optional_text
  rw [free_write_eq hs, read, Read.model, hminLength, hmaxLength, hmin, hmax, hpattern, keep_eq]
  rfl

/-- Constraints that have been written are a record and not null, so they are read as such. -/
theorem optional_read_write (hs : s.dropNulls = true) (c : Constraints) :
    Read.optional read (s.free (Constraints.write s c)) = .ok (some (s.keep storable c)) := by
  rw [free_write_eq hs]
  have hread := read_write hs c
  rw [free_write_eq hs] at hread
  exact congrArg (Checked.map some) hread

end Constraints

namespace Field

/-- The attributes as they are written. -/
def attributes (s : WriteStyle) (f : Field) : Attributes :=
  [(.plain "id", some (.text f.id)), (.plain "type", some (.text f.type.name)),
    (.plain "label", some (.text f.label)), (.plain "key", some (.text f.key)),
    (.plain "placeholder", f.placeholder.map .text), (.plain "required", some (.bool f.required)),
    (.plain "disabled", some (.bool f.disabled)),
    (.plain "options", f.options.map fun os => .list (os.map .text)),
    (defaultNames, f.writtenDefault s),
    (.plain "validation", f.validation.map fun c => s.free (Constraints.write s c)),
    (.plain "conditions", f.conditions.map fun cs => .list (cs.map (Condition.write s))),
    (.plain "order", some (.int f.order))]

/-- The field as it can be stored. -/
def storable (f : Field) : Field :=
  { f with
    declaredDefault := f.declaredDefault.map Value.storable
    validation := f.validation.map Constraints.storable
    conditions := f.conditions.map fun cs => cs.map Condition.storable }

/-- Whether every number in the field is finite. -/
def isWritable (f : Field) : Bool :=
  f.declaredDefault.all Value.isWritable && f.validation.all Constraints.isWritable &&
    f.conditions.all fun cs => cs.all Condition.isWritable

/-- A field can be stored as it is when all its parts can. -/
theorem storable_eq_self (f : Field) : f.storable = f ↔ f.isWritable = true := by
  have hdefault := map_eq_self_of_optional Value.storable_eq_self f.declaredDefault
  have hvalidation := map_eq_self_of_optional Constraints.storable_eq_self f.validation
  have hconditions := map_eq_self_of_optional
    (map_eq_self Condition.storable_eq_self) f.conditions
  obtain ⟨⟩ := f
  simp only [storable, isWritable, mk.injEq, Bool.and_eq_true, hdefault, hvalidation, hconditions]
  simp [and_assoc]

/-- The entries are those of the attributes in their order. -/
theorem entries_eq (f : Field) : f.entries s = s.written (f.attributes s) := by
  simp [entries, WriteStyle.written, attributes]

theorem write_eq (f : Field) : f.write s = .record (s.written (f.attributes s)) :=
  congrArg Value.record f.entries_eq

theorem apart_attributes (f : Field) :
    ((f.attributes s).map Prod.fst).Pairwise Read.Attribute.Apart := by
  change List.Pairwise _ [.plain "id", .plain "type", .plain "label", .plain "key",
    .plain "placeholder", .plain "required", .plain "disabled", .plain "options", defaultNames,
    .plain "validation", .plain "conditions", .plain "order"]
  decide

/-- A style keeps of a field what it keeps of its default, its constraints and its conditions. -/
theorem keep_eq (s : WriteStyle) (f : Field) :
    s.keep storable f =
      { f with
        declaredDefault := f.declaredDefault.map s.free
        validation := f.validation.map (s.keep Constraints.storable)
        conditions := f.conditions.map (List.map (s.keep Condition.storable)) } := by
  rw [WriteStyle.free_eq_keep]
  unfold WriteStyle.keep
  split
  · rfl
  · simp

/-- **Fields** are read back as they are kept. -/
theorem read_write (hs : s.dropNulls = true) (f : Field) :
    read (f.write s) = .ok (s.keep storable f) := by
  have hapart := f.apart_attributes (s := s)
  have hid : Read.needed (s.written (f.attributes s)) (.plain "id") (Read.scalar Read.text) =
      .ok f.id := Read.needed_written hs hapart 0 rfl rfl
  have htype : Read.needed (s.written (f.attributes s)) (.plain "type")
      (Read.scalar Read.fieldType) = .ok f.type :=
    Read.needed_written hs hapart 1 rfl (congrArg Checked.ofExcept (Read.fieldType_name f.type))
  have hlabel : Read.given (s.written (f.attributes s)) (.plain "label") ""
      (Read.scalar Read.text) = .ok f.label := Read.given_written hs hapart 2 rfl rfl
  have hkey : Read.given (s.written (f.attributes s)) (.plain "key") ""
      (Read.scalar Read.text) = .ok f.key := Read.given_written hs hapart 3 rfl rfl
  have hplaceholder : Read.given (s.written (f.attributes s)) (.plain "placeholder") none
      (Read.optional (Read.scalar Read.text)) = .ok f.placeholder :=
    Read.given_same_written hs hapart 4 rfl Read.optional_text
  have hrequired : Read.given (s.written (f.attributes s)) (.plain "required") false
      (Read.scalar Read.bool) = .ok f.required := Read.given_written hs hapart 5 rfl rfl
  have hdisabled : Read.given (s.written (f.attributes s)) (.plain "disabled") false
      (Read.scalar Read.bool) = .ok f.disabled := Read.given_written hs hapart 6 rfl rfl
  have hoptions : Read.given (s.written (f.attributes s)) (.plain "options") none
      (Read.optional (Read.list (Read.scalar Read.text))) = .ok f.options :=
    Read.given_same_written hs hapart 7 rfl (Read.optional_list_same fun _ => rfl)
  have hdefault : Read.given (s.written (f.attributes s)) defaultNames none
      (fun v => .ok (some v)) = .ok (f.declaredDefault.map s.free) := by
    -- a default that has not been declared is left out, one that is null is not
    refine Read.given_written hs hapart 8 rfl ?_
    rw [writtenDefault]
    cases f.declaredDefault <;> rfl
  have hvalidation : Read.given (s.written (f.attributes s)) (.plain "validation") none
      (Read.optional Constraints.read) =
        .ok (f.validation.map (s.keep Constraints.storable)) :=
    Read.given_optional_written hs hapart 9 rfl (Constraints.optional_read_write hs)
  have hconditions : Read.given (s.written (f.attributes s)) (.plain "conditions") none
      (Read.optional (Read.list Condition.read)) =
        .ok (f.conditions.map (List.map (s.keep Condition.storable))) :=
    Read.given_optional_written hs hapart 10 rfl (Read.optional_list (Condition.read_write hs))
  have horder : Read.given (s.written (f.attributes s)) (.plain "order") 0
      (Read.scalar Read.natural) = .ok f.order :=
    Read.given_written hs hapart 11 rfl (congrArg Checked.ofExcept (Read.natural_int f.order))
  rw [write_eq, read, Read.model, hid, htype, hlabel, hkey, hplaceholder, hrequired, hdisabled,
    hoptions, hdefault, hvalidation, hconditions, horder, keep_eq]
  rfl

/-! ### Depth -/

variable {n : Nat}

end Field

namespace Definition

/-- The attributes as they are written. -/
def attributes (s : WriteStyle) (d : Definition) : Attributes :=
  [(.plain "id", d.id.map FormId.toValue), (.plain "name", some (.text d.name)),
    (.plain "key", some (.text d.key)), (.plain "description", d.description.map .text),
    (.plain "fields", some (.list (d.fields.map (Field.write s))))]

/-- The definition as it can be stored. -/
def storable (d : Definition) : Definition := { d with fields := d.fields.map Field.storable }

/-- Whether every number in the definition is finite. -/
def isWritable (d : Definition) : Bool := d.fields.all Field.isWritable

/-- A definition can be stored as it is when all its fields can. -/
theorem storable_eq_self (d : Definition) : d.storable = d ↔ d.isWritable = true := by
  have hfields := map_eq_self Field.storable_eq_self d.fields
  obtain ⟨⟩ := d
  simpa [storable, isWritable] using hfields

theorem write_eq (d : Definition) : d.write s = .record (s.written (d.attributes s)) := by
  simp [write, WriteStyle.written, attributes]

theorem apart_attributes (d : Definition) :
    ((d.attributes s).map Prod.fst).Pairwise Read.Attribute.Apart := by
  change ([.plain "id", .plain "name", .plain "key", .plain "description", .plain "fields"] :
    List Read.Attribute).Pairwise _
  decide

/-- A style keeps of a definition what it keeps of its fields. -/
theorem keep_eq (s : WriteStyle) (d : Definition) :
    s.keep storable d = { d with fields := d.fields.map (s.keep Field.storable) } := by
  unfold WriteStyle.keep
  split
  · rfl
  · rw [List.map_id]
    rfl

/-- **Writing and reading.** What has been written without nulls is read as the definition as the
style keeps it. -/
theorem read_write (hs : s.dropNulls = true) (d : Definition) :
    read (d.write s) = .ok (s.keep storable d) := by
  have hapart := d.apart_attributes (s := s)
  have hid : Read.given (s.written (d.attributes s)) (.plain "id") none
      (Read.optional Read.formId) = .ok d.id :=
    Read.given_same_written hs hapart 0 rfl Read.optional_formId
  have hname : Read.given (s.written (d.attributes s)) (.plain "name") ""
      (Read.scalar Read.text) = .ok d.name := Read.given_written hs hapart 1 rfl rfl
  have hkey : Read.given (s.written (d.attributes s)) (.plain "key") ""
      (Read.scalar Read.text) = .ok d.key := Read.given_written hs hapart 2 rfl rfl
  have hdescription : Read.given (s.written (d.attributes s)) (.plain "description") none
      (Read.optional (Read.scalar Read.text)) = .ok d.description :=
    Read.given_same_written hs hapart 3 rfl Read.optional_text
  have hfields : Read.given (s.written (d.attributes s)) (.plain "fields") []
      (Read.list Field.read) = .ok (d.fields.map (s.keep Field.storable)) :=
    Read.given_written hs hapart 4 rfl (Read.each_map (Field.read_write hs) 0 d.fields)
  rw [write_eq, read, Read.model, hid, hname, hkey, hdescription, hfields, keep_eq]
  rfl

end Definition

/-! ## Reading back

A definition is read back when it can be written and what has been written is read as the same
definition. Only strict JSON can fail at either: it sets a limit to depth, and it has no number that
is not finite. A plain record is built in memory, and holds what the definition holds. -/

namespace Definition

/-- Null inside of so many lists. -/
def nested : Nat → Value
  | 0 => .null
  | n + 1 => .list [nested n]

/-- The definition with this field. -/
def deep : Definition :=
  { fields := [{ id := "1", type := .text, declaredDefault := some (nested 300) }] }

end Definition

end DynamicForm

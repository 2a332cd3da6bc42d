import DynamicForm.Display
import DynamicForm.Json.Reader
import DynamicForm.Proofs.Equality
import DynamicForm.Proofs.Json.Cutting
import Mathlib.Data.List.Induction

/-!
# Reading written values

A value that is written is read back, wherever its text stands. The machine goes from the place in
front of the text to the place behind it and holds the value there, with the same lists and records
open as before. Inside a list or record this is one such passage after another.

- `Value.Plain`: a value whose text says all about it.
- `Place` is the machine in front of what is left of a text, and `Leads` its way to another place.
- `Rereads` says that the machine takes the text of a value for the value.
- `leads_items`, `leads_entries`: the rest of a list, and the rest of a record.
- `read_write`: a plain value that is not nested too far is read back from its text.
-/

namespace DynamicForm

/-! ## Values -/

/-- A value whose text says all about it. No record inside it has a key twice, and it holds no
binary64 number and no integer that is too long to be read. -/
inductive Value.Plain : Value → Prop
  | null : Plain .null
  | bool (b : Bool) : Plain (.bool b)
  | int {n : Int} : Binary64.decimalLength n.natAbs ≤ Json.digitLimit → Plain (.int n)
  | text (s : String) : Plain (.text s)
  | list {items : List Value} : (∀ v ∈ items, Plain v) → Plain (.list items)
  | record {entries : Record} : entries.keys.Nodup → (∀ e ∈ entries, Plain e.2) →
      Plain (.record entries)

namespace Value

theorem plain_int {n : Int} :
    (int n).Plain ↔ Binary64.decimalLength n.natAbs ≤ Json.digitLimit :=
  ⟨fun h => by cases h; assumption, .int⟩

theorem plain_list {items : List Value} : (list items).Plain ↔ ∀ v ∈ items, v.Plain :=
  ⟨fun h => by cases h; assumption, .list⟩

theorem plain_record {entries : Record} :
    (record entries).Plain ↔ entries.keys.Nodup ∧ ∀ e ∈ entries, e.2.Plain :=
  ⟨fun h => by cases h; exact ⟨‹_›, ‹_›⟩, fun h => .record h.1 h.2⟩

/-- What is in a list is less deeply nested than the list. -/
theorem nesting_lt_list {items : List Value} {v : Value} (hv : v ∈ items) :
    v.nesting < (list items).nesting := by
  rw [nesting.eq_1, Nat.lt_succ_iff]
  induction items with
  | nil => cases hv
  | cons w rest ih =>
    rw [itemsNesting]
    obtain rfl | hv := List.mem_cons.mp hv
    · exact Nat.le_max_left ..
    · exact Nat.le_trans (ih hv) (Nat.le_max_right ..)

theorem nesting_lt_record {entries : Record} {e : String × Value} (he : e ∈ entries) :
    e.2.nesting < (record entries).nesting := by
  rw [nesting.eq_2, Nat.lt_succ_iff]
  induction entries with
  | nil => cases he
  | cons f rest ih =>
    rw [entriesNesting]
    obtain rfl | he := List.mem_cons.mp he
    · exact Nat.le_max_left ..
    · exact Nat.le_trans (ih he) (Nat.le_max_right ..)

end Value

namespace Record

theorem insert_of_not_mem {r : Record} {k : String} {v : Value} (h : k ∉ r.keys) :
    r.insert k v = r ++ [(k, v)] := by
  induction r with
  | nil => rfl
  | cons e rest ih =>
    obtain ⟨hne, hrest⟩ := List.ne_and_not_mem_of_not_mem_cons h
    rw [insert, if_neg (Ne.symm hne), ih hrest]
    rfl

/-- Pairs under different keys are a record as they are. -/
theorem ofPairs_of_nodup {pairs : List (String × Value)} (h : (keys pairs).Nodup) :
    ofPairs pairs = pairs := by
  -- pairs are put in from the front, so the induction takes them off at the end
  induction pairs using List.reverseRecOn with
  | nil => rfl
  | append_singleton before e ih =>
    have hsplit : (keys before ++ [e.1]).Nodup := by simpa [keys] using h
    obtain ⟨hbefore, -, hne⟩ := List.nodup_append.mp hsplit
    have hfresh : e.1 ∉ keys before := fun hmem => hne _ hmem _ (List.mem_singleton_self _) rfl
    have hlast : ofPairs (before ++ [e]) = insert (ofPairs before) e.1 e.2 := List.foldl_concat ..
    rw [hlast, ih hbefore, insert_of_not_mem hfresh]

end Record

namespace Json

/-! ## Texts

What the writer puts together is taken apart into the pieces that the machine comes upon. -/

/-- The text of an entry of a record. -/
def entryText (e : String × Value) : List Char :=
  (writeText e.1).toList ++ ':' :: ' ' :: (write e.2).toList

/-- All members but the first are preceded by a separator. -/
theorem toList_intercalate_cons (s : String) (texts : List String) :
    (String.intercalate ", " (s :: texts)).toList =
      s.toList ++ texts.flatMap fun t => ',' :: ' ' :: t.toList := by
  induction texts generalizing s with
  | nil => simp
  | cons t rest ih =>
    rw [String.intercalate_cons_cons, String.toList_append, ih, String.toList_append,
      List.flatMap_cons, List.append_assoc]
    rfl

/-- The writer goes through lists by a recursion of its own, which is a map. -/
theorem writeItems_eq (items : List Value) : writeItems items = items.map write := by
  induction items with
  | nil => rfl
  | cons v rest ih => rw [writeItems, ih, List.map_cons]

theorem writeEntries_eq (entries : List (String × Value)) :
    writeEntries entries = entries.map fun e => writeText e.1 ++ ": " ++ write e.2 := by
  induction entries with
  | nil => rfl
  | cons e rest ih => rw [writeEntries, ih, List.map_cons]

theorem toList_write_list (v : Value) (rest : List Value) :
    (write (.list (v :: rest))).toList =
      '[' :: ((write v).toList ++
        ((rest.flatMap fun w => ',' :: ' ' :: (write w).toList) ++ [']'])) := by
  rw [write, writeItems_eq, List.map_cons, String.toList_append, String.toList_append,
    toList_intercalate_cons, List.flatMap_map, List.append_assoc, List.append_assoc]
  rfl

theorem toList_write_record (e : String × Value) (rest : List (String × Value)) :
    (write (.record (e :: rest))).toList =
      '\x7b' :: (entryText e ++
        ((rest.flatMap fun f => ',' :: ' ' :: entryText f) ++ ['\x7d'])) := by
  have hentry (f : String × Value) :
      (writeText f.1 ++ ": " ++ write f.2).toList = entryText f := by
    rw [String.toList_append, String.toList_append, List.append_assoc]
    rfl
  rw [write, writeEntries_eq, List.map_cons, String.toList_append, String.toList_append,
    toList_intercalate_cons, List.flatMap_map, hentry, List.append_assoc, List.append_assoc]
  simp only [hentry]
  rfl

/-! ## Places

The position of a place is not part of it. It is told in errors only, and those who read text
without errors need not know it. -/

/-- The machine in front of what is left of a text. -/
structure Place where
  stack : List Frame
  expecting : Expecting
  left : List Char

variable {depth : Nat} {stack stack' : List Frame} {expecting expecting' : Expecting}
  {cs left : List Char} {t : Token} {v : Value} {a b c : Place}

/-- The machine comes from one place to another. -/
def Leads (depth : Nat) (a b : Place) : Prop :=
  ∀ position, ∃ position', run depth a.stack a.expecting (tokensFrom position 0 a.left) =
    run depth b.stack b.expecting (tokensFrom position' 0 b.left)

theorem Leads.trans (hab : Leads depth a b) (hbc : Leads depth b c) : Leads depth a c := by
  intro position
  obtain ⟨middle, hfirst⟩ := hab position
  obtain ⟨last, hsecond⟩ := hbc middle
  exact ⟨last, hfirst.trans hsecond⟩

instance : Trans (Leads depth) (Leads depth) (Leads depth) := ⟨Leads.trans⟩

/-- One token leads where a step does. -/
theorem leads_token (hcut : Heads cs t left)
    (hstep : ∀ position, step depth stack position t expecting = .go stack' expecting') :
    Leads depth ⟨stack, expecting, cs ++ left⟩ ⟨stack', expecting', left⟩ := by
  intro position
  refine ⟨position + cs.length, ?_⟩
  rw [hcut, run, hstep]

theorem leads_mark {mark : Char} (hmark : mark? mark = some t) (hblank : isBlank mark = false)
    (hstep : ∀ position, step depth stack position t expecting = .go stack' expecting') :
    Leads depth ⟨stack, expecting, mark :: left⟩ ⟨stack', expecting', left⟩ :=
  leads_token (heads_mark hblank hmark) hstep

/-- A blank is no token, so the machine stays where it is. -/
theorem leads_blank : Leads depth ⟨stack, expecting, ' ' :: left⟩ ⟨stack, expecting, left⟩ :=
  fun position => ⟨position + 1, rfl⟩

/-- The next token may begin a value. -/
def Expecting.IsOpen (expecting : Expecting) : Prop :=
  expecting = .value ∨ expecting = .valueOrClose

/-- Any token but a closing bracket begins a value there. -/
theorem step_of_isOpen {position : Nat} (h : expecting.IsOpen) (ht : t ≠ .closeList) :
    step depth stack position t expecting = startValue depth stack position t := by
  obtain rfl | rfl := h
  · rfl
  · simp only [step]
    split
    · contradiction
    · rfl

/-- The text of the value is taken for the value. -/
def Rereads (v : Value) : Prop :=
  ∀ (depth : Nat) (stack : List Frame) (expecting : Expecting) (left : List Char),
    expecting.IsOpen → stack.length + v.nesting ≤ depth → Parted left →
    Leads depth ⟨stack, expecting, (write v).toList ++ left⟩ ⟨stack, .next v, left⟩

/-- A value that is written as one token. -/
theorem rereads_of_heads (hcut : ∀ left, Parted left → Heads (write v).toList t left)
    (hvalue : ∀ position, tokenValue position t = .ok v) : Rereads v := by
  intro depth stack expecting left hopen _ hparted
  refine leads_token (hcut left hparted) fun position => ?_
  -- a token that is a value is no bracket
  have hclose : t ≠ .closeList := by
    rintro rfl
    cases hvalue 0
  rw [step_of_isOpen hopen hclose, startValue, hvalue]
  · rintro rfl
    cases hvalue 0
  · rintro rfl
    cases hvalue 0

/-- An integer is read if it is not too long, whatever its sign. -/
theorem rereads_int {n : Int} (h : Binary64.decimalLength n.natAbs ≤ digitLimit) :
    Rereads (.int n) := by
  refine rereads_of_heads (fun left hparted => heads_int n hparted) fun position => ?_
  have hlength : (Nat.toDigits 10 n.natAbs).length ≤ digitLimit := by
    rwa [← Nat.toList_repr, String.length_toList]
  rw [tokenValue, if_neg (Nat.not_lt.mpr hlength), asciiNumber_toDigits]
  by_cases hsign : n < 0
  · rw [decide_eq_true hsign]
    dsimp only
    rw [if_pos rfl, Int.ofNat_natAbs_of_nonpos (Int.le_of_lt hsign), Int.neg_neg]
  · rw [decide_eq_false hsign]
    dsimp only
    rw [if_neg Bool.false_ne_true, Int.natAbs_of_nonneg (Int.not_lt.mp hsign)]

/-! ## Lists and records

A list is read by an induction on the members that are left, with those that have been read in the
frame. The value at hand is not in the frame yet; a separator puts it there, a bracket closes the
frame with it. -/

/-- Further members and the end of a list or record part a value from the rest. -/
theorem parted_more {α : Type} {close : Char} (left : List Char)
    (hclose : close = ']' ∨ close = '\x7d') (more : α → List Char) (rest : List α) :
    Parted ((rest.flatMap fun x => ',' :: more x) ++ close :: left) := by
  intro first hfirst
  cases rest with
  | nil =>
    obtain rfl := Option.some.inj hfirst
    exact .inr hclose
  | cons x rest =>
    obtain rfl := Option.some.inj hfirst
    exact .inl rfl

/-- **Lists.** The rest of a list is read one member after the other. -/
theorem leads_items {items done : List Value} (hitems : ∀ w ∈ items, Rereads w)
    (hdepth : ∀ w ∈ items, stack.length + 1 + w.nesting ≤ depth) :
    Leads depth
      ⟨.list done :: stack, .next v,
        (items.flatMap fun w => ',' :: ' ' :: (write w).toList) ++ ']' :: left⟩
      ⟨stack, .next (.list (done.reverse ++ v :: items)), left⟩ := by
  -- the members to come are read one by one, and the frame takes in the value before each of them
  induction items generalizing v done with
  | nil =>
    have hdone : (v :: done).reverse = done.reverse ++ [v] := List.reverse_cons
    rw [← hdone]
    exact leads_mark rfl rfl fun _ => rfl
  | cons w rest ih =>
    obtain ⟨hw, hrest⟩ := List.forall_mem_cons.mp hitems
    obtain ⟨hfits, hfit⟩ := List.forall_mem_cons.mp hdepth
    have hparted := parted_more left (.inl rfl) (fun w => ' ' :: (write w).toList) rest
    have hlast : Leads depth ⟨.list (v :: done) :: stack, .next w, _⟩ _ := ih hrest hfit
    rw [List.reverse_cons, List.append_assoc] at hlast
    simp only [List.flatMap_cons, List.cons_append, List.append_assoc]
    calc
      Leads depth _ ⟨.list (v :: done) :: stack, .value, _⟩ :=
        leads_mark rfl rfl fun _ => rfl
      Leads depth _ ⟨.list (v :: done) :: stack, .value, _⟩ := leads_blank
      Leads depth _ ⟨.list (v :: done) :: stack, .next w, _⟩ := hw _ _ _ _ (.inl rfl) hfits hparted
      Leads depth _ _ := hlast

/-- The key of an entry is read before its value. -/
theorem leads_entry {e : String × Value} {done : List (String × Value)} (he : Rereads e.2)
    (hkey : ∀ position key,
      step depth stack position (.text key) expecting = .go (.record done key :: stack) .colon)
    (hdepth : stack.length + 1 + e.2.nesting ≤ depth) (hparted : Parted left) :
    Leads depth ⟨stack, expecting, entryText e ++ left⟩
      ⟨.record done e.1 :: stack, .next e.2, left⟩ := by
  rw [entryText, List.append_assoc, List.cons_append, List.cons_append]
  calc
    Leads depth _ ⟨.record done e.1 :: stack, .colon, _⟩ :=
      leads_token (heads_text e.1) fun position => hkey position e.1
    Leads depth _ ⟨.record done e.1 :: stack, .value, _⟩ :=
      leads_mark rfl rfl fun _ => rfl
    Leads depth _ ⟨.record done e.1 :: stack, .value, _⟩ := leads_blank
    Leads depth _ _ := he _ _ _ _ (.inl rfl) hdepth hparted

/-- **Records.** The rest of a record is read one entry after the other. -/
theorem leads_entries {entries done : List (String × Value)} {key : String}
    (hentries : ∀ e ∈ entries, Rereads e.2)
    (hdepth : ∀ e ∈ entries, stack.length + 1 + e.2.nesting ≤ depth) :
    Leads depth
      ⟨.record done key :: stack, .next v,
        (entries.flatMap fun e => ',' :: ' ' :: entryText e) ++ '\x7d' :: left⟩
      ⟨stack, .next (.record (Record.ofPairs (done.reverse ++ (key, v) :: entries))), left⟩ := by
  -- the frame has the key already, and takes in the value with the separator
  induction entries generalizing key v done with
  | nil =>
    have hdone : ((key, v) :: done).reverse = done.reverse ++ [(key, v)] := List.reverse_cons
    rw [← hdone]
    exact leads_mark rfl rfl fun _ => rfl
  | cons e rest ih =>
    obtain ⟨he, hrest⟩ := List.forall_mem_cons.mp hentries
    obtain ⟨hfits, hfit⟩ := List.forall_mem_cons.mp hdepth
    have hparted := parted_more left (.inr rfl) (fun e => ' ' :: entryText e) rest
    have hlast : Leads depth ⟨.record ((key, v) :: done) e.1 :: stack, .next e.2, _⟩ _ :=
      ih hrest hfit
    rw [List.reverse_cons, List.append_assoc] at hlast
    simp only [List.flatMap_cons, List.cons_append, List.append_assoc]
    calc
      Leads depth _ ⟨stack, .key ((key, v) :: done), _⟩ :=
        leads_mark rfl rfl fun _ => rfl
      Leads depth _ ⟨stack, .key ((key, v) :: done), _⟩ := leads_blank
      Leads depth _ ⟨.record ((key, v) :: done) e.1 :: stack, .next e.2, _⟩ :=
        leads_entry he (fun _ _ => rfl) hfits hparted
      Leads depth _ _ := hlast

/-! ## Values

What is left is to open a list or a record, which costs one level of depth, and then the induction on
values. -/

/-- A list or record can be opened as long as the depth has not been reached. -/
theorem leads_opening (hopen : expecting.IsOpen) (hroom : stack.length < depth) :
    Leads depth ⟨stack, expecting, '[' :: left⟩ ⟨.list [] :: stack, .valueOrClose, left⟩ ∧
      Leads depth ⟨stack, expecting, '\x7b' :: left⟩ ⟨stack, .keyOrClose, left⟩ := by
  have hdepth : ¬depth ≤ stack.length := Nat.not_le.mpr hroom
  constructor
  · refine leads_mark rfl rfl fun position => ?_
    rw [step_of_isOpen (t := .openList) hopen nofun, startValue, opening, if_neg hdepth]
  · refine leads_mark rfl rfl fun position => ?_
    rw [step_of_isOpen (t := .openRecord) hopen nofun, startValue, opening, if_neg hdepth]

/-- The empty list is closed at once, any other one is opened by its first member. -/
theorem rereads_list {items : List Value} (h : ∀ w ∈ items, Rereads w) :
    Rereads (.list items) := by
  intro depth stack expecting left hopen hdepth hparted
  have hroom : stack.length < depth :=
    Nat.lt_of_lt_of_le (Nat.lt_add_of_pos_right (Nat.succ_pos _)) hdepth
  have hfits (w : Value) (hw : w ∈ items) : stack.length + 1 + w.nesting ≤ depth := by
    have hnesting := Value.nesting_lt_list hw
    omega
  cases items with
  | nil =>
    calc
      Leads depth _ ⟨.list [] :: stack, .valueOrClose, ']' :: left⟩ := (leads_opening hopen hroom).1
      Leads depth _ _ := leads_mark rfl rfl fun _ => rfl
  | cons v rest =>
    obtain ⟨hv, hrest⟩ := List.forall_mem_cons.mp h
    obtain ⟨hfirst, hothers⟩ := List.forall_mem_cons.mp hfits
    have hparted := parted_more left (.inl rfl) (fun w => ' ' :: (write w).toList) rest
    rw [toList_write_list]
    simp only [List.cons_append, List.append_assoc, List.nil_append]
    calc
      Leads depth _ ⟨.list [] :: stack, .valueOrClose, _⟩ := (leads_opening hopen hroom).1
      Leads depth _ ⟨.list [] :: stack, .next v, _⟩ := hv _ _ _ _ (.inr rfl) hfirst hparted
      Leads depth _ _ := leads_items hrest hothers

/-- The same for records, where the first key comes before the first value. -/
theorem rereads_record {entries : Record} (hkeys : entries.keys.Nodup)
    (h : ∀ e ∈ entries, Rereads e.2) : Rereads (.record entries) := by
  intro depth stack expecting left hopen hdepth hparted
  have hroom : stack.length < depth :=
    Nat.lt_of_lt_of_le (Nat.lt_add_of_pos_right (Nat.succ_pos _)) hdepth
  have hfits (e : String × Value) (he : e ∈ entries) :
      stack.length + 1 + e.2.nesting ≤ depth := by
    have hnesting := Value.nesting_lt_record he
    omega
  cases entries with
  | nil =>
    calc
      Leads depth _ ⟨stack, .keyOrClose, '\x7d' :: left⟩ := (leads_opening hopen hroom).2
      Leads depth _ _ := leads_mark rfl rfl fun _ => rfl
  | cons e rest =>
    -- The frame is opened by the first key and not by the brace.
    obtain ⟨he, hrest⟩ := List.forall_mem_cons.mp h
    obtain ⟨hfirst, hothers⟩ := List.forall_mem_cons.mp hfits
    have hparted := parted_more left (.inr rfl) (fun e => ' ' :: entryText e) rest
    have hlast : Leads depth ⟨.record [] e.1 :: stack, .next e.2, _ ++ '\x7d' :: left⟩ _ :=
      leads_entries hrest hothers
    rw [List.reverse_nil, List.nil_append, Record.ofPairs_of_nodup hkeys] at hlast
    rw [toList_write_record]
    simp only [List.cons_append, List.append_assoc, List.nil_append]
    calc
      Leads depth _ ⟨stack, .keyOrClose, _⟩ := (leads_opening hopen hroom).2
      Leads depth _ ⟨.record [] e.1 :: stack, .next e.2, _⟩ :=
        leads_entry he (fun _ _ => rfl) hfirst hparted
      Leads depth _ _ := hlast

/-- **Values.** The text of a plain value is taken for the value. -/
theorem rereads (h : v.Plain) : Rereads v := by
  induction h with
  | null => exact rereads_of_heads (fun _ _ => heads_null) fun _ => rfl
  | bool b => exact rereads_of_heads (fun _ _ => heads_bool b) fun _ => rfl
  | int h => exact rereads_int h
  | text s => exact rereads_of_heads (fun _ _ => heads_text s) fun _ => rfl
  | list _ ih => exact rereads_list ih
  | record hkeys _ ih => exact rereads_record hkeys ih

/-- A text that is read to its end does not begin with a byte order mark. -/
theorem readWithin_of_run {text : String} (h : run depth [] .value (tokens text.toList) = .ok v) :
    readWithin depth text = .ok v := by
  unfold readWithin
  split
  · next first rest htext =>
    rw [htext] at h
    split
    -- No token begins with the mark, so the run would have failed.
    · next hmark =>
      obtain rfl : first = Char.ofNat 0xfeff := by rw [← hmark, Char.ofNat_toNat]
      cases h
    · exact h
  · next htext => rwa [htext] at h

/-- **Round trip.** A plain value that is not nested too far is read back from its text. -/
theorem read_write (h : v.Plain) (hdepth : v.nesting ≤ depthLimit) : read (write v) = .ok v := by
  have hparted : Parted [] := fun _ hnone => nomatch hnone
  obtain ⟨position, hrun⟩ := rereads h depthLimit [] .value [] (.inl rfl)
    (by rwa [List.length_nil, Nat.zero_add]) hparted 0
  rw [List.append_nil] at hrun
  exact readWithin_of_run hrun

end Json

end DynamicForm

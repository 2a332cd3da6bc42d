import DynamicForm.Text.Case

/-!
# Lower case of a stretch of text

Lower case goes through a text character by character, and the neighbours of a character matter for
one of them only: a capital sigma that ends a word becomes `ς`, every other one `σ`. A stretch of a
text is therefore lowered as it would be alone, unless a capital sigma in it ends a word in one of
the two places and not in the other.

- `lowerAmid` is the lower case of a stretch between what stands before and after it.
- `lowerAmid_eq_iff`: in two places it is the same exactly if every capital sigma of the stretch
  ends a word in both of them or in neither.
- `KeepsSigmas` is this condition for a stretch of a text and the stretch alone.
- `lowerFrom_eq_self`: ASCII text without capital letters is in lower case already.
- `lowerChars_of_caseVariant`: the case of ASCII letters has no influence.
-/

namespace DynamicForm.Text

variable {before before' after after' xs ys cs ds : List Char} {c : Char}

/-! ## Stretches

To lower a stretch one has to look beyond its ends, to the left over what has been passed and to the
right over what is still to come. The program keeps the left side in reverse, and so does this. -/

/-- Whether a letter ends a word; the characters before it stand in reverse. -/
def endsWord (before after : List Char) : Bool := meetsCased before && !meetsCased after

/-- The lower case of one character between others. -/
def lowerOne (before : List Char) (c : Char) (after : List Char) : List Char :=
  if c == 'Σ' then if endsWord before after then ['ς'] else ['σ']
  else if c == 'İ' then ['i', Char.ofNat 0x307]
  else [lowerChar c]

/-- The lower case of the middle one of three stretches; the first one stands in reverse. -/
def lowerAmid : List Char → List Char → List Char → List Char
  | _, [], _ => []
  | before, c :: rest, after =>
    lowerOne before c (rest ++ after) ++ lowerAmid (c :: before) rest after

/-- One character at a time, with what stands before it. -/
theorem lowerFrom_cons (before : List Char) (c : Char) (rest : List Char) :
    lowerFrom before (c :: rest) = lowerOne before c rest ++ lowerFrom (c :: before) rest := rfl

/-- The lower case of a text is that of its stretches, each in its place. -/
theorem lowerFrom_append (before xs after : List Char) :
    lowerFrom before (xs ++ after) =
      lowerAmid before xs after ++ lowerFrom (xs.reverse ++ before) after := by
  induction xs generalizing before with
  | nil => rfl
  | cons c rest ih =>
    rw [List.cons_append, lowerFrom_cons, ih (c :: before), lowerAmid, List.append_assoc,
      List.reverse_cons, List.append_assoc, List.singleton_append]

/-- A text alone stands between nothing. -/
theorem lowerAmid_alone (cs : List Char) : lowerAmid [] cs [] = lowerChars cs := by
  have h : lowerFrom [] (cs ++ []) = lowerAmid [] cs [] ++ lowerFrom (cs.reverse ++ []) [] :=
    lowerFrom_append [] cs []
  rw [List.append_nil] at h
  exact (h.trans (List.append_nil _)).symm

/-- So the middle one of three stretches can be seen in the lower case of the whole. -/
theorem lowerChars_append_append (before xs after : List Char) :
    ∃ front back, lowerChars (before ++ xs ++ after) =
      front ++ lowerAmid before.reverse xs after ++ back := by
  refine ⟨lowerAmid [] before (xs ++ after), lowerFrom (xs.reverse ++ before.reverse) after, ?_⟩
  rw [lowerChars, List.append_assoc, lowerFrom_append, List.append_nil, lowerFrom_append,
    List.append_assoc]

/-! ## Neighbours

Only for a capital sigma do the neighbours matter, and of these only whether there is a letter with
case before it and none after it. Characters that are skipped in this search may stand in between.
-/

/-- The search skips some characters, and stops at any other. -/
theorem meetsCased_cons (c : Char) (rest : List Char) :
    meetsCased (c :: rest) =
      if caseIgnorableRanges.contains c.toNat then meetsCased rest
      else casedRanges.contains c.toNat := by
  unfold meetsCased
  rw [List.dropWhile_cons]
  cases caseIgnorableRanges.contains c.toNat <;> rfl

/-- Any other character does not look at its neighbours. -/
theorem lowerOne_of_ne (h : c ≠ 'Σ') (before before' after after' : List Char) :
    lowerOne before c after = lowerOne before' c after' := by
  simp [lowerOne, h]

theorem lowerOne_sigma :
    lowerOne before 'Σ' after = lowerOne before' 'Σ' after' ↔
      endsWord before after = endsWord before' after' := by
  unfold lowerOne
  cases endsWord before after <;> cases endsWord before' after' <;> decide

theorem length_lowerOne (c : Char) (before before' after after' : List Char) :
    (lowerOne before c after).length = (lowerOne before' c after').length := by
  unfold lowerOne
  repeat' split
  all_goals rfl

/-- **Lower case in two places.** Only capital sigmas can tell the places from each other. -/
theorem lowerAmid_eq_iff :
    lowerAmid before xs after = lowerAmid before' xs after' ↔
      ∀ front back, xs = front ++ 'Σ' :: back →
        endsWord (front.reverse ++ before) (back ++ after) =
          endsWord (front.reverse ++ before') (back ++ after') := by
  induction xs generalizing before before' with
  | nil => simp [lowerAmid]
  | cons c rest ih =>
    -- The parts for `c` have the same length in both places, so they are equal one by one.
    have hsplit : lowerAmid before (c :: rest) after = lowerAmid before' (c :: rest) after' ↔
        lowerOne before c (rest ++ after) = lowerOne before' c (rest ++ after') ∧
          lowerAmid (c :: before) rest after = lowerAmid (c :: before') rest after' :=
      ⟨fun h => List.append_inj h (length_lowerOne c _ _ _ _),
        fun ⟨hone, hrest⟩ => by rw [lowerAmid, lowerAmid, hone, hrest]⟩
    rw [hsplit, ih]
    constructor
    · rintro ⟨hone, hrest⟩ front back heq
      cases front with
      | nil =>
        obtain ⟨rfl, rfl⟩ := List.cons.inj heq
        exact lowerOne_sigma.mp hone
      | cons d front =>
        obtain ⟨rfl, rfl⟩ := List.cons.inj heq
        simpa using hrest front back rfl
    · intro h
      constructor
      · by_cases hc : c = 'Σ'
        · subst hc
          exact lowerOne_sigma.mpr (h [] rest rfl)
        · exact lowerOne_of_ne hc _ _ _ _
      · intro front back heq
        simpa using h (c :: front) back (by rw [heq, List.cons_append])

/-- Every capital sigma of the middle stretch ends a word in the whole text exactly if it does in
the stretch alone. -/
def KeepsSigmas (before xs after : List Char) : Prop :=
  ∀ front back, xs = front ++ 'Σ' :: back →
    endsWord (front.reverse ++ before.reverse) (back ++ after) = endsWord front.reverse back

theorem lowerAmid_eq_lowerChars_iff :
    lowerAmid before.reverse xs after = lowerChars xs ↔ KeepsSigmas before xs after := by
  rw [← lowerAmid_alone, lowerAmid_eq_iff]
  simp only [KeepsSigmas, List.append_nil]

/-- Without capital sigmas there is nothing to keep. -/
theorem keepsSigmas_of_not_mem (h : 'Σ' ∉ xs) : KeepsSigmas before xs after :=
  fun front _ heq => absurd (heq ▸ List.mem_append_right front List.mem_cons_self) h

/-- A character that parts words: it has no case and is not skipped when a word is looked for. -/
def partsWords (c : Char) : Bool :=
  !casedRanges.contains c.toNat && !caseIgnorableRanges.contains c.toNat

/-- A search ends at a character that parts words and has no case. -/
theorem meetsCased_append (h : ∀ c ∈ ys.head?, partsWords c = true) :
    meetsCased (xs ++ ys) = meetsCased xs := by
  induction xs with
  | nil =>
    cases ys with
    | nil => rfl
    | cons c rest =>
      have hc := h c rfl
      simp only [partsWords, Bool.and_eq_true, Bool.not_eq_true'] at hc
      rw [List.nil_append, meetsCased_cons, hc.2, hc.1]
      rfl
  | cons c rest ih => rw [List.cons_append, meetsCased_cons, meetsCased_cons, ih]

/-- A stretch whose neighbours part words is lowered as it would be alone. -/
theorem keepsSigmas_of_partsWords (hbefore : ∀ c ∈ before.getLast?, partsWords c = true)
    (hafter : ∀ c ∈ after.head?, partsWords c = true) : KeepsSigmas before xs after := by
  intro front back _
  rw [endsWord, meetsCased_append (by simpa using hbefore), meetsCased_append hafter, endsWord]

/-! ## ASCII letters

The case of an ASCII letter is none of the things that the lower case of a text depends on. That the
two forms of a letter agree in everything else is checked letter by letter. -/

/-- Two texts that differ at most in the case of ASCII letters. -/
def CaseVariant (cs ds : List Char) : Prop := cs.map Char.toLower = ds.map Char.toLower

/-- A character other than a capital ASCII letter is its own small form. -/
theorem toLower_eq_self_or (c : Char) : c.toLower = c ∨ ∃ i : Fin 26, c = Char.ofNat (65 + i) := by
  unfold Char.toLower
  split
  · next h =>
    have hlow : 65 ≤ c.toNat := h.1
    have hhigh : c.toNat ≤ 90 := h.2
    refine .inr ⟨⟨c.toNat - 65, by omega⟩, ?_⟩
    rw [Nat.add_sub_cancel' hlow, Char.ofNat_toNat]
  · exact .inl rfl

/-- Two characters that agree in all that the lower case of a text depends on. -/
structure SameCase (c d : Char) : Prop where
  cased : casedRanges.contains c.toNat = casedRanges.contains d.toNat
  ignorable : caseIgnorableRanges.contains c.toNat = caseIgnorableRanges.contains d.toNat
  sigma : (c == 'Σ') = (d == 'Σ')
  dotted : (c == 'İ') = (d == 'İ')
  small : lowerChar c = lowerChar d

instance (c d : Char) : Decidable (SameCase c d) :=
  decidable_of_decidable_of_iff
    (p := casedRanges.contains c.toNat = casedRanges.contains d.toNat ∧
      caseIgnorableRanges.contains c.toNat = caseIgnorableRanges.contains d.toNat ∧
      (c == 'Σ') = (d == 'Σ') ∧ (c == 'İ') = (d == 'İ') ∧ lowerChar c = lowerChar d)
    ⟨fun ⟨hcased, hignorable, hsigma, hdotted, hsmall⟩ =>
      ⟨hcased, hignorable, hsigma, hdotted, hsmall⟩,
    fun ⟨hcased, hignorable, hsigma, hdotted, hsmall⟩ =>
      ⟨hcased, hignorable, hsigma, hdotted, hsmall⟩⟩

/-- So do a capital ASCII letter and its small form. -/
theorem sameCase_toLower (c : Char) : SameCase c.toLower c := by
  have hcapital : ∀ i : Fin 26, SameCase (Char.ofNat (65 + i)).toLower (Char.ofNat (65 + i)) := by
    decide +kernel
  rcases toLower_eq_self_or c with hself | ⟨i, rfl⟩
  · rw [hself]
    exact ⟨rfl, rfl, rfl, rfl, rfl⟩
  · exact hcapital i

theorem meetsCased_map_toLower (cs : List Char) :
    meetsCased (cs.map Char.toLower) = meetsCased cs := by
  induction cs with
  | nil => rfl
  | cons c rest ih =>
    have hsame := sameCase_toLower c
    rw [List.map_cons, meetsCased_cons, meetsCased_cons, hsame.ignorable, hsame.cased, ih]

theorem lowerOne_map_toLower (before after : List Char) (c : Char) :
    lowerOne (before.map Char.toLower) c.toLower (after.map Char.toLower) =
      lowerOne before c after := by
  have hsame := sameCase_toLower c
  unfold lowerOne endsWord
  rw [hsame.sigma, hsame.dotted, hsame.small, meetsCased_map_toLower, meetsCased_map_toLower]

theorem lowerFrom_map_toLower (before cs : List Char) :
    lowerFrom (before.map Char.toLower) (cs.map Char.toLower) = lowerFrom before cs := by
  induction cs generalizing before with
  | nil => rfl
  | cons c rest ih =>
    have hrest : lowerFrom (c.toLower :: before.map Char.toLower) (rest.map Char.toLower) =
        lowerFrom (c :: before) rest := ih (c :: before)
    have hone := lowerOne_map_toLower before rest c
    rw [List.map_cons, lowerFrom_cons, lowerFrom_cons, hone, hrest]

/-- An ASCII character that is no capital letter is its own small form, wherever it stands. -/
theorem lowerOne_eq_self (hascii : c.toNat < 128) (hsmall : c.toNat < 65 ∨ 90 < c.toNat)
    (before after : List Char) : lowerOne before c after = [c] := by
  have hsigma : c ≠ 'Σ' := by
    rintro rfl
    exact absurd hascii (by decide)
  have hdotted : c ≠ 'İ' := by
    rintro rfl
    exact absurd hascii (by decide)
  have hstays : moveCase lowerRuns c.toNat = c.toNat := by
    rcases hsmall with hbefore | hafter
    · exact if_pos hbefore
    · -- the first run of capitals is A to Z, and all others lie beyond ASCII
      have hfirst : ¬c.toNat < 65 := by omega
      have hlast : ¬(c.toNat ≤ 90 ∧ (c.toNat - 65) % 1 = 0) := by omega
      have hsecond : c.toNat < 192 := by omega
      exact (if_neg hfirst).trans ((if_neg hlast).trans (if_pos hsecond))
  rw [lowerOne, if_neg (by simpa using hsigma), if_neg (by simpa using hdotted), lowerChar, hstays,
    Char.ofNat_toNat]

theorem lowerFrom_eq_self (h : ∀ c ∈ cs, c.toNat < 128 ∧ (c.toNat < 65 ∨ 90 < c.toNat))
    (before : List Char) : lowerFrom before cs = cs := by
  induction cs generalizing before with
  | nil => rfl
  | cons c rest ih =>
    obtain ⟨hc, hrest⟩ := List.forall_mem_cons.mp h
    rw [lowerFrom_cons, lowerOne_eq_self hc.1 hc.2, ih hrest, List.singleton_append]

/-- **ASCII letters.** Texts that differ in their case have the same lower case. -/
theorem lowerChars_of_caseVariant (h : CaseVariant cs ds) : lowerChars cs = lowerChars ds := calc
  lowerChars cs = lowerChars (cs.map Char.toLower) := (lowerFrom_map_toLower [] cs).symm
  _ = lowerChars (ds.map Char.toLower) := congrArg lowerChars h
  _ = lowerChars ds := lowerFrom_map_toLower [] ds

end DynamicForm.Text

import DynamicForm.Json.Token
import DynamicForm.Json.Writer
import Mathlib.Tactic.SplitIfs

/-!
# Reading written strings

A string is written one character after the other: a character stands for itself, or it has a short
escape, or it is spelled by one code unit or by a pair of them. What follows a character never
changes how it is read, as long as there is something: a pair at the very end would be torn apart.

- `Spells` says which characters stand for a character, whatever comes before and after them.
- `hexPadded_succ`, `exists_digits`: the digits of a code unit, and the unit that they spell.
- `spells_writtenChar`: a written character is read as that character.
- `readText_written`: a written string is read as that string.
-/

namespace DynamicForm.Json

variable {start position : Nat} {done cs tail : List Char} {c : Char} {n : Nat}

/-- The characters stand for one character of a string. -/
def Spells (cs : List Char) (c : Char) : Prop :=
  ∀ (start position : Nat) (done tail : List Char), tail ≠ [] →
    readText start position 0 done (cs ++ tail) =
      readText start (position + cs.length) 0 (c :: done) tail

/-! ## Code units

An escape has four hexadecimal digits, which are written from the last one and read from the first.
-/

/-- A digit is read as the value it was written for. -/
theorem hexValue?_digitChar : ∀ d < 16, hexValue? (Nat.digitChar d) = some d := by decide

/-- The last digit is the remainder. -/
theorem hexPadded_succ (width n : Nat) :
    (Text.hexPadded (width + 2) n).toList =
      (Text.hexPadded (width + 1) (n / 16)).toList ++ [Nat.digitChar (n % 16)] := by
  simp only [Text.hexPadded, String.toList_ofList]
  -- A single digit gives up one zero of the padding, and otherwise the padding stays as it is.
  by_cases hn : n < 16
  · have hzero : n / 16 = 0 := Nat.div_eq_of_lt hn
    rw [hzero, Nat.mod_eq_of_lt hn, Nat.toDigits_of_lt_base hn, Nat.toDigits_zero]
    simp [List.replicate_succ']
  · rw [Nat.toDigits_of_base_le (by decide) (Nat.le_of_not_lt hn)]
    simp [List.append_assoc]

theorem hexPadded_one (h : n < 16) : (Text.hexPadded 1 n).toList = [Nat.digitChar n] := by
  simp [Text.hexPadded, Nat.toDigits_of_lt_base h]

/-- A code unit has four digits. -/
theorem exists_digits (h : n < 0x10000) :
    ∃ a b c d, (unitEscape n).toList = ['\\', 'u', a, b, c, d] ∧ hexFour? a b c d = some n := by
  have hfirst : n / 16 / 16 / 16 < 16 := by omega
  have hrest (m : Nat) : m % 16 < 16 := Nat.mod_lt m (by decide)
  refine ⟨(n / 16 / 16 / 16).digitChar, (n / 16 / 16 % 16).digitChar, (n / 16 % 16).digitChar,
    (n % 16).digitChar, ?_, ?_⟩
  · rw [unitEscape, String.toList_append, hexPadded_succ, hexPadded_succ, hexPadded_succ,
      hexPadded_one hfirst]
    rfl
  · have hvalue : ((n / 16 / 16 / 16 * 16 + n / 16 / 16 % 16) * 16 + n / 16 % 16) * 16 + n % 16 =
        n := by omega
    simp [hexFour?, hexValue?_digitChar _ hfirst, hexValue?_digitChar _ (hrest _), hvalue]

/-! ## Characters

The proofs follow the writer: one lemma for each way in which it can spell a character. -/

/-- Characters that belong to an escape are passed over. -/
theorem readText_skip (passed : List Char) :
    readText start position passed.length done (passed ++ tail) =
      readText start (position + passed.length) 0 done tail := by
  induction passed generalizing position with
  | nil => rfl
  | cons c rest ih =>
    rw [List.length_cons, List.cons_append, readText, ih, Nat.add_right_comm, Nat.add_assoc]

/-- What is read as an escape stands for the character that is escaped. -/
theorem spells_of_escapeStep (h : ∀ tail ≠ [], escapeStep (cs ++ tail) =
    some (.char c (cs.length + 1))) : Spells ('\\' :: cs) c := by
  intro start position done tail htail
  have hstep : readText start position 0 done ('\\' :: (cs ++ tail)) =
      readText start (position + 1) cs.length (c :: done) (cs ++ tail) := by
    rw [readText]
    simp [h tail htail]
  rw [List.cons_append, hstep, readText_skip, List.length_cons, Nat.add_right_comm, Nat.add_assoc]

/-- A character that needs no escape is read as it stands. -/
theorem spells_plain (hquote : c ≠ '"') (hslash : c ≠ '\\') (hc : 32 ≤ c.toNat) :
    Spells [c] c := by
  intro start position done tail _
  rw [List.singleton_append, readText]
  simp [hquote, hslash, Nat.not_lt.mpr hc]

/-- An escape of one letter is looked up in a table. -/
theorem spells_short {e : Char} (hu : e ≠ 'u') (h : shortEscape? e = some c) :
    Spells ['\\', e] c := by
  refine spells_of_escapeStep fun tail _ => ?_
  rw [List.singleton_append, escapeStep]
  · rw [h]
    rfl
  · simp [hu]
  · simp [hu]

/-- A code unit that is no half of a pair is a character by itself. -/
theorem spells_unit (h : n < 0x10000) (hn : ¬(0xd800 ≤ n ∧ n ≤ 0xdfff)) :
    Spells (unitEscape n).toList (Char.ofNat n) := by
  obtain ⟨a, b, c, d, hunit, hfour⟩ := exists_digits h
  rw [hunit]
  refine spells_of_escapeStep fun tail htail => ?_
  obtain ⟨next, rest, rfl⟩ := List.exists_cons_of_ne_nil htail
  have hhigh : isHighSurrogate n = false := by
    rw [isHighSurrogate, decide_eq_false_iff_not]
    omega
  -- Another escape may follow, but it is not taken for the second half of a pair.
  have hstep : unicodeStep n (next :: rest) = .char (unitChar n) 6 := by
    unfold unicodeStep
    split
    · rw [hhigh]
      rfl
    · rfl
  change escapeStep ('u' :: a :: b :: c :: d :: next :: rest) = _
  rw [escapeStep, hfour]
  refine congrArg some (hstep.trans ?_)
  rw [unitChar, if_neg hn]
  rfl

/-- A pair of code units is one character. -/
theorem spells_pair (h : n < 0x100000) :
    Spells (unitEscape (0xd800 + n / 0x400) ++ unitEscape (0xdc00 + n % 0x400)).toList
      (Char.ofNat (n + 0x10000)) := by
  obtain ⟨a, b, c, d, hhigh, hfour⟩ := exists_digits (n := 0xd800 + n / 0x400) (by omega)
  obtain ⟨e, f, g, k, hlow, hnext⟩ := exists_digits (n := 0xdc00 + n % 0x400) (by omega)
  rw [String.toList_append, hhigh, hlow]
  refine spells_of_escapeStep fun tail htail => ?_
  obtain ⟨next, rest, rfl⟩ := List.exists_cons_of_ne_nil htail
  have hfirst : isHighSurrogate (0xd800 + n / 0x400) = true := by
    rw [isHighSurrogate, decide_eq_true_iff]
    omega
  have hsecond : isLowSurrogate (0xdc00 + n % 0x400) = true := by
    rw [isLowSurrogate, decide_eq_true_iff]
    omega
  -- the two halves come together to the number of the character
  have hjoin : joinSurrogates (0xd800 + n / 0x400) (0xdc00 + n % 0x400) =
      Char.ofNat (n + 0x10000) := congrArg Char.ofNat (by omega)
  have hstep : unicodeStep (0xd800 + n / 0x400) ('\\' :: 'u' :: e :: f :: g :: k :: next :: rest) =
      .char (Char.ofNat (n + 0x10000)) 12 := by
    rw [unicodeStep, if_pos hfirst, hnext]
    dsimp only
    rw [if_pos hsecond, hjoin]
  change escapeStep ('u' :: a :: b :: c :: d :: '\\' :: 'u' :: e :: f :: g :: k :: next :: rest) = _
  rw [escapeStep, hfour]
  exact congrArg some hstep

/-- **Characters.** The text of a character is read as that character. -/
theorem spells_writtenChar (c : Char) : Spells (writtenChar c).toList c := by
  unfold writtenChar
  split_ifs with hquote hslash hline hreturn htab hback hfeed hplain hunit
  · subst hquote
    exact spells_short (by decide) rfl
  · subst hslash
    exact spells_short (by decide) rfl
  · subst hline
    exact spells_short (by decide) rfl
  · subst hreturn
    exact spells_short (by decide) rfl
  · subst htab
    exact spells_short (by decide) rfl
  -- the remaining short escapes, for which the character is given by its number
  · obtain rfl : c = Char.ofNat 8 := by rw [← hback, Char.ofNat_toNat]
    exact spells_short (by decide) rfl
  · obtain rfl : c = Char.ofNat 12 := by rw [← hfeed, Char.ofNat_toNat]
    exact spells_short (by decide) rfl
  · rw [String.toList_ofList]
    exact spells_plain hquote hslash hplain.1
  -- no character is a surrogate, so one unit is enough or two are needed
  · have hscalar : ¬(0xd800 ≤ c.toNat ∧ c.toNat ≤ 0xdfff) := by
      have hvalid : c.toNat < 0xd800 ∨ (0xdfff < c.toNat ∧ c.toNat < 0x110000) := c.valid
      omega
    have hspelled := spells_unit (Nat.lt_succ_of_le hunit) hscalar
    rwa [Char.ofNat_toNat] at hspelled
  · have hvalid : c.toNat < 0xd800 ∨ (0xdfff < c.toNat ∧ c.toNat < 0x110000) := c.valid
    have hspelled := spells_pair (n := c.toNat - 0x10000) (by omega)
    rwa [Nat.sub_add_cancel (by omega), Char.ofNat_toNat] at hspelled

/-! ## Strings

Since a written character is read wherever it stands, a string of them is read one after the other.
-/

/-- The text of a string is that of its characters, in quotes. -/
theorem toList_writeText (s : String) : (writeText s).toList =
    '"' :: (s.toList.flatMap fun c => (writtenChar c).toList) ++ ['"'] := by
  simp [writeText, String.toList_join, List.flatMap_map]

/-- **Strings.** A written string is read as that string. -/
theorem readText_written (cs : List Char) :
    readText start position 0 done ((cs.flatMap fun c => (writtenChar c).toList) ++ '"' :: tail) =
      .ok (String.ofList (done.reverse ++ cs),
        position + (cs.flatMap fun c => (writtenChar c).toList).length + 1) := by
  induction cs generalizing position done with
  | nil => simp [readText]
  | cons c rest ih =>
    rw [List.flatMap_cons, List.append_assoc,
      spells_writtenChar c _ _ _ _ (List.append_ne_nil_of_right_ne_nil _ (List.cons_ne_nil _ _)),
      ih, List.reverse_cons, List.append_assoc, List.singleton_append, List.length_append,
      Nat.add_assoc position]

end DynamicForm.Json

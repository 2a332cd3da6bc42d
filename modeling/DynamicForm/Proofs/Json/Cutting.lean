import DynamicForm.Proofs.Json.Quotation
import Mathlib.Data.List.TakeDrop

/-!
# Cutting written text

Written text is cut where it was put together. A bracket, a separator, a word and a string end by
themselves. The digits of an integer go on for as long as there are more of them, so the integer has
to be parted from what follows.

- `Heads` says that a text is cut off as one token from what follows, wherever it stands.
- `Parted` says of what follows a value that it parts the value from the rest.
- `exists_toDigits`: a number begins with a zero only when it is zero.
- `heads_mark`, `heads_text`, `heads_int`: marks, strings and integers.
-/

namespace DynamicForm.Json

variable {position : Nat} {c : Char} {cs rest : List Char} {t : Token}

/-- The text is cut off as a token from what follows. -/
def Heads (cs : List Char) (t : Token) (rest : List Char) : Prop :=
  ∀ position, tokensFrom position 0 (cs ++ rest) =
    (position, t) :: tokensFrom (position + cs.length) 0 rest

/-- Nothing follows, or a separator or the end of a list or record does. -/
def Parted (rest : List Char) : Prop :=
  ∀ c ∈ rest.head?, c = ',' ∨ c = ']' ∨ c = '\x7d'

/-! ## Tokens

A token is cut off at a place by looking at the characters from there on. The rest of its characters
is passed over, so that a proof that a text is one token has to say how many they are. -/

/-- Characters that belong to the token before are passed over. -/
theorem tokensFrom_skip (passed : List Char) :
    tokensFrom position passed.length (passed ++ rest) =
      tokensFrom (position + passed.length) 0 rest := by
  induction passed generalizing position with
  | nil => rfl
  | cons c more ih =>
    rw [List.length_cons, List.cons_append, tokensFrom, ih, Nat.add_right_comm, Nat.add_assoc]

/-- It is enough to know what is cut off in front of the text, and that it is all of it. -/
theorem heads_of_cut (hc : isBlank c = false)
    (h : ∀ position, cut position (c :: (cs ++ rest)) = some (t, cs.length + 1)) :
    Heads (c :: cs) t rest := by
  intro position
  rw [List.cons_append, tokensFrom, hc, h position]
  dsimp only
  rw [if_neg Bool.false_ne_true, Nat.add_sub_cancel, tokensFrom_skip, List.length_cons,
    Nat.add_right_comm, Nat.add_assoc]

/-- A bracket, a comma or a colon is a token at sight. -/
theorem heads_mark (hc : isBlank c = false) (h : mark? c = some t) : Heads [c] t rest := by
  refine heads_of_cut hc fun position => ?_
  rw [List.nil_append, cut, h]
  rfl

theorem heads_null : Heads "null".toList .null rest := heads_of_cut rfl fun _ => rfl

theorem heads_bool : ∀ b : Bool, Heads (write (.bool b)).toList (.bool b) rest
  | true => heads_of_cut rfl fun _ => rfl
  | false => heads_of_cut rfl fun _ => rfl

/-- **Strings.** A written string is cut off as that string. -/
theorem heads_text (s : String) : Heads (writeText s).toList (.text s) rest := by
  rw [toList_writeText, List.cons_append]
  refine heads_of_cut rfl fun position => ?_
  have hmark : mark? '"' = none := rfl
  have hread : readText position (position + 1) 0 [] (_ ++ '"' :: rest) = _ :=
    readText_written s.toList
  rw [List.append_assoc, List.singleton_append, cut, hmark]
  simp only [if_true, hread, Option.some.injEq, Prod.mk.injEq, Token.text.injEq]
  refine ⟨?_, ?_⟩
  · rw [List.reverse_nil, List.nil_append, String.ofList_toList]
  · rw [List.length_append, List.length_singleton]
    omega

/-! ## Integers

The first digit decides: a zero stands alone, any other digit goes on. Written integers have no zero
in front, so nothing is left over that would be read as a second number. -/

/-- What each decimal digit is, and what it is not. -/
theorem digitChar_facts : ∀ d < 10, Text.isAsciiDigit d.digitChar = true ∧
    isBlank d.digitChar = false ∧ mark? d.digitChar = none ∧ d.digitChar ≠ '"' ∧
    d.digitChar ≠ '-' ∧ (d ≠ 0 → d.digitChar ≠ '0') := by
  decide

/-- A number begins with a zero only when it is zero. -/
theorem exists_toDigits (n : Nat) : ∃ d < 10, ∃ ds, Nat.toDigits 10 n = d.digitChar :: ds ∧
    (∀ c ∈ ds, Text.isAsciiDigit c = true) ∧ (d = 0 → n = 0) := by
  induction n using Nat.strongRecOn with
  | ind n ih =>
    by_cases hn : n < 10
    · exact ⟨n, hn, [], Nat.toDigits_of_lt_base hn, List.forall_mem_nil _, id⟩
    · obtain ⟨d, hd, ds, heq, hds, hzero⟩ := ih (n / 10) (by omega)
      have hlast := (digitChar_facts (n % 10) (by omega)).1
      refine ⟨d, hd, ds ++ [(n % 10).digitChar], ?_, ?_, fun h => absurd (hzero h) (by omega)⟩
      · rw [Nat.toDigits_of_base_le (by decide) (Nat.le_of_not_lt hn), heq, List.cons_append]
      · exact List.forall_mem_append.mpr ⟨hds, List.forall_mem_singleton.mpr hlast⟩

theorem asciiNumber_toDigits (n : Nat) : Text.asciiNumber (Nat.toDigits 10 n) = n := by
  rw [Text.asciiNumber, Text.digitsValue, List.foldl_map]
  exact Nat.ofDigitChars_toDigits (by decide) (by decide)

/-- What parts a value from the rest is no part of a number. -/
theorem Parted.number (h : Parted rest) : rest.takeWhile Text.isAsciiDigit = [] ∧
    rest.dropWhile Text.isAsciiDigit = rest ∧ splitFraction rest = ([], rest) ∧
    splitExponent rest = ([], rest) := by
  cases rest with
  | nil => exact ⟨rfl, rfl, rfl, rfl⟩
  | cons c more =>
    obtain rfl | rfl | rfl := h c rfl
    · exact ⟨rfl, rfl, rfl, rfl⟩
    · exact ⟨rfl, rfl, rfl, rfl⟩
    · exact ⟨rfl, rfl, rfl, rfl⟩

/-- All digits are cut off. -/
theorem splitWhole_toDigits (n : Nat) (h : Parted rest) :
    splitWhole (Nat.toDigits 10 n ++ rest) = (Nat.toDigits 10 n, rest) := by
  obtain ⟨d, hd, ds, heq, hds, hzero⟩ := exists_toDigits n
  obtain ⟨hdigit, -, -, -, -, hleading⟩ := digitChar_facts d hd
  obtain ⟨htake, hdrop, -, -⟩ := h.number
  -- Behind a leading zero the digits would not be taken, so it must be the only one.
  by_cases hn : n = 0
  · subst hn
    rfl
  · have hall : ∀ c ∈ d.digitChar :: ds, Text.isAsciiDigit c = true :=
      List.forall_mem_cons.mpr ⟨hdigit, hds⟩
    rw [heq, List.cons_append, splitWhole, ← List.cons_append, List.span_eq_takeWhile_dropWhile,
      List.takeWhile_append_of_pos hall, List.dropWhile_append_of_pos hall, htake, hdrop,
      List.append_nil]
    rintro more hmore
    exact hleading (fun hd => hn (hzero hd)) (List.cons.inj hmore).1

/-- After the digits there is neither a point nor an exponent, so the token is an integer. -/
theorem cutNumber_toDigits (negative : Bool) (n : Nat) (h : Parted rest) :
    cutNumber negative (Nat.toDigits 10 n ++ rest) =
      some (.int negative (Nat.toDigits 10 n), (Nat.toDigits 10 n).length) := by
  obtain ⟨-, -, hfraction, hexponent⟩ := h.number
  have hdigits : (Nat.toDigits 10 n).isEmpty = false :=
    List.isEmpty_eq_false_iff.mpr (List.ne_nil_of_length_pos Nat.length_toDigits_pos)
  rw [cutNumber, splitWhole_toDigits n h]
  simp only [hdigits, hfraction, hexponent]
  rfl

theorem heads_digits (n : Nat) (h : Parted rest) :
    Heads (Nat.toDigits 10 n) (.int false (Nat.toDigits 10 n)) rest := by
  obtain ⟨d, hd, ds, heq, -, -⟩ := exists_toDigits n
  obtain ⟨-, hblank, hmark, hquote, hsign, -⟩ := digitChar_facts d hd
  have hcut := cutNumber_toDigits false n h
  rw [heq] at hcut ⊢
  refine heads_of_cut hblank fun position => ?_
  rw [cut, hmark]
  dsimp only
  rw [if_neg hquote, if_neg hsign, ← List.cons_append, hcut]
  rfl

/-- The sign is one character more, and the digits follow it directly. -/
theorem heads_minus (n : Nat) (h : Parted rest) :
    Heads ('-' :: Nat.toDigits 10 n) (.int true (Nat.toDigits 10 n)) rest := by
  have hmark : mark? '-' = none := rfl
  refine heads_of_cut rfl fun position => ?_
  rw [cut, hmark]
  dsimp only
  rw [if_neg (by decide), if_pos rfl, cutNumber_toDigits true n h]
  rfl

/-- **Integers.** The text of an integer is cut off as its sign and digits. -/
theorem heads_int (n : Int) (h : Parted rest) :
    Heads (toString n).toList (.int (decide (n < 0)) (Nat.toDigits 10 n.natAbs)) rest := by
  rw [Int.toString_eq_repr]
  cases n with
  | ofNat n =>
    have hsign : decide (Int.ofNat n < 0) = false := decide_eq_false (by simp)
    rw [hsign, Int.repr.eq_1, Nat.toList_repr]
    exact heads_digits n h
  | negSucc n =>
    have hsign : decide (Int.negSucc n < 0) = true := decide_eq_true (Int.negSucc_lt_zero n)
    rw [hsign, Int.repr.eq_2, String.toList_append, Nat.toList_repr]
    exact heads_minus (n + 1) h

end DynamicForm.Json

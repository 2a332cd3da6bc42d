import DynamicForm.Proofs.Text.Utf8
import DynamicForm.Text.Printable
import DynamicForm.Web.Url

/-!
# Escapes

What may not stand in a path is escaped, and taking escapes back gives the text that was there. But a
percent sign is kept as it is: it is taken for the beginning of an escape that is there already. So a
text with percent signs does not come back, unless they begin no escape.

- `Url.isEscaped` says that there is nothing but safe characters and escapes.
- `Url.unescape_escape`: a text without percent signs comes back.
- `Url.length_unescape_escape`: each escape that is in a text already makes what comes back shorter.
-/

namespace DynamicForm.Url

open Text (utf8Bytes decodeLeniently)

/-- Whether there is nothing but characters that may stand in a path, and every percent sign begins
an escape. -/
def isEscaped : List Char → Bool
  | '%' :: a :: b :: rest =>
    (Text.hexValue? a).isSome && (Text.hexValue? b).isSome && isEscaped rest
  | c :: rest => c != '%' && isPathSafe c && isEscaped rest
  | [] => true

variable {c : Char} {cs rest : List Char}

/-! ## Characters

Which characters may stand in a path is a table. These are the facts about it that are used. -/

theorem isControl_of_isPathSafe (h : isPathSafe c = true) : isControl c = false := by
  simp only [isPathSafe, visibleExcept, Bool.and_eq_true, decide_eq_true_eq] at h
  exact decide_eq_false (by omega)

/-- A printable character is no control character. -/
theorem isControl_of_isPrintable (h : Text.isPrintable c = true) : isControl c = false := by
  have hsmall : ∀ n < 0x80, (n < 0x20 ∨ n = 0x7f) → Text.printableRanges.contains n = false := by
    decide +kernel
  refine decide_eq_false fun hcontrol => ?_
  have hfalse := hsmall c.toNat (by omega) hcontrol
  rw [Text.isPrintable, hfalse] at h
  cases h

/-- What ends a path may not stand in it. -/
theorem ne_of_isPathSafe {stop : Char} (h : isPathSafe c = true) (hstop : stop = '#' ∨ stop = '?') :
    c ≠ stop := by
  rintro rfl
  rcases hstop with rfl | rfl <;> revert h <;> decide

/-- A hexadecimal digit may stand in a path, and is no percent sign. -/
theorem isPathSafe_of_hexValue (h : (Text.hexValue? c).isSome = true) :
    isPathSafe c = true ∧ c ≠ '%' := by
  have hsmall : ∀ n < 0x67, (Text.hexValue? (Char.ofNat n)).isSome = true →
      isPathSafe (Char.ofNat n) = true ∧ Char.ofNat n ≠ '%' := by decide
  have hlt : c.toNat < 0x67 := by
    unfold Text.hexValue? at h
    split at h
    · next hc => exact Nat.lt_of_le_of_lt (show c.toNat ≤ 0x39 from hc.2) (by decide)
    split at h
    · next hc => exact Nat.lt_of_le_of_lt (show c.toNat ≤ 0x66 from hc.2) (by decide)
    split at h
    · next hc => exact Nat.lt_of_le_of_lt (show c.toNat ≤ 0x46 from hc.2) (by decide)
    · cases h
  have hc := hsmall c.toNat hlt
  rw [Char.ofNat_toNat] at hc
  exact hc h

theorem hexValue_hexDigit : ∀ n < 16, Text.hexValue? (hexDigit n) = some n := by decide

/-! ## Escaping

Every character is kept or becomes the escapes of its bytes, by itself and whatever stands around
it. -/

theorem escape_cons (safe : Char → Bool) :
    escape safe (c :: rest) = (if safe c then [c] else escapeChar c) ++ escape safe rest :=
  List.flatMap_cons

/-- Escapes are of characters that may stand in a path, without slashes. -/
theorem mem_escapeChar {d : Char} (h : d ∈ escapeChar c) : isPathSafe d = true ∧ d ≠ '/' := by
  have hdigit : ∀ n < 16, isPathSafe (hexDigit n) = true ∧ hexDigit n ≠ '/' := by decide
  obtain ⟨b, -, hb⟩ := List.mem_flatMap.mp h
  have hlt : b.toNat < 256 := b.toNat_lt
  simp only [escapeByte, List.mem_cons, List.not_mem_nil, or_false] at hb
  rcases hb with rfl | rfl | rfl
  · decide
  · exact hdigit _ (by omega)
  · exact hdigit _ (by omega)

/-- Nothing else is left in a text that has been escaped. -/
theorem isPathSafe_of_mem_escape (h : c ∈ escape isPathSafe cs) : isPathSafe c = true := by
  obtain ⟨d, -, hd⟩ := List.mem_flatMap.mp h
  split at hd
  · next hsafe => exact List.mem_singleton.mp hd ▸ hsafe
  · exact (mem_escapeChar hd).1

/-- Safe characters are kept. -/
theorem escape_eq_self (h : ∀ c ∈ cs, isPathSafe c = true) : escape isPathSafe cs = cs := by
  induction cs with
  | nil => rfl
  | cons c rest ih =>
    obtain ⟨hc, hrest⟩ := List.forall_mem_cons.mp h
    rw [escape_cons, if_pos hc, ih hrest, List.singleton_append]

/-! ## Taking escapes back

Escapes are taken back byte by byte, and only then are the bytes read as a text. So the argument
goes over bytes until the very end. -/

/-- A character that is no percent sign stands for its own bytes. -/
theorem unescapeBytes_cons (h : c ≠ '%') :
    unescapeBytes (c :: rest) = String.utf8EncodeChar c ++ unescapeBytes rest := by
  rw [unescapeBytes]
  rintro a b tail rfl
  exact absurd rfl h

theorem unescapeBytes_escapeByte (b : UInt8) (rest : List Char) :
    unescapeBytes (escapeByte b ++ rest) = b :: unescapeBytes rest := by
  have hlt : b.toNat < 256 := b.toNat_lt
  have hvalue : b.toNat / 16 * 16 + b.toNat % 16 = b.toNat := by omega
  change unescapeBytes ('%' :: hexDigit (b.toNat / 16) :: hexDigit (b.toNat % 16) :: rest) = _
  rw [unescapeBytes, hexValue_hexDigit _ (by omega), hexValue_hexDigit _ (by omega)]
  dsimp only
  rw [hvalue, UInt8.ofNat_toNat]

theorem unescapeBytes_escapeChar (c : Char) (rest : List Char) :
    unescapeBytes (escapeChar c ++ rest) = String.utf8EncodeChar c ++ unescapeBytes rest := by
  unfold escapeChar
  induction String.utf8EncodeChar c with
  | nil => rfl
  | cons b bytes ih =>
    rw [List.flatMap_cons, List.append_assoc, unescapeBytes_escapeByte, ih, List.cons_append]

/-- A character that is no percent sign comes back. -/
theorem unescapeBytes_escape_cons (h : c ≠ '%') :
    unescapeBytes (escape isPathSafe (c :: rest)) =
      String.utf8EncodeChar c ++ unescapeBytes (escape isPathSafe rest) := by
  rw [escape_cons]
  split
  · exact unescapeBytes_cons h
  · exact unescapeBytes_escapeChar c _

/-- **Escapes taken back.** A text without percent signs is what it was. -/
theorem unescape_escape (h : '%' ∉ cs) :
    unescape (String.ofList (escape isPathSafe cs)) = String.ofList cs := by
  have hbytes : unescapeBytes (escape isPathSafe cs) = utf8Bytes cs := by
    induction cs with
    | nil => rfl
    | cons c rest ih =>
      have hc : c ≠ '%' := (List.ne_of_not_mem_cons h).symm
      rw [unescapeBytes_escape_cons hc, ih (List.not_mem_of_not_mem_cons h)]
      rfl
  rw [unescape, String.toList_ofList, hbytes, Text.decodeLeniently_utf8Bytes]

/-! ## Escaped texts

A text without percent signs is escaped when it has been. With them this depends on whether each
begins an escape. -/

theorem isEscaped_cons (h : c ≠ '%') :
    isEscaped (c :: rest) = (isPathSafe c && isEscaped rest) := by
  rw [isEscaped]
  · rw [bne_iff_ne.mpr h, Bool.true_and]
  · rintro a b tail rfl
    exact absurd rfl h

theorem isEscaped_escapeChar_append (c : Char) (rest : List Char) :
    isEscaped (escapeChar c ++ rest) = isEscaped rest := by
  have hbyte : ∀ (b : UInt8) (rest : List Char),
      isEscaped (escapeByte b ++ rest) = isEscaped rest := by
    intro b rest
    have hlt : b.toNat < 256 := b.toNat_lt
    change isEscaped ('%' :: hexDigit (b.toNat / 16) :: hexDigit (b.toNat % 16) :: rest) = _
    rw [isEscaped, hexValue_hexDigit _ (by omega), hexValue_hexDigit _ (by omega)]
    rfl
  unfold escapeChar
  induction String.utf8EncodeChar c with
  | nil => rfl
  | cons b bytes ih => rw [List.flatMap_cons, List.append_assoc, hbyte, ih]

theorem isEscaped_escape_cons (h : c ≠ '%') :
    isEscaped (escape isPathSafe (c :: rest)) = isEscaped (escape isPathSafe rest) := by
  rw [escape_cons]
  split
  · next hsafe => rw [List.singleton_append, isEscaped_cons h, hsafe, Bool.true_and]
  · exact isEscaped_escapeChar_append c _

/-- A text without percent signs is escaped. -/
theorem isEscaped_escape (h : '%' ∉ cs) : isEscaped (escape isPathSafe cs) = true := by
  induction cs with
  | nil => rfl
  | cons c rest ih =>
    have hc : c ≠ '%' := (List.ne_of_not_mem_cons h).symm
    rw [isEscaped_escape_cons hc, ih (List.not_mem_of_not_mem_cons h)]

/-! ## Percent signs

The converse needs a count. If a percent sign was there before, it began an escape of three
characters, of which one at most comes back. -/

/-- A percent sign in an escaped text begins an escape. -/
theorem exists_of_isEscaped_percent (h : isEscaped ('%' :: cs) = true) :
    ∃ a b rest, cs = a :: b :: rest ∧ (Text.hexValue? a).isSome = true ∧
      (Text.hexValue? b).isSome = true ∧ isEscaped rest = true := by
  match cs, h with
  | a :: b :: rest, h =>
    rw [isEscaped, Bool.and_eq_true, Bool.and_eq_true] at h
    exact ⟨a, b, rest, rfl, h.1.1, h.1.2, h.2⟩

/-- What is escaped begins with a percent sign, and anything else has been kept. -/
theorem eq_cons_of_escape {d : Char} (h : escape isPathSafe cs = d :: rest) (hd : d ≠ '%') :
    ∃ tail, cs = d :: tail ∧ rest = escape isPathSafe tail := by
  cases cs with
  | nil => cases h
  | cons c tail =>
    rw [escape_cons] at h
    split at h
    · obtain ⟨rfl, hrest⟩ := List.cons.inj h
      exact ⟨tail, rfl, hrest.symm⟩
    · refine absurd ?_ hd
      unfold escapeChar at h
      cases hbytes : String.utf8EncodeChar c with
      | nil => exact absurd hbytes String.utf8EncodeChar_ne_nil
      | cons b bytes =>
        rw [hbytes] at h
        exact (List.cons.inj h).1.symm

/-- **Escapes that are there already** make what comes back shorter, by two characters each. -/
theorem length_unescape_escape (h : isEscaped (escape isPathSafe cs) = true) :
    (decodeLeniently (unescapeBytes (escape isPathSafe cs))).length + 2 * cs.count '%' ≤
      cs.length := by
  unfold decodeLeniently Text.utf8Pieces
  rw [List.length_map]
  induction hn : cs.length using Nat.strongRecOn generalizing cs with
  | _ n ih =>
    subst hn
    cases cs with
    | nil => exact Nat.le_refl _
    | cons c rest =>
      by_cases hc : c = '%'
      · subst hc
        have hkept : escape isPathSafe ('%' :: rest) = '%' :: escape isPathSafe rest := rfl
        rw [hkept] at h ⊢
        obtain ⟨a, b, tail, hdigits, ha, hb, htail⟩ := exists_of_isEscaped_percent h
        obtain ⟨m, hm⟩ := Option.isSome_iff_exists.mp ha
        obtain ⟨n, hn⟩ := Option.isSome_iff_exists.mp hb
        have hpa := (isPathSafe_of_hexValue ha).2
        have hpb := (isPathSafe_of_hexValue hb).2
        -- the digits have been there before
        rw [hdigits, unescapeBytes, hm, hn]
        obtain ⟨rest, rfl, hrest⟩ := eq_cons_of_escape hdigits hpa
        obtain ⟨rest, rfl, rfl⟩ := eq_cons_of_escape hrest.symm hpb
        have hle := ih rest.length (by simp only [List.length_cons]; omega) htail rfl
        have hpiece := Text.length_utf8PiecesFrom_cons_le (UInt8.ofNat (m * 16 + n))
          (unescapeBytes (escape isPathSafe rest))
        rw [List.count_cons_self, List.count_cons_of_ne hpa, List.count_cons_of_ne hpb]
        simp only [List.length_cons]
        omega
      · rw [isEscaped_escape_cons hc] at h
        have hle := ih rest.length (Nat.lt_succ_self _) h rfl
        rw [unescapeBytes_escape_cons hc, Text.utf8PiecesFrom_encodeChar,
          List.count_cons_of_ne hc, List.length_cons, List.length_cons]
        omega

/-- **A text that is no longer** than the one that comes back is that text, and it has no percent
signs. -/
theorem eq_of_unescape_escape {back : List Char} (h : isEscaped (escape isPathSafe cs) = true)
    (hback : unescape (String.ofList (escape isPathSafe cs)) = String.ofList back)
    (hlength : cs.length ≤ back.length) : cs = back ∧ '%' ∉ cs := by
  have hdecoded : decodeLeniently (unescapeBytes (escape isPathSafe cs)) = back := by
    rw [unescape, String.toList_ofList] at hback
    exact String.ofList_injective hback
  have hle := length_unescape_escape h
  rw [hdecoded] at hle
  have hpercent : '%' ∉ cs := List.count_eq_zero.mp (by omega)
  rw [unescape_escape hpercent] at hback
  exact ⟨String.ofList_injective hback, hpercent⟩

end DynamicForm.Url

import DynamicForm.Text.Encoding

/-!
# Reading bytes back

The bytes of a text are read back as the text. Reading goes on after a longest stretch that cannot
be read, so a byte in front of others is good for one more piece at most.

- `utf8PiecesFrom_encodeChar`: the bytes of a character are read as that character.
- `decodeLeniently_utf8Bytes`: the bytes of a text are read as that text.
- `decodeAny_utf8Bytes`: they are also read if the encoding has to be found, as those of a record in
  JSON have.
- `length_utf8PiecesFrom_cons_le`: a byte in front of others adds one piece at most.
-/

namespace DynamicForm.Text

/-! ## Leading bytes

A leading byte tells how many bytes follow, and which range the first of them is in. The ranges keep
every character to its shortest form and leave out the surrogates. -/

theorem lead?_two {n : Nat} (h : 2 ≤ n ∧ n < 32) : lead? (n + 192) = some ⟨1, 0x80, 0xbf, n⟩ := by
  rw [lead?, if_pos (by omega), Nat.add_sub_cancel]

/-- The ranges leave out what is too long and the surrogates. -/
theorem lead?_three {n m : Nat} (hn : n < 16) (hm : m < 64) (hlong : n = 0 → 32 ≤ m)
    (hsurrogate : n = 13 → m < 32) : ∃ low high, lead? (n + 224) = some ⟨2, low, high, n⟩ ∧
      low ≤ m + 128 ∧ m + 128 ≤ high := by
  by_cases hzero : n = 0
  · subst hzero
    exact ⟨0xa0, 0xbf, rfl, by omega, by omega⟩
  by_cases hthirteen : n = 13
  · subst hthirteen
    exact ⟨0x80, 0x9f, rfl, by omega, by omega⟩
  refine ⟨0x80, 0xbf, ?_, by omega, by omega⟩
  rw [lead?, if_neg (by omega), if_neg (by omega), if_neg (by omega), if_pos (by omega),
    Nat.add_sub_cancel]

/-- The ranges leave out what is too long and what is too large. -/
theorem lead?_four {n m : Nat} (hn : n ≤ 4) (hm : m < 64) (hlong : n = 0 → 16 ≤ m)
    (hlarge : n = 4 → m < 16) : ∃ low high, lead? (n + 240) = some ⟨3, low, high, n⟩ ∧
      low ≤ m + 128 ∧ m + 128 ≤ high := by
  by_cases hzero : n = 0
  · subst hzero
    exact ⟨0x90, 0xbf, rfl, by omega, by omega⟩
  by_cases hfour : n = 4
  · subst hfour
    exact ⟨0x80, 0x8f, rfl, by omega, by omega⟩
  refine ⟨0x80, 0xbf, ?_, by omega, by omega⟩
  rw [lead?, if_neg (by omega), if_neg (by omega), if_neg (by omega), if_neg (by omega),
    if_neg (by omega), if_neg (by omega), if_pos (by omega), Nat.add_sub_cancel]

/-! ## Characters

The four lengths of a character are four cases with the same argument: the leading byte is found in
the table, and those that follow it give the remaining bits. -/

/-- A leading byte and as many bytes as it asks for are one piece. -/
theorem utf8PiecesFrom_of_lead {b : Nat} {l : Lead} {c : Char} (following : List UInt8)
    {rest : List UInt8}
    (hb : 0x80 ≤ b ∧ b < 0x100) (hlead : lead? b = some l)
    (htake : takeFollowing l.count l.low l.high l.bits 0 (following ++ rest) =
      (following.length, some c.toNat)) :
    utf8PiecesFrom 0 (UInt8.ofNat b :: (following ++ rest)) = some c :: utf8PiecesFrom 0 rest := by
  have hskip : ∀ passed : List UInt8,
      utf8PiecesFrom passed.length (passed ++ rest) = utf8PiecesFrom 0 rest := by
    intro passed
    induction passed with
    | nil => rfl
    | cons b passed ih => exact ih
  have hnat : (UInt8.ofNat b).toNat = b := UInt8.toNat_ofNat_of_lt' hb.2
  rw [utf8PiecesFrom, hnat, if_neg (Nat.not_lt.mpr hb.1), hlead]
  dsimp only
  rw [htake]
  dsimp only [Option.map_some]
  rw [hskip, Char.ofNat_toNat]

theorem takeFollowing_ofNat {count low high bits taken n : Nat} {rest : List UInt8}
    (hn : n < 0x100) (h : low ≤ n ∧ n ≤ high) :
    takeFollowing (count + 1) low high bits taken (UInt8.ofNat n :: rest) =
      takeFollowing count 0x80 0xbf (bits * 64 + (n - 0x80)) (taken + 1) rest := by
  have hnat : (UInt8.ofNat n).toNat = n := UInt8.toNat_ofNat_of_lt' hn
  rw [takeFollowing, hnat, if_pos h]

/-- **A character.** Its bytes are read as one piece. -/
theorem utf8PiecesFrom_encodeChar (c : Char) (rest : List UInt8) :
    utf8PiecesFrom 0 (String.utf8EncodeChar c ++ rest) = some c :: utf8PiecesFrom 0 rest := by
  have hvalid : c.toNat < 0xd800 ∨ (0xdfff < c.toNat ∧ c.toNat < 0x110000) := c.valid
  have hbytes : String.utf8EncodeChar c =
      if c.toNat ≤ 0x7f then [UInt8.ofNat c.toNat]
      else if c.toNat ≤ 0x7ff then
        [UInt8.ofNat (c.toNat / 64 % 32 + 192), UInt8.ofNat (c.toNat % 64 + 128)]
      else if c.toNat ≤ 0xffff then
        [UInt8.ofNat (c.toNat / 4096 % 16 + 224), UInt8.ofNat (c.toNat / 64 % 64 + 128),
          UInt8.ofNat (c.toNat % 64 + 128)]
      else
        [UInt8.ofNat (c.toNat / 262144 % 8 + 240), UInt8.ofNat (c.toNat / 4096 % 64 + 128),
          UInt8.ofNat (c.toNat / 64 % 64 + 128), UInt8.ofNat (c.toNat % 64 + 128)] := rfl
  rw [hbytes]
  split
  -- one byte, and then two, three and four
  · next hone =>
    have hnat : (UInt8.ofNat c.toNat).toNat = c.toNat :=
      UInt8.toNat_ofNat_of_lt' (Nat.lt_of_le_of_lt hone (by decide))
    rw [List.singleton_append, utf8PiecesFrom, hnat, if_pos (by omega), Char.ofNat_toNat]
  split
  · next htwo =>
    have hlead := lead?_two (n := c.toNat / 64 % 32) (by omega)
    have hbits : c.toNat / 64 % 32 * 64 + (c.toNat % 64 + 128 - 0x80) = c.toNat := by omega
    refine utf8PiecesFrom_of_lead [_] (by omega) hlead ?_
    dsimp only
    rw [List.singleton_append, takeFollowing_ofNat (by omega) (by omega), takeFollowing, hbits]
    rfl
  split
  -- for three bytes the surrogates have to be ruled out
  · next hthree =>
    obtain ⟨low, high, hlead, hrange⟩ := lead?_three (n := c.toNat / 4096 % 16)
      (m := c.toNat / 64 % 64) (by omega) (by omega) (by omega) (by omega)
    have hbits : (c.toNat / 4096 % 16 * 64 + (c.toNat / 64 % 64 + 128 - 0x80)) * 64 +
        (c.toNat % 64 + 128 - 0x80) = c.toNat := by omega
    refine utf8PiecesFrom_of_lead [_, _] (by omega) hlead ?_
    dsimp only
    rw [List.cons_append, takeFollowing_ofNat (by omega) hrange, List.singleton_append,
      takeFollowing_ofNat (by omega) (by omega), takeFollowing, hbits]
    rfl
  · next hfour =>
    obtain ⟨low, high, hlead, hrange⟩ := lead?_four (n := c.toNat / 262144 % 8)
      (m := c.toNat / 4096 % 64) (by omega) (by omega) (by omega) (by omega)
    have hbits : ((c.toNat / 262144 % 8 * 64 + (c.toNat / 4096 % 64 + 128 - 0x80)) * 64 +
        (c.toNat / 64 % 64 + 128 - 0x80)) * 64 + (c.toNat % 64 + 128 - 0x80) = c.toNat := by omega
    refine utf8PiecesFrom_of_lead [_, _, _] (by omega) hlead ?_
    dsimp only
    rw [List.cons_append, takeFollowing_ofNat (by omega) hrange, List.cons_append,
      takeFollowing_ofNat (by omega) (by omega), List.singleton_append,
      takeFollowing_ofNat (by omega) (by omega), takeFollowing, hbits]
    rfl

/-- Every character is a piece, and there are no others. -/
theorem utf8Pieces_utf8Bytes (cs : List Char) : utf8Pieces (utf8Bytes cs) = cs.map some := by
  rw [utf8Pieces]
  induction cs with
  | nil => rfl
  | cons c rest ih =>
    rw [utf8Bytes, List.flatMap_cons, utf8PiecesFrom_encodeChar, ← utf8Bytes, ih]
    rfl

/-- **A text.** Its bytes are read as its characters. -/
theorem decodeLeniently_utf8Bytes (cs : List Char) : decodeLeniently (utf8Bytes cs) = cs := by
  rw [decodeLeniently, utf8Pieces_utf8Bytes, List.map_map]
  exact List.map_id cs

/-- With no bad piece among them, pieces are characters. -/
theorem allPieces_map_some (cs : List Char) : allPieces (cs.map some) = some cs := by
  induction cs with
  | nil => rfl
  | cons c rest ih => rw [List.map_cons, allPieces, ih, Option.map_some]

/-! ## Finding the encoding

The encoding of JSON text is told from the zero bytes among the first four. A record begins with a
brace and another ASCII character, neither of which is zero. -/

/-- Two bytes that are not zero are characters of one byte. -/
theorem detect_brace {b : UInt8} (hb : b ≠ 0) (rest : List UInt8) :
    detect (0x7b :: b :: rest) = (.one, 0) := by
  match rest with
  | [] => exact if_neg hb
  | [_] => rfl
  | _ :: _ :: _ => exact if_neg hb

/-- **Finding the encoding.** A brace and an ASCII character tell that each unit is one byte. -/
theorem decodeAny_utf8Bytes {b : Char} (hb : 0 < b.toNat ∧ b.toNat < 0x80) (rest : List Char) :
    decodeAny (utf8Bytes ('\x7b' :: b :: rest)) = some ('\x7b' :: b :: rest) := by
  have hbyte : String.utf8EncodeChar b = [UInt8.ofNat b.toNat] := if_pos (Nat.le_of_lt_succ hb.2)
  have hnat : (UInt8.ofNat b.toNat).toNat = b.toNat :=
    UInt8.toNat_ofNat_of_lt' (Nat.lt_trans hb.2 (by decide))
  have hzero : UInt8.ofNat b.toNat ≠ 0 := by
    intro h
    rw [h] at hnat
    exact absurd hnat (Nat.ne_of_lt hb.1)
  have hbytes : utf8Bytes ('\x7b' :: b :: rest) = 0x7b :: UInt8.ofNat b.toNat :: utf8Bytes rest := by
    rw [utf8Bytes, List.flatMap_cons, List.flatMap_cons, hbyte]
    rfl
  have hdetect : detect (utf8Bytes ('\x7b' :: b :: rest)) = (.one, 0) := by
    rw [hbytes]
    exact detect_brace hzero _
  rw [decodeAny, hdetect]
  dsimp only
  rw [List.drop_zero, utf8Pieces_utf8Bytes, allPieces_map_some]

/-! ## Bad pieces

How many pieces there are can only be bounded: a byte in front of others may join them, or make them
bad where they would have been read. -/

/-- A byte that can only follow others. -/
def Follows (b : UInt8) : Prop := 0x80 ≤ b.toNat ∧ b.toNat ≤ 0xbf

theorem lead?_range {b : Nat} {l : Lead} (h : lead? b = some l) : 0x80 ≤ l.low ∧ l.high ≤ 0xbf := by
  unfold lead? at h
  repeat' split at h
  all_goals cases h <;> simp

theorem lead?_of_follows {b : UInt8} (h : Follows b) : lead? b.toNat = none := by
  obtain ⟨hlow, hhigh⟩ := h
  unfold lead?
  repeat rw [if_neg (by omega)]

/-- The bytes that are taken can only follow others. -/
theorem takeFollowing_taken (count bits taken : Nat) {low high : Nat} (bytes : List UInt8)
    (hrange : 0x80 ≤ low ∧ high ≤ 0xbf) :
    ∃ k, (takeFollowing count low high bits taken bytes).1 = taken + k ∧
      ∀ b ∈ bytes.take k, Follows b := by
  induction count generalizing low high bits taken bytes with
  | zero => exact ⟨0, rfl, by simp⟩
  | succ count ih =>
    cases bytes with
    | nil => exact ⟨0, rfl, by simp⟩
    | cons b rest =>
      rw [takeFollowing]
      split
      · next hb =>
        obtain ⟨k, hk, hfollows⟩ := ih (bits * 64 + (b.toNat - 0x80)) (taken + 1) rest
          ⟨Nat.le_refl _, Nat.le_refl _⟩
        refine ⟨k + 1, hk.trans (by omega), ?_⟩
        rw [List.take_succ_cons, List.forall_mem_cons]
        exact ⟨⟨by omega, by omega⟩, hfollows⟩
      · exact ⟨0, rfl, by simp⟩

/-- Bytes that can only follow others are pieces of their own when they are not passed over. -/
theorem length_utf8PiecesFrom_le {k : Nat} {bytes : List UInt8}
    (h : ∀ b ∈ bytes.take k, Follows b) :
    (utf8PiecesFrom k bytes).length ≤ (utf8PiecesFrom 0 bytes).length := by
  induction k generalizing bytes with
  | zero => exact Nat.le_refl _
  | succ k ih =>
    cases bytes with
    | nil => exact Nat.le_refl _
    | cons b rest =>
      rw [List.take_succ_cons, List.forall_mem_cons] at h
      obtain ⟨hb, hrest⟩ := h
      have hown : utf8PiecesFrom 0 (b :: rest) = none :: utf8PiecesFrom 0 rest := by
        rw [utf8PiecesFrom, if_neg (Nat.not_lt.mpr hb.1), lead?_of_follows hb]
      rw [hown, List.length_cons, utf8PiecesFrom]
      exact Nat.le_succ_of_le (ih hrest)

/-- **A byte in front of others** adds one piece at most. -/
theorem length_utf8PiecesFrom_cons_le (b : UInt8) (rest : List UInt8) :
    (utf8PiecesFrom 0 (b :: rest)).length ≤ (utf8PiecesFrom 0 rest).length + 1 := by
  rw [utf8PiecesFrom]
  split
  · exact Nat.le_refl _
  · split
    · exact Nat.le_refl _
    · next l hlead =>
      obtain ⟨k, hk, hfollows⟩ := takeFollowing_taken l.count l.bits 0 rest (lead?_range hlead)
      dsimp only
      rw [hk, Nat.zero_add, List.length_cons]
      exact Nat.succ_le_succ (length_utf8PiecesFrom_le hfollows)

end DynamicForm.Text

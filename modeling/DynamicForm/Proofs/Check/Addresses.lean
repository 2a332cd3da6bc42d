import DynamicForm.Check.Basic
import DynamicForm.Proofs.Pattern.Words
import Mathlib

/-!
# Addresses

The pattern of an address looks ahead twice and repeats parts inside parts. Taken together this
comes to a plain grammar, up to one slip: where the pattern asks for the end of the text, a line
break may still follow.

A matcher is a program that tries alternatives in an order, while a grammar knows nothing of tries.
What a part of a pattern can read is a set of words as long as it stands alone, and that part is
done first. The two conditions on what lies ahead do not read; they are conditions on the same text,
and each of them is brought into the same form by asking for what it reads when it is allowed to.
What is left is an argument about lists: the word that the first condition finds, the beginning that
the second one finds and the address itself have to be parts of one text, and since a line break
stands in none of them and an at sign only once in an address, they fit together in one way.

- `IsAddress`: the grammar, a local part and a domain of parts between dots.
- `shape_eq`: what the pattern compiles to; `node_spans`: the conditions that it joins.
- `node_spans_iff`: these conditions together are the grammar and perhaps a line break.
- `Check.email_spelled`: so the check accepts addresses, and addresses with a line break after them.
-/

namespace DynamicForm.Address

open Pattern

/-! ## The grammar

Stated without the pattern, with the limits on length as they are in the standard form of an
address. The predicates are decidable, so that a single text can be tested against the grammar. -/

/-- The signs that a local part may have. -/
def signs : List Char := "!#$%&'*+/=?^_\x60\x7b|\x7d~-".toList

/-- A letter, a digit or one of the signs. -/
def IsLocalChar (c : Char) : Prop := c.isAlphanum = true ∨ c ∈ signs

/-- A letter, a digit or a hyphen. -/
def IsLabelChar (c : Char) : Prop := c.isAlphanum = true ∨ c = '-'

instance : DecidablePred IsLocalChar := fun c =>
  inferInstanceAs (Decidable (c.isAlphanum = true ∨ c ∈ signs))

instance : DecidablePred IsLabelChar := fun c =>
  inferInstanceAs (Decidable (c.isAlphanum = true ∨ c = '-'))

/-- One or more characters of a local part. -/
def IsRun (cs : List Char) : Prop := cs ≠ [] ∧ ∀ c ∈ cs, IsLocalChar c

instance : DecidablePred IsRun := fun cs =>
  have : Decidable (∀ c ∈ cs, IsLocalChar c) := List.decidableBAll IsLocalChar cs
  inferInstanceAs (Decidable (cs ≠ [] ∧ ∀ c ∈ cs, IsLocalChar c))

/-- One to 63 letters, digits and hyphens, with no hyphen at either end. -/
structure IsLabel (cs : List Char) : Prop where
  nonempty : cs ≠ []
  short : cs.length ≤ 63
  chars : ∀ c ∈ cs, IsLabelChar c
  first : cs.head? ≠ some '-'
  last : cs.getLast? ≠ some '-'

instance : DecidablePred IsLabel := fun cs =>
  have : Decidable (∀ c ∈ cs, IsLabelChar c) := List.decidableBAll IsLabelChar cs
  decidable_of_iff (cs ≠ [] ∧ cs.length ≤ 63 ∧ (∀ c ∈ cs, IsLabelChar c) ∧
      cs.head? ≠ some '-' ∧ cs.getLast? ≠ some '-')
    ⟨fun ⟨h₁, h₂, h₃, h₄, h₅⟩ => ⟨h₁, h₂, h₃, h₄, h₅⟩,
      fun h => ⟨h.nonempty, h.short, h.chars, h.first, h.last⟩⟩

/-- One or more parts with dots between them. -/
def IsDotted (IsPart : List Char → Prop) (cs : List Char) : Prop :=
  ∃ parts, parts ≠ [] ∧ (∀ p ∈ parts, IsPart p) ∧ cs = ['.'].intercalate parts

/-- A local part, an at sign and a domain, not too long. -/
def IsAddress (cs : List Char) : Prop :=
  ∃ name domain, IsDotted IsRun name ∧ IsDotted IsLabel domain ∧ cs = name ++ '@' :: domain ∧
    name.length ≤ 64 ∧ cs.length ≤ 254

variable {text : Array Char} {i j most : Nat} {part : Node} {IsPart : List Char → Prop}
  {cs l : List Char} {c d : Char}

/-! ## The pattern

The nodes that the compiler makes, with a name for each. `shape_eq` is the only place at which the
compiler runs; everything else is about the nodes. -/

/-- Letters and digits. -/
def alphanums : List SetItem := [.range 97 122, .range 65 90, .range 48 57]

/-- The test for a character of a local part other than the dot. -/
def localTest : CharTest := .set false (alphanums ++ signs.map (.single ·.toNat)) .none false

/-- The test for the first and the last character of a label. -/
def edgeTest : CharTest := .set false alphanums .none false

/-- The test for the characters in between. -/
def innerTest : CharTest := .set false (alphanums ++ [.single '-'.toNat]) .none false

def dot : Node := .one (.literal '.'.toNat false .none)

def atSign : Node := .one (.literal '@'.toNat false .none)

/-- Some characters that are no line break. -/
def ahead (most : Nat) (next : Lead) : Node := .loopOne .greedy 1 (some most) (.any false) next

def run : Node := .loopOne .greedy 1 none localTest .unknown

/-- What a label has after its first character. -/
def labelRest : Node :=
  .loop .greedy 0 (some 1)
    (.seq (.loopOne .greedy 0 (some 61) innerTest (.char edgeTest)) (.one edgeTest))

def labelNode : Node := .seq (.one edgeTest) labelRest

/-- Any number of further parts, each after a dot. -/
def dotted (part : Node) : Node := .loop .greedy 0 none (.seq dot part)

/-- The pattern as compiled. -/
def node : Node :=
  .seq (.place .textStart) <|
  .seq (.look false 0 (.seq (ahead 254 .unknown) (.place .lastLineEnd))) <|
  .seq (.look false 0 (.seq (ahead 64 (.char (.literal '@'.toNat false .none))) atSign)) <|
  .seq run <| .seq (dotted run) <| .seq atSign <|
  .seq (.one edgeTest) <| .seq labelRest <| .seq (dotted labelNode) (.place .lastLineEnd)

/-- A pattern is compiled from its characters. -/
theorem compile_of_toList {source : String} (h : source.toList = cs) :
    compile source = match Scan.whole.run { rest := tokens cs } with
      | .error r => .error r
      | .ok (e, s) =>
        match e.compile s.widths s.flags .unknown with
        | some n => .ok ⟨n, (e.width s.widths).1⟩
        | none => .error .malformed := by
  subst h
  rfl

/-- What the pattern compiles to. -/
theorem shape_eq : shape = .ok ⟨node, 3⟩ := by
  -- Of a text that is put together it takes long to evaluate the characters, of its parts it does not.
  have hread : (compile source).toOption = some ⟨node, 3⟩ := by
    unfold source
    rw [compile_of_toList (by simp only [String.toList_append]; rfl)]
    decide +kernel
  change compile source = _
  cases h : compile source with
  | error r =>
    rw [h] at hread
    cases hread
  | ok c =>
    rw [h] at hread
    rw [Option.some.inj hread]

/-! ## Characters -/

/-- The three ranges are the letters and digits of the basic alphabet. -/
theorem alphanums_holds (c : Char) :
    alphanums.any (SetItem.holds false c.toNat) = true ↔ c.isAlphanum = true := by
  simp [alphanums, SetItem.holds, Char.isAlphanum, Char.isAlpha, Char.isUpper, Char.isLower,
    Char.isDigit, UInt32.le_iff_toNat_le]
  omega

/-- A label begins and ends with a letter or a digit. -/
theorem edgeTest_accepts (c : Char) : edgeTest.accepts c = true ↔ c.isAlphanum = true := by
  simp only [edgeTest, CharTest.accepts, Bool.bne_false, alphanums_holds]

theorem innerTest_accepts (c : Char) : innerTest.accepts c = true ↔ IsLabelChar c := by
  simp only [innerTest, CharTest.accepts, Bool.bne_false, List.any_append, Bool.or_eq_true,
    alphanums_holds, IsLabelChar]
  simp [SetItem.holds, ← Char.toNat_inj]

theorem localTest_accepts (c : Char) : localTest.accepts c = true ↔ IsLocalChar c := by
  simp only [localTest, CharTest.accepts, Bool.bne_false, List.any_append, Bool.or_eq_true,
    alphanums_holds, IsLocalChar]
  simp [SetItem.holds, Char.toNat_inj]

theorem ne_hyphen (h : c.isAlphanum = true) : c ≠ '-' := by
  rintro rfl
  cases h

theorem isLabel_single (h : c.isAlphanum = true) : IsLabel [c] where
  nonempty := List.cons_ne_nil c []
  short := by simp
  chars := List.forall_mem_singleton.mpr (.inl h)
  first := by simpa using ne_hyphen h
  last := by simpa using ne_hyphen h

/-- Two edges with up to 61 characters between them are a label, which makes 63. -/
theorem isLabel_of_edges (hc : c.isAlphanum = true) (hd : d.isAlphanum = true)
    (hmid : ∀ x ∈ cs, IsLabelChar x) (hshort : cs.length ≤ 61) : IsLabel (c :: (cs ++ [d])) where
  nonempty := List.cons_ne_nil _ _
  short := by
    simp only [List.length_cons, List.length_append, List.length_nil]
    omega
  chars := List.forall_mem_cons.mpr ⟨.inl hc,
    List.forall_mem_append.mpr ⟨hmid, List.forall_mem_singleton.mpr (.inl hd)⟩⟩
  first := by simpa using ne_hyphen hc
  last := by
    rw [← List.cons_append, List.getLast?_concat]
    simpa using ne_hyphen hd

/-- A label has one character, or two edges and something in between. -/
theorem IsLabel.cases (h : IsLabel cs) :
    (∃ c, c.isAlphanum = true ∧ cs = [c]) ∨ ∃ c mid d, c.isAlphanum = true ∧
      (∀ x ∈ mid, IsLabelChar x) ∧ mid.length ≤ 61 ∧ d.isAlphanum = true ∧
        cs = c :: (mid ++ [d]) := by
  obtain ⟨c, rest, rfl⟩ := List.exists_cons_of_ne_nil h.nonempty
  obtain ⟨hc, hrest⟩ := List.forall_mem_cons.mp h.chars
  have hfirst : c.isAlphanum = true := hc.resolve_right fun hc => h.first (by rw [hc]; rfl)
  rcases rest.eq_nil_or_concat with rfl | ⟨mid, d, rfl⟩
  · exact .inl ⟨c, hfirst, rfl⟩
  · rw [List.concat_eq_append] at hrest h ⊢
    have hlast : (c :: (mid ++ [d])).getLast? = some d := List.getLast?_concat (l := c :: mid)
    have hd : d.isAlphanum = true := (hrest d (by simp)).resolve_right
      fun hd => h.last (by rw [hlast, hd])
    have hlength := h.short
    simp only [List.length_cons, List.length_append, List.length_nil] at hlength
    exact .inr ⟨c, mid, d, hfirst, fun x hx => hrest x (List.mem_append_left _ hx), by omega, hd, rfl⟩

/-! ## Parts between dots

The grammar has a list of parts with dots between them. The pattern reads one part, and then any
number of times a dot with another part. -/

/-- Dots between parts are dots in front of all parts but the first. -/
theorem intercalate_dot (p : List Char) (parts : List (List Char)) :
    ['.'].intercalate (p :: parts) = p ++ (parts.map ('.' :: ·)).flatten := by
  induction parts generalizing p with
  | nil => simp
  | cons q parts ih =>
    rw [List.intercalate_cons_of_ne_nil (List.cons_ne_nil q parts), ih, List.map_cons,
      List.flatten_cons, List.append_assoc, List.singleton_append, List.cons_append]

theorem isDotted_iff : IsDotted IsPart cs ↔ ∃ (p : List Char) (parts : List (List Char)),
    IsPart p ∧ (∀ q ∈ parts, IsPart q) ∧ cs = p ++ (parts.map ('.' :: ·)).flatten := by
  constructor
  · rintro ⟨parts, hne, hparts, rfl⟩
    obtain ⟨p, parts, rfl⟩ := List.exists_cons_of_ne_nil hne
    obtain ⟨hp, hparts⟩ := List.forall_mem_cons.mp hparts
    exact ⟨p, parts, hp, hparts, intercalate_dot p parts⟩
  · rintro ⟨p, parts, hp, hparts, rfl⟩
    exact ⟨p :: parts, List.cons_ne_nil p parts, List.forall_mem_cons.mpr ⟨hp, hparts⟩,
      (intercalate_dot p parts).symm⟩

/-- What holds of dots and of the characters of parts holds of all characters. -/
theorem IsDotted.forall_mem {Q : Char → Prop} (h : IsDotted IsPart cs) (hdot : Q '.')
    (hpart : ∀ p, IsPart p → ∀ x ∈ p, Q x) : ∀ x ∈ cs, Q x := by
  obtain ⟨p, parts, hp, hparts, rfl⟩ := isDotted_iff.mp h
  refine List.forall_mem_append.mpr ⟨hpart p hp, fun x hx => ?_⟩
  obtain ⟨w, hw, hx⟩ := List.mem_flatten.mp hx
  obtain ⟨q, hq, rfl⟩ := List.mem_map.mp hw
  rcases List.mem_cons.mp hx with rfl | hx
  · exact hdot
  · exact hpart q (hparts q hq) x hx

/-- There is something to read if parts are not empty. -/
theorem IsDotted.ne_nil (h : IsDotted IsPart cs) (hpart : ∀ p, IsPart p → p ≠ []) : cs ≠ [] := by
  obtain ⟨p, parts, hp, -, rfl⟩ := isDotted_iff.mp h
  exact List.append_ne_nil_of_left_ne_nil (hpart p hp) _

/-- Neither the at sign nor a line break has a place in a local part. -/
theorem IsDotted.ne_of_mem_name (h : IsDotted IsRun cs) : ∀ x ∈ cs, x ≠ '@' ∧ x ≠ '\n' :=
  h.forall_mem (by decide) fun p hp x hx => by
    constructor <;> rintro rfl <;> exact absurd (hp.2 _ hx) (by decide +kernel)

theorem IsDotted.ne_of_mem_domain (h : IsDotted IsLabel cs) : ∀ x ∈ cs, x ≠ '\n' :=
  h.forall_mem (by decide) fun p hp x hx => by
    rintro rfl
    exact absurd (hp.chars _ hx) (by decide +kernel)

theorem not_mem_mailbox {name domain : List Char} (hname : IsDotted IsRun name)
    (hdomain : IsDotted IsLabel domain) : '\n' ∉ name ++ '@' :: domain := by
  intro h
  rcases List.mem_append.mp h with h | h
  · exact (hname.ne_of_mem_name _ h).2 rfl
  · rcases List.mem_cons.mp h with h | h
    · cases h
    · exact hdomain.ne_of_mem_domain _ h rfl

/-! ## Words

From the characters up to the address: which words each part of the pattern can read. Each lemma is
about one node, and uses those of the nodes in it. -/

theorem accepts_literal (n : Nat) (c : Char) :
    (CharTest.literal n false .none).accepts c = true ↔ c.toNat = n := by
  simp [CharTest.accepts, CharTest.literalIs, Fold.lower, Fold.partnersOf]

theorem literal_hasWords (c : Char) :
    (Node.one (.literal c.toNat false .none)).HasWords fun cs => cs = [c] := by
  refine Node.one_hasWords.congr fun cs => ?_
  simp only [accepts_literal, Char.toNat_inj, exists_eq_left]

theorem dot_hasWords : dot.HasWords fun cs => cs = ['.'] := literal_hasWords '.'

theorem atSign_hasWords : atSign.HasWords fun cs => cs = ['@'] := literal_hasWords '@'

/-- A part and any number of further ones, each after a dot, read parts between dots. -/
theorem series_hasWords (h : part.HasWords IsPart) :
    (Node.seq part (dotted part)).HasWords (IsDotted IsPart) := by
  refine (Node.seq_hasWords h (Node.loop_hasWords (Node.seq_hasWords dot_hasWords h))).congr
    fun cs => ?_
  rw [isDotted_iff]
  constructor
  · rintro ⟨p, _, hp, ⟨words, -, -, hwords, rfl⟩, rfl⟩
    -- each further part is read with its dot, which has to be taken off
    have htails : (words.map List.tail).map ('.' :: ·) = words := by
      rw [List.map_map]
      refine List.map_congr_left ?_ |>.trans words.map_id
      intro w hw
      obtain ⟨_, q, rfl, -, rfl⟩ := hwords w hw
      rfl
    refine ⟨p, words.map List.tail, hp, fun q hq => ?_, by rw [htails]⟩
    obtain ⟨w, hw, rfl⟩ := List.mem_map.mp hq
    obtain ⟨_, q, rfl, hpart, rfl⟩ := hwords w hw
    exact hpart
  -- and is put back on for the loop
  · rintro ⟨p, parts, hp, hparts, rfl⟩
    refine ⟨p, _, hp, ⟨parts.map ('.' :: ·), Nat.zero_le _, nofun, fun w hw => ?_, rfl⟩, rfl⟩
    obtain ⟨q, hq, rfl⟩ := List.mem_map.mp hw
    exact ⟨['.'], q, rfl, hparts q hq, rfl⟩

/-- A run reads one character of a local part or more. -/
theorem run_hasWords : run.HasWords IsRun := by
  refine (Node.loopOne_hasWords fun _ _ => rfl).congr fun cs => ?_
  simp only [localTest_accepts, IsRun, ← List.length_pos_iff]
  exact and_congr_right fun _ => and_iff_right nofun

/-- A label is an edge with nothing after it, or with a row of inner characters and another edge
after it. -/
theorem label_hasWords : labelNode.HasWords IsLabel := by
  have hlead : ∀ text i, (Lead.char edgeTest).admitsExact text i = true := fun _ _ => rfl
  refine (Node.seq_hasWords Node.one_hasWords (Node.loop_hasWords
    (Node.seq_hasWords (Node.loopOne_hasWords hlead) Node.one_hasWords))).congr fun cs => ?_
  simp only [edgeTest_accepts, innerTest_accepts]
  constructor
  · rintro ⟨_, _, ⟨c, hc, rfl⟩, ⟨words, -, hmost, hwords, rfl⟩, rfl⟩
    -- the part after the first character is there once or not at all
    match words, hmost 1 rfl with
    | [], _ => exact isLabel_single hc
    | [w], _ =>
      obtain ⟨mid, _, ⟨-, hshort, hmid⟩, ⟨d, hd, rfl⟩, rfl⟩ := hwords w List.mem_cons_self
      simpa using isLabel_of_edges hc hd hmid (hshort 61 rfl)
  · intro h
    rcases h.cases with ⟨c, hc, rfl⟩ | ⟨c, mid, d, hc, hmid, hshort, hd, rfl⟩
    · exact ⟨[c], [], ⟨c, hc, rfl⟩, ⟨[], Nat.zero_le _, fun _ _ => Nat.zero_le _, nofun, rfl⟩, rfl⟩
    · refine ⟨[c], mid ++ [d], ⟨c, hc, rfl⟩,
        ⟨[mid ++ [d]], Nat.zero_le _, ?_, ?_, (List.append_nil _).symm⟩, rfl⟩
      · rintro _ ⟨⟩
        exact Nat.le_refl 1
      · refine List.forall_mem_singleton.mpr ⟨mid, [d], ⟨Nat.zero_le _, ?_, hmid⟩, ⟨d, hd, rfl⟩, rfl⟩
        rintro _ ⟨⟩
        exact hshort

/-- The part of the pattern that reads. -/
def mailbox : Node :=
  .seq (.seq run (dotted run)) (.seq atSign (.seq labelNode (dotted labelNode)))

theorem mailbox_hasWords : mailbox.HasWords fun cs => ∃ name domain,
    IsDotted IsRun name ∧ IsDotted IsLabel domain ∧ cs = name ++ '@' :: domain := by
  refine (Node.seq_hasWords (series_hasWords run_hasWords)
    (Node.seq_hasWords atSign_hasWords (series_hasWords label_hasWords))).congr fun cs => ?_
  constructor
  · rintro ⟨name, _, hname, ⟨_, domain, rfl, hdomain, rfl⟩, rfl⟩
    exact ⟨name, domain, hname, hdomain, rfl⟩
  · rintro ⟨name, domain, hname, hdomain, rfl⟩
    exact ⟨name, _, hname, ⟨['@'], domain, rfl, hdomain, rfl⟩, rfl⟩

/-- Up to so many characters that are no line break, and at least one. -/
def IsShort (most : Nat) (cs : List Char) : Prop := 1 ≤ cs.length ∧ cs.length ≤ most ∧ '\n' ∉ cs

/-- Looking ahead reads a row of characters that are no line break. -/
theorem ahead_hasWords (most : Nat) : (ahead most .unknown).HasWords (IsShort most) := by
  refine (Node.loopOne_hasWords fun _ _ => rfl).congr fun cs => ?_
  have haccepts : (∀ c ∈ cs, (CharTest.any false).accepts c = true) ↔ '\n' ∉ cs := by
    simp only [CharTest.accepts, Bool.false_or, bne_iff_ne]
    exact ⟨fun h hmem => h _ hmem rfl, fun h c hc hbreak => h (hbreak ▸ hc)⟩
  simp only [haccepts, IsShort, Option.mem_def, Option.some.injEq, forall_eq']

/-! ## The end of the text

The pattern asks for the end of the text in two places, and both times in the way in which a single
line break may still follow. -/

/-- A word, and perhaps a line break after it. -/
def IsLineOf (cs l : List Char) : Prop := l = cs ∨ l = cs ++ ['\n']

/-- After reading some words of a text this is the end if nothing follows or just a line break. -/
theorem lastLineEnd_holds (h : cs <+: l) :
    Place.lastLineEnd.holds l.toArray cs.length = true ↔ IsLineOf cs l := by
  obtain ⟨rest, rfl⟩ := h
  simp only [IsLineOf, Place.holds, isLineBreak, List.size_toArray, List.length_append,
    List.getElem?_toArray, List.getElem?_append_right (Nat.le_refl cs.length), Nat.sub_self]
  match rest with
  | [] => simp
  | [c] => simp
  | c :: d :: rest => simp

theorem IsLineOf.isPrefix (h : IsLineOf cs l) : cs <+: l := by
  rcases h with rfl | rfl
  · exact List.prefix_rfl
  · exact List.prefix_append cs _

/-- A part that reads up to the last line break of a text. -/
theorem spans_lastLineEnd {a : Node} {W : List Char → Prop} (h : a.HasWords W) :
    (∃ j, a.Spans l.toArray 0 j ∧ Place.lastLineEnd.holds l.toArray j = true) ↔
      ∃ cs, W cs ∧ IsLineOf cs l := by
  simp only [h.spans_zero]
  constructor
  · rintro ⟨_, ⟨cs, hcs, hprefix, rfl⟩, hend⟩
    exact ⟨cs, hcs, (lastLineEnd_holds hprefix).mp hend⟩
  · rintro ⟨cs, hcs, hline⟩
    exact ⟨_, ⟨cs, hcs, hline.isPrefix, rfl⟩, (lastLineEnd_holds hline.isPrefix).mpr hline⟩

/-- Without a line break in it, the word of a line is unique. -/
theorem IsLineOf.unique {ds : List Char} (h : IsLineOf cs l) (h' : IsLineOf ds l) (hcs : '\n' ∉ cs)
    (hds : '\n' ∉ ds) : cs = ds := by
  rcases h with rfl | rfl
  · rcases h' with rfl | rfl
    · rfl
    · exact absurd (List.mem_append_right ds (List.mem_singleton_self _)) hcs
  · rcases h' with rfl | h'
    · exact absurd (List.mem_append_right cs (List.mem_singleton_self _)) hds
    · exact List.append_cancel_right h'

/-! ## The whole

Two conditions on what lies ahead and one part that reads, joined over the same text. -/

/-- The conditions that the pattern joins, two of them on what lies ahead. -/
theorem node_spans : node.Spans text 0 j ↔
    (∃ m, (ahead 254 .unknown).Spans text 0 m ∧ Place.lastLineEnd.holds text m = true) ∧
    (∃ m, (Node.seq (ahead 64 (.char (.literal '@'.toNat false .none))) atSign).Spans text 0 m) ∧
    mailbox.Spans text 0 j ∧ Place.lastLineEnd.holds text j = true := by
  constructor
  · rintro ⟨_, ⟨-, rfl⟩, _, ⟨hlength, rfl⟩, _, ⟨hname, rfl⟩, a, ha, b, hb, c, hc, d, hd, e, he,
      f, hf, hend, rfl⟩
    obtain ⟨-, _, m, hm, hm', -⟩ := hlength.mp rfl
    exact ⟨⟨m, hm, hm'⟩, (hname.mp rfl).2,
      ⟨b, ⟨a, ha, hb⟩, c, hc, e, ⟨d, hd, he⟩, hf⟩, hend⟩
  · rintro ⟨⟨m, hm, hm'⟩, hname, ⟨b, ⟨a, ha, hb⟩, c, hc, e, ⟨d, hd, he⟩, hf⟩, hend⟩
    exact ⟨0, ⟨rfl, rfl⟩, 0, ⟨iff_of_true rfl ⟨Nat.zero_le 0, m, m, hm, hm', rfl⟩, rfl⟩,
      0, ⟨iff_of_true rfl ⟨Nat.zero_le 0, hname⟩, rfl⟩, a, ha, b, hb, c, hc, d, hd, e, he, j, hf,
      hend, rfl⟩

/-- The lead of the at sign keeps out nothing that the at sign would let in. -/
theorem ahead_atSign_spans (most : Nat) {text : Array Char} {i j : Nat} :
    (Node.seq (ahead most (.char (.literal '@'.toNat false .none))) atSign).Spans text i j ↔
      (Node.seq (ahead most .unknown) atSign).Spans text i j := by
  constructor
  · rintro ⟨m, ⟨n, hleast, hmost, hroom, haccepts, -, rfl⟩, hat⟩
    exact ⟨_, ⟨n, hleast, hmost, hroom, haccepts, rfl, rfl⟩, hat⟩
  · rintro ⟨m, ⟨n, hleast, hmost, hroom, haccepts, -, rfl⟩, hat⟩
    exact ⟨_, ⟨n, hleast, hmost, hroom, haccepts, hat.1, rfl⟩, hat⟩

/-- **The pattern** spans a beginning of a text exactly if the text is an address, perhaps with a
line break after it. -/
theorem node_spans_iff : (∃ j, node.Spans l.toArray 0 j) ↔ ∃ cs, IsAddress cs ∧ IsLineOf cs l := by
  simp only [node_spans, exists_and_left, ahead_atSign_spans]
  rw [spans_lastLineEnd (ahead_hasWords 254), spans_lastLineEnd mailbox_hasWords]
  simp only [(Node.seq_hasWords (ahead_hasWords 64) atSign_hasWords).spans_zero]
  -- from what has been read to the grammar, the limits on length have to be carried over from the
  -- words that were read ahead; in the other direction the words to be read ahead are parts of the
  -- address
  constructor
  · rintro ⟨⟨xs, ⟨-, hlong, hxs⟩, hline'⟩, ⟨_, _, ⟨ys, _, ⟨-, hfar, -⟩, rfl, rfl⟩, hat, -⟩,
      _, ⟨name, domain, hname, hdomain, rfl⟩, hline⟩
    refine ⟨_, ⟨name, domain, hname, hdomain, rfl, ?_, ?_⟩, hline⟩
    · refine Nat.le_of_not_lt fun hlate => ?_
      -- the at sign that is near enough would stand inside the local part
      have hinside : ys ++ ['@'] <+: name := by
        refine List.prefix_of_prefix_length_le hat
          ((List.prefix_append name _).trans hline.isPrefix) ?_
        simp only [List.length_append, List.length_cons, List.length_nil]
        omega
      exact (hname.ne_of_mem_name '@' (hinside.subset (by simp))).1 rfl
    · rwa [hline.unique hline' (not_mem_mailbox hname hdomain) hxs]
  · rintro ⟨_, ⟨name, domain, hname, hdomain, rfl, hfar, hlong⟩, hline⟩
    have hbreak := not_mem_mailbox hname hdomain
    have hstart : name ++ ['@'] <+: name ++ '@' :: domain := by simp
    refine ⟨⟨_, ⟨?_, hlong, hbreak⟩, hline⟩, ⟨_, _, ⟨name, ['@'], ⟨?_, hfar, ?_⟩, rfl, rfl⟩,
      hstart.trans hline.isPrefix, rfl⟩, _, ⟨name, domain, hname, hdomain, rfl⟩, hline⟩
    · exact List.length_pos_iff.mpr (List.append_ne_nil_of_right_ne_nil _ (List.cons_ne_nil _ _))
    · exact List.length_pos_iff.mpr (hname.ne_nil fun _ h => h.1)
    · exact fun h => hbreak (List.mem_append_left _ h)

/-- The pattern does not look back and has no groups, so its matches are described by spans alone.
-/
theorem node_isFree : node.isFree = true := by decide

/-- The pattern is taken as a variable here, so that nothing evaluates it. -/
theorem isAddressLine_of_shape {c : Compiled} (h : shape = .ok c) {s : String} {ok : Bool}
    (hok : c.matchesStart s = .ok ok) : isAddressLine s = ok := by
  unfold isAddressLine
  generalize shape = r at h
  subst h
  dsimp only
  rw [hok]
  cases ok <;> rfl

/-- The test of the program, in terms of the grammar. -/
theorem isAddressLine_iff (s : String) :
    isAddressLine s = true ↔ ∃ cs, IsAddress cs ∧ IsLineOf cs s.toList := by
  obtain ⟨ok, hok, hiff⟩ := Compiled.matchesStart_free (c := ⟨node, 3⟩) node_isFree s
  have hlong : ∀ cs, IsAddress cs → IsLineOf cs s.toList → 3 ≤ s.length := by
    rintro _ ⟨name, domain, hname, hdomain, rfl, -⟩ hline
    have hlength := hline.isPrefix.length_le
    have hname := List.length_pos_iff.mpr (hname.ne_nil fun _ h => h.1)
    have hdomain := List.length_pos_iff.mpr (hdomain.ne_nil fun _ h => h.nonempty)
    simp only [List.length_append, List.length_cons, String.length_toList] at hlength
    omega
  rw [isAddressLine_of_shape shape_eq hok, hiff, node_spans_iff, String.length_toList.symm]
  exact and_iff_right_of_imp fun ⟨cs, hcs, hline⟩ => hlong cs hcs hline

end DynamicForm.Address

namespace DynamicForm.Check

open Address

/-- **The check for addresses** always has a verdict. It accepts the empty text and exactly the
texts that the grammar allows, whole or with one line break after them. -/
theorem email_spelled (today : Date) (s : String) :
    ∃ ok, passes today .email (.text s) = .ok ok ∧
      (ok = true ↔ s = "" ∨ IsAddress s.toList ∨ ∃ cs, IsAddress cs ∧ s.toList = cs ++ ['\n']) := by
  refine ⟨_, rfl, ?_⟩
  rw [Bool.or_eq_true, isEmail, isAddressLine_iff]
  refine or_congr (by simp [Value.isEmpty]) ?_
  constructor
  · rintro ⟨cs, hcs, hwhole | hbreak⟩
    · exact .inl (hwhole ▸ hcs)
    · exact .inr ⟨cs, hcs, hbreak⟩
  · rintro (hwhole | ⟨cs, hcs, hbreak⟩)
    · exact ⟨_, hwhole, .inl rfl⟩
    · exact ⟨cs, hcs, .inr hbreak⟩

/-- **A line break** after an address is no part of it, and yet the check accepts both together. -/
theorem not_spelled_lineBreak :
    passes ⟨2024, 1, 15⟩ .email (.text "a@b.co\n") = .ok true ∧ ¬IsAddress "a@b.co\n".toList := by
  have haddress : IsAddress "a@b.co".toList :=
    ⟨['a'], ['b', '.', 'c', 'o'], ⟨[['a']], by decide, by decide, rfl⟩,
      ⟨[['b'], ['c', 'o']], by decide, by decide, rfl⟩, rfl, by decide, by decide⟩
  have haccepts : isEmail (.text "a@b.co\n") = true :=
    (isAddressLine_iff "a@b.co\n").mpr ⟨_, haddress, .inr rfl⟩
  refine ⟨by rw [passes, haccepts, Bool.or_true], ?_⟩
  rintro ⟨name, domain, hname, hdomain, hwhole, -⟩
  exact not_mem_mailbox hname hdomain (hwhole ▸ by decide)

end DynamicForm.Check

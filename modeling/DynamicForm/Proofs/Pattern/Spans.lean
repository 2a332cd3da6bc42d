import DynamicForm.Proofs.Pattern.Groups

/-!
# What patterns span

Matching tries one way after another and keeps the first that leads to a match. As long as nothing
is decided once and for all, the order of the tries says which match is found, but not whether there
is one: that depends on the stretches of the text that the parts can take up.

The relation between the two descriptions is `Step.Follows`. It does not say which match is found,
nor with which track, but only whether there is one, for any continuation whose success depends on
the position alone. That this is enough for the induction is due to the patterns being free. If a
round of a repetition could be kept for good, or a group be compared with later text, success would
depend on how a position has been reached.

Two things in the matcher have no counterpart in the relation and have to be shown harmless: the
budget of a repetition, which is never exhausted because each round takes up a character, and the
lead of a part, which leaves out attempts that would fail.

- `Node.Spans`: the stretches that a part can take up, without a word on the order.
- `Node.isFree`: the patterns that decide nothing early. They have no groups, their repetitions are
  greedy, and every round of a repetition moves on.
- `Node.run_follows`: such a pattern goes exactly where it spans.
- `Compiled.matchesStart_free`: so it matches a beginning of a text exactly if it spans one.
-/

namespace DynamicForm.Pattern

/-! ## Stretches

What can be taken up, as a relation between two positions. -/

/-- So many rounds in a row. -/
def Repeats (R : Nat → Nat → Prop) : Nat → Nat → Nat → Prop
  | 0, i, j => j = i
  | n + 1, i, j => ∃ m, R i m ∧ Repeats R n m j

/-- The stretches of a text, from one position to another, that a part can take up. Only what
`Node.isFree` allows is described. -/
def Node.Spans (text : Array Char) : Node → Nat → Nat → Prop
  | .empty, i, j => j = i
  | .one test, i, j => test.acceptsAt text i = true ∧ j = i + 1
  | .place p, i, j => p.holds text i = true ∧ j = i
  | .seq a b, i, j => ∃ m, a.Spans text i m ∧ b.Spans text m j
  | .branch lead a others, i, j =>
    lead.admits text i = true ∧ a.Spans text i j ∨ others.Spans text i j
  | .loop _ least most body, i, j =>
    ∃ n, least ≤ n ∧ (∀ m ∈ most, n ≤ m) ∧ Repeats (body.Spans text) n i j
  | .loopOne _ least most test next, i, j =>
    ∃ n, least ≤ n ∧ (∀ m ∈ most, n ≤ m) ∧ i + n ≤ text.size ∧
      (∀ d < n, test.acceptsAt text (i + d) = true) ∧ next.admitsExact text j = true ∧ j = i + n
  | .look negated back body, i, j =>
    (negated = false ↔ back ≤ i ∧ ∃ m, body.Spans text (i - back) m) ∧ j = i
  | _, _, _ => False

/-- Whether a part takes up at least one character. -/
def Node.moves : Node → Bool
  | .one _ => true
  | .seq a b => a.moves || b.moves
  | .branch _ a others => a.moves && others.moves
  | .loopOne _ least _ _ _ => decide (0 < least)
  | .never => true
  | _ => false

/-- Whether nothing in a pattern is decided once and for all. -/
def Node.isFree : Node → Bool
  | .seq a b => a.isFree && b.isFree
  | .branch _ a others => a.isFree && others.isFree
  | .loop mode least most body =>
    mode == .greedy && most.all (decide <| least ≤ ·) && body.moves && body.isFree
  | .loopOne mode _ _ _ _ => mode == .greedy
  | .look _ _ body => body.isFree
  | .group _ _ => false
  | .atomic _ => false
  | .same _ _ => false
  | .ifGroup _ _ _ => false
  | _ => true

variable {text : Array Char} {inLoop : Bool} {k : Rest} {body : Step} {t : Track} {i j n : Nat}
  {P : Nat → Prop} {R : Nat → Nat → Prop} {node : Node} {test : CharTest}

/-- A free pattern has no groups, so it has a verdict on every text. -/
theorem Node.isPlain_of_isFree (h : node.isFree = true) : node.IsPlain := by
  induction node with
  | seq a b iha ihb =>
    simp only [isFree, Bool.and_eq_true] at h
    exact ⟨iha h.1, ihb h.2⟩
  | branch lead a others iha ihothers =>
    simp only [isFree, Bool.and_eq_true] at h
    exact ⟨iha h.1, ihothers h.2⟩
  | loop mode least most body ih =>
    simp only [isFree, Bool.and_eq_true] at h
    exact ih h.2
  | look negated back body ih => exact ih h
  -- what is not free need not be shown to be plain
  | group number body => cases h
  | atomic body => cases h
  | same number fold => cases h
  | ifGroup number yes no => cases h
  | empty => trivial
  | one test => trivial
  | place p => trivial
  | never => trivial
  | loopOne mode least most test next => trivial

theorem CharTest.lt_size_of_acceptsAt (h : test.acceptsAt text i = true) : i < text.size := by
  unfold acceptsAt at h
  split at h
  · next c hc => exact (Array.getElem?_eq_some_iff.mp hc).1
  · cases h

theorem repeats_bounds (hR : ∀ {i j}, R i j → i ≤ j ∧ j ≤ max i text.size)
    (h : Repeats R n i j) : i ≤ j ∧ j ≤ max i text.size := by
  induction n generalizing i with
  | zero =>
    obtain rfl := h
    omega
  | succ n ih =>
    obtain ⟨m, hm, hrest⟩ := h
    have hround := hR hm
    have hrest := ih hrest
    omega

/-- A stretch does not go back, and not beyond the text. -/
theorem Node.spans_bounds (h : node.Spans text i j) : i ≤ j ∧ j ≤ max i text.size := by
  -- parts that cannot be described span nothing, which leaves nothing to show of them
  induction node generalizing i j with
  | empty =>
    obtain rfl := h
    omega
  | one test =>
    obtain ⟨haccepts, rfl⟩ := h
    have hlt := CharTest.lt_size_of_acceptsAt haccepts
    omega
  | place p =>
    obtain ⟨-, rfl⟩ := h
    omega
  | seq a b iha ihb =>
    obtain ⟨m, ha, hb⟩ := h
    have hfirst := iha ha
    have hsecond := ihb hb
    omega
  | branch lead a others iha ihothers =>
    rcases h with ⟨-, h⟩ | h
    · exact iha h
    · exact ihothers h
  | loop mode least most body ih =>
    obtain ⟨n, -, -, hrounds⟩ := h
    exact repeats_bounds ih hrounds
  | loopOne mode least most test next =>
    obtain ⟨n, -, -, hroom, -, -, rfl⟩ := h
    omega
  | look negated back body ih =>
    obtain ⟨-, rfl⟩ := h
    omega
  | never => exact h.elim
  | group number body => exact h.elim
  | atomic body => exact h.elim
  | same number fold => exact h.elim
  | ifGroup number yes no => exact h.elim

/-- A part that takes up a character moves on. -/
theorem Node.lt_of_spans (hmoves : node.moves = true) (h : node.Spans text i j) : i < j := by
  induction node generalizing i j with
  | one test =>
    obtain ⟨-, rfl⟩ := h
    omega
  -- one of the two parts moves, and the other does not move back
  | seq a b iha ihb =>
    obtain ⟨m, ha, hb⟩ := h
    have hfirst := spans_bounds ha
    have hsecond := spans_bounds hb
    rcases Bool.or_eq_true_iff.mp hmoves with hmoves | hmoves
    · have hlt := iha hmoves ha
      omega
    · have hlt := ihb hmoves hb
      omega
  | branch lead a others iha ihothers =>
    simp only [moves, Bool.and_eq_true] at hmoves
    rcases h with ⟨-, h⟩ | h
    · exact iha hmoves.1 h
    · exact ihothers hmoves.2 h
  | loopOne mode least most test next =>
    obtain ⟨n, hleast, -, -, -, -, rfl⟩ := h
    have hpos := of_decide_eq_true hmoves
    omega
  | never => exact h.elim
  -- what need not move does not count as moving
  | empty => cases hmoves
  | place p => cases hmoves
  | loop mode least most body => cases hmoves
  | look negated back body => cases hmoves
  | group number body => cases hmoves
  | atomic body => cases hmoves
  | same number fold => cases hmoves
  | ifGroup number yes no => cases hmoves

/-! ## Where a part goes

The statement that is proved by induction, and how attempts are combined. -/

/-- Whether an attempt ends in a match. -/
def Outcome.isMatched : Outcome → Bool
  | matched _ => true
  | failed _ => false

@[simp]
theorem Outcome.isMatched_matched (t : Track) : (matched t).isMatched = true := rfl

@[simp]
theorem Outcome.isMatched_failed (t : Track) : (failed t).isMatched = false := rfl

/-- Where the reading head stands after a failure does not matter. -/
@[simp]
theorem Outcome.isMatched_orBackTo (o : Outcome) (position : Nat) :
    (o.orBackTo position).isMatched = o.isMatched := by
  cases o <;> rfl

/-- A part goes exactly where a relation leads: there is a match if and only if what follows has one
from some such position. What follows may depend on the position alone, as far as the part gets. -/
def Step.Follows (s : Step) (R : Nat → Nat → Prop) : Prop :=
  ∀ {t : Track} {i : Nat} {k : Rest} {P : Nat → Prop},
    (∀ t j, R i j → ((k t j).isMatched = true ↔ P j)) →
      ((s t i k).isMatched = true ↔ ∃ j, R i j ∧ P j)

/-- An attempt that has been looked at and found to match. -/
theorem isMatched_of_matched {o : Outcome} {r : Track} (h : o = .matched r) :
    o.isMatched = true :=
  congrArg Outcome.isMatched h

/-- An attempt that has been looked at and found to fail. -/
theorem not_isMatched_of_failed {o : Outcome} {u : Track} (h : o = .failed u) :
    ¬o.isMatched = true := by
  simp [h]

/-- What is tried on a condition. -/
theorem isMatched_ite {c : Bool} {o : Outcome} {Q : Prop}
    (h : c = true → (o.isMatched = true ↔ Q)) :
    (if c then o else .failed t).isMatched = true ↔ c = true ∧ Q := by
  cases c with
  | true => simpa using h rfl
  | false => simp

/-- When the first try fails, the next one decides. -/
theorem isMatched_orElse (o : Outcome) {next : Track → Outcome} {Q : Prop}
    (hnext : ∀ u, (next u).isMatched = true ↔ Q) :
    (match o with
      | .matched r => .matched r
      | .failed u => next u : Outcome).isMatched = true ↔ o.isMatched = true ∨ Q := by
  cases o with
  | matched r => simp
  | failed u => simpa using hnext u

/-- A position on the way may be named first or last. -/
theorem exists_through {A P : Nat → Prop} :
    (∃ m, A m ∧ ∃ j, R m j ∧ P j) ↔ ∃ j, (∃ m, A m ∧ R m j) ∧ P j := by
  constructor
  · rintro ⟨m, hm, j, hj, h⟩
    exact ⟨j, ⟨m, hm, hj⟩, h⟩
  · rintro ⟨j, ⟨m, hm, hj⟩, h⟩
    exact ⟨m, hm, j, hj, h⟩

/-! ## Repetition of one character

A row of characters is counted first, and then tried at every length that is allowed. The statement
is about lengths: there is a match if one of them leads to it. -/

/-- The characters that are counted are those that are accepted in a row. -/
theorem CharTest.le_count {limit : Nat} :
    n ≤ test.count text limit i ↔ n ≤ limit ∧ ∀ d < n, test.acceptsAt text (i + d) = true := by
  induction limit generalizing n i with
  | zero =>
    simp only [count, Nat.le_zero]
    exact ⟨fun h => ⟨h, by omega⟩, And.left⟩
  | succ limit ih =>
    rw [count]
    cases n with
    | zero => simp
    | succ n =>
      split
      -- the first character is accepted, so the count goes on one place further
      · next hfirst =>
        rw [Nat.add_le_add_iff_right, ih, Nat.add_le_add_iff_right]
        refine and_congr_right fun _ => ⟨fun h d hd => ?_, fun h d hd => ?_⟩
        · cases d with
          | zero => exact hfirst
          | succ d => simpa only [Nat.add_assoc, Nat.add_comm 1] using h d (by omega)
        · simpa only [Nat.add_assoc, Nat.add_comm 1] using h (d + 1) (by omega)
      · next hfirst =>
        refine iff_of_false (by omega) fun h => hfirst (h.2 0 (by omega))

/-- The longest row of characters that a repetition may take up. -/
theorem CharTest.le_row {most : Option Nat} (hi : i ≤ text.size) :
    n ≤ test.count text (min (text.size - i) (most.getD (text.size - i))) i ↔
      (∀ m ∈ most, n ≤ m) ∧ i + n ≤ text.size ∧ ∀ d < n, test.acceptsAt text (i + d) = true := by
  have hlimit : n ≤ min (text.size - i) (most.getD (text.size - i)) ↔
      (∀ m ∈ most, n ≤ m) ∧ i + n ≤ text.size := by
    cases most with
    | none => simp; omega
    | some m => simp; omega
  rw [le_count, hlimit, and_assoc]

/-- What is tried after a row of characters. -/
theorem tried_isMatched (inLoop : Bool) (t : Track) (next : Lead)
    (hk : ∀ t, next.admitsExact text i = true → ((k t i).isMatched = true ↔ P i)) :
    (if next.admitsExact text i then
      match k { t with head := i } i with
      | .matched r => .matched r
      | .failed u => .failed { u with marks := Marks.giveUp inLoop t.marks u.marks }
    else .failed t : Outcome).isMatched = true ↔ next.admitsExact text i = true ∧ P i := by
  refine isMatched_ite fun hadmits => ?_
  rw [isMatched_orElse (Q := False) _ fun _ => by simp, hk _ hadmits, or_false]

/-- A row is cut short to every length that is allowed. -/
theorem longestFirst_follows {next : Lead} {position extra : Nat}
    (hk : ∀ t d, d ≤ extra → next.admitsExact text (position + d) = true →
      ((k t (position + d)).isMatched = true ↔ P (position + d))) :
    (longestFirst inLoop text next k position extra t).isMatched = true ↔
      ∃ d ≤ extra, next.admitsExact text (position + d) = true ∧ P (position + d) := by
  induction extra generalizing t with
  -- nothing of the row is optional, so there is one attempt
  | zero =>
    have htried := tried_isMatched inLoop t next fun t => hk t 0 (Nat.le_refl 0)
    unfold longestFirst
    dsimp only
    split
    · next r hr => exact iff_of_true rfl ⟨0, Nat.le_refl 0, htried.mp (isMatched_of_matched hr)⟩
    · next u _ hu =>
      refine iff_of_false Bool.false_ne_true ?_
      rintro ⟨d, hd, h⟩
      obtain rfl := Nat.le_zero.mp hd
      exact not_isMatched_of_failed hu (htried.mpr h)
    · next h _ => cases h
  -- the whole row is tried first, and then what is left of it when one character is given back
  | succ n ih =>
    have htried := tried_isMatched inLoop t next
      fun t => hk t (n + 1) (Nat.le_refl _)
    unfold longestFirst
    dsimp only
    split
    · next r hr => exact iff_of_true rfl ⟨n + 1, Nat.le_refl _, htried.mp (isMatched_of_matched hr)⟩
    · next h _ => cases h
    · next m u hm hu =>
      obtain rfl := Nat.succ.inj hm
      rw [ih fun t d hd => hk t d (by omega)]
      constructor
      · rintro ⟨d, hd, h⟩
        exact ⟨d, by omega, h⟩
      · rintro ⟨d, hd, h⟩
        rcases Nat.le_succ_iff.mp hd with hd | rfl
        · exact ⟨d, hd, h⟩
        · exact absurd (htried.mpr h) (not_isMatched_of_failed hu)

/-- A greedy repetition of one character goes to the end of each row that is long enough and not too
long. -/
theorem runOne_follows {least : Nat} {most : Option Nat} {next : Lead} :
    Step.Follows (runOne inLoop text .greedy least most test next)
      ((Node.loopOne .greedy least most test next).Spans text) := by
  intro t i k P hk
  rw [runOne]
  split
  -- the text is too short even for the rounds that have to be
  · next hshort =>
    refine iff_of_false Bool.false_ne_true ?_
    rintro ⟨j, ⟨n, hleast, -, hroom, -⟩, -⟩
    omega
  · next hroom =>
    have hi : i ≤ text.size := by omega
    have hrow : ∀ n, n ≤ test.count text (min (text.size - i) (most.getD (text.size - i))) i ↔
        (∀ m ∈ most, n ≤ m) ∧ i + n ≤ text.size ∧ ∀ d < n, test.acceptsAt text (i + d) = true :=
      fun n => CharTest.le_row hi
    dsimp only
    split
    -- the row is too short for them
    · next hfew =>
      refine iff_of_false Bool.false_ne_true ?_
      rintro ⟨j, ⟨n, hleast, hmost, hn, haccepts, -⟩, -⟩
      have hle := (hrow n).mpr ⟨hmost, hn, haccepts⟩
      omega
    · next hfew =>
      rw [longestFirst_follows (P := P)]
      · constructor
        · rintro ⟨d, hd, hadmits, hP⟩
          obtain ⟨hmost, hn, haccepts⟩ := (hrow (least + d)).mp (by omega)
          rw [Nat.add_assoc] at hadmits hP
          exact ⟨_, ⟨least + d, by omega, hmost, hn, haccepts, hadmits, rfl⟩, hP⟩
        · rintro ⟨j, ⟨n, hleast, hmost, hn, haccepts, hadmits, rfl⟩, hP⟩
          have hle := (hrow n).mpr ⟨hmost, hn, haccepts⟩
          have hn' : i + n = i + least + (n - least) := by omega
          rw [hn'] at hadmits hP
          exact ⟨n - least, by omega, hadmits, hP⟩
      · intro t d hd hadmits
        obtain ⟨hmost, hn, haccepts⟩ := (hrow (least + d)).mp (by omega)
        exact hk t _ ⟨least + d, by omega, hmost, hn, haccepts, hadmits, by omega⟩

/-! ## Repetition of parts

The rounds that have to be come first; they are a sequence. Of those that may be, a match is made
with as many as possible, but whether there is a match at all depends on any number of them. -/

/-- So many rounds lead where so many rounds in a row lead. -/
theorem rounds_follows (hbody : body.Follows R) (n : Nat) :
    Step.Follows (rounds body n) (Repeats R n) := by
  induction n with
  | zero =>
    intro t i k P hk
    rw [rounds, hk t i rfl]
    exact exists_eq_left.symm
  | succ n ih =>
    intro t i k P hk
    rw [rounds, Outcome.isMatched_orBackTo,
      hbody (P := fun m => ∃ j, Repeats R n m j ∧ P j) fun t m hm =>
        ih fun t j hj => hk t j ⟨m, hm, hj⟩]
    exact exists_through

/-- At most so many rounds in a row. -/
def RepeatsUpTo (R : Nat → Nat → Prop) (most : Option Nat) (i j : Nat) : Prop :=
  ∃ n, (∀ m ∈ most, n ≤ m) ∧ Repeats R n i j

theorem repeatsUpTo_cases {most : Option Nat} :
    RepeatsUpTo R most i j ↔
      j = i ∨ most ≠ some 0 ∧ ∃ m, R i m ∧ RepeatsUpTo R (most.map (· - 1)) m j := by
  constructor
  · rintro ⟨n, hmost, hrounds⟩
    cases n with
    | zero => exact .inl hrounds
    | succ n =>
      obtain ⟨m, hm, hrounds⟩ := hrounds
      refine .inr ⟨fun h => absurd (hmost 0 h) (by omega), m, hm, n, fun b hb => ?_, hrounds⟩
      obtain ⟨c, hc, rfl⟩ := Option.map_eq_some_iff.mp hb
      have := hmost c hc
      omega
  · rintro (rfl | ⟨hmost, m, hm, n, hfew, hrounds⟩)
    · exact ⟨0, fun _ _ => Nat.zero_le _, rfl⟩
    · refine ⟨n + 1, fun b hb => ?_, m, hm, hrounds⟩
      have hpos : b ≠ 0 := fun h => hmost (h ▸ hb)
      have := hfew (b - 1) (Option.map_eq_some_iff.mpr ⟨b, hb, rfl⟩)
      omega

theorem repeats_add {a b : Nat} :
    Repeats R (a + b) i j ↔ ∃ m, Repeats R a i m ∧ Repeats R b m j := by
  induction a generalizing i with
  | zero => simp [Repeats]
  | succ a ih =>
    rw [Nat.succ_add]
    simp only [Repeats, ih]
    exact exists_through

/-- The rounds that have to be come first, and then as many as may be. -/
theorem repeats_least {least : Nat} {most : Option Nat}
    (hrange : most.all (decide <| least ≤ ·) = true) :
    (∃ m, Repeats R least i m ∧ RepeatsUpTo R (most.map (· - least)) m j) ↔
      ∃ n, least ≤ n ∧ (∀ m ∈ most, n ≤ m) ∧ Repeats R n i j := by
  constructor
  · rintro ⟨m, hm, n, hn, hrest⟩
    refine ⟨least + n, by omega, fun b hb => ?_, repeats_add.mpr ⟨m, hm, hrest⟩⟩
    obtain rfl := hb
    have hfits : least ≤ b := of_decide_eq_true hrange
    have := hn (b - least) rfl
    omega
  · rintro ⟨n, hleast, hn, hrounds⟩
    obtain ⟨extra, rfl⟩ := Nat.exists_eq_add_of_le hleast
    obtain ⟨m, hm, hrest⟩ := repeats_add.mp hrounds
    refine ⟨m, hm, extra, fun b hb => ?_, hrest⟩
    obtain ⟨c, hc, rfl⟩ := Option.map_eq_some_iff.mp hb
    have := hn c hc
    omega

/-- The budget covers every round, since each round moves on. -/
theorem moreRounds_follows (hbody : body.Follows R)
    (hmoves : ∀ {i j}, R i j → i < j ∧ j ≤ text.size) {budget : Nat} {most last : Option Nat}
    (hlast : ∀ l ∈ last, l < i) (hbudget : text.size + 1 < budget + i)
    (hk : ∀ t j, RepeatsUpTo R most i j → ((k t j).isMatched = true ↔ P j)) :
    (moreRounds body budget most last t i k).isMatched = true ↔
      ∃ j, RepeatsUpTo R most i j ∧ P j := by
  induction budget generalizing t i most last with
  -- the budget would be used up only after more rounds than there are characters
  | zero =>
    rw [moreRounds, hk t i (repeatsUpTo_cases.mpr (.inl rfl))]
    constructor
    · intro h
      exact ⟨i, repeatsUpTo_cases.mpr (.inl rfl), h⟩
    · rintro ⟨j, hj, h⟩
      rcases repeatsUpTo_cases.mp hj with rfl | ⟨-, m, hm, -⟩
      · exact h
      · have := hmoves hm
        omega
  | succ budget ih =>
    have hstay : ∀ t, (k t i).isMatched = true ↔ P i :=
      fun t => hk t i (repeatsUpTo_cases.mpr (.inl rfl))
    -- the last round has moved on, so that it cannot be the reason to stop here
    have hnew : last ≠ some i := fun h => Nat.lt_irrefl i (hlast i h)
    rw [moreRounds]
    split
    · next hstop =>
      have hnone : most = some 0 := hstop.resolve_right hnew
      rw [Outcome.isMatched_orBackTo, hstay]
      constructor
      · intro h
        exact ⟨i, repeatsUpTo_cases.mpr (.inl rfl), h⟩
      · rintro ⟨j, hj, h⟩
        rcases repeatsUpTo_cases.mp hj with rfl | ⟨hmost, -⟩
        · exact h
        · exact absurd hnone hmost
    · next hgo =>
      have hmost : most ≠ some 0 := fun h => hgo (.inl h)
      have hround : ∀ t, (body t i fun t j =>
          moreRounds body budget (most.map (· - 1)) (some i) t j k).isMatched = true ↔
            ∃ m, R i m ∧ ∃ j, RepeatsUpTo R (most.map (· - 1)) m j ∧ P j := by
        refine fun t => hbody fun t m hm => ih ?_ ?_ ?_
        · intro l hl
          obtain rfl := Option.some.inj hl
          exact (hmoves hm).1
        · have := hmoves hm
          omega
        · exact fun t j hj => hk t j (repeatsUpTo_cases.mpr (.inr ⟨hmost, m, hm, hj⟩))
      have hback : ∀ t, ((k t i).orBackTo i).isMatched = true ↔ P i := fun t => by
        rw [Outcome.isMatched_orBackTo, hstay]
      -- either another round leads to a match, or this is where the repetition ends
      refine (isMatched_orElse _ fun _ => hback _).trans ?_
      rw [hround]
      constructor
      · rintro (⟨m, hm, j, hj, h⟩ | h)
        · exact ⟨j, repeatsUpTo_cases.mpr (.inr ⟨hmost, m, hm, hj⟩), h⟩
        · exact ⟨i, repeatsUpTo_cases.mpr (.inl rfl), h⟩
      · rintro ⟨j, hj, h⟩
        rcases repeatsUpTo_cases.mp hj with rfl | ⟨-, m, hm, hj⟩
        · exact .inr h
        · exact .inl ⟨m, hm, j, hj, h⟩

/-! ## Patterns

One lemma for each of the parts with a branch in them, and the induction. -/

namespace Node

variable {a others part : Node}

/-- A way that cannot begin here is left out, which does not matter. -/
theorem branch_follows {lead : Lead} (ha : Step.Follows (a.run text inLoop) (a.Spans text))
    (hothers : Step.Follows (others.run text inLoop) (others.Spans text)) :
    Step.Follows ((branch lead a others).run text inLoop)
      ((branch lead a others).Spans text) := by
  intro t i k P hk
  have hnext : ∀ t, (others.run text inLoop t i k).isMatched = true ↔
      ∃ j, others.Spans text i j ∧ P j :=
    fun t => hothers fun t j hj => hk t j (.inr hj)
  rw [run]
  split
  · next hadmits =>
    refine (isMatched_orElse _ fun _ => hnext _).trans ?_
    rw [ha fun t j hj => hk t j (.inl ⟨hadmits, hj⟩)]
    simp only [Spans, hadmits, true_and, or_and_right, exists_or]
  · next hleads => simp only [hnext, Spans, hleads, false_and, false_or, Bool.false_eq_true]

/-- First the rounds that have to be, then those that may be, with a budget that is large enough. -/
theorem loop_follows {least : Nat} {most : Option Nat}
    (hpart : Step.Follows (part.run text true) (part.Spans text))
    (hrange : most.all (decide <| least ≤ ·) = true) (hmoves : part.moves = true) :
    Step.Follows ((loop .greedy least most part).run text inLoop)
      ((loop .greedy least most part).Spans text) := by
  intro t i k P hk
  have hmove : ∀ {i j}, part.Spans text i j → i < j ∧ j ≤ text.size := by
    intro i j hj
    have hlt := lt_of_spans hmoves hj
    have hle := spans_bounds hj
    omega
  have hrounds : ∀ {j}, (∃ m, Repeats (part.Spans text) least i m ∧
      RepeatsUpTo (part.Spans text) (most.map (· - least)) m j) ↔
        (loop .greedy least most part).Spans text i j := repeats_least hrange
  -- after the rounds that have to be, there is room for as many as the text is long
  have hmore : ∀ t m, Repeats (part.Spans text) least i m →
      ((moreRounds (fun t i k => part.run text true t i k) (text.size + 2) (most.map (· - least))
        none t m k).isMatched = true ↔
          ∃ j, RepeatsUpTo (part.Spans text) (most.map (· - least)) m j ∧ P j) :=
    fun t m hm => moreRounds_follows hpart hmove (by simp) (by omega)
      fun t j hj => hk t j (hrounds.mp ⟨m, hm, hj⟩)
  unfold run
  refine (rounds_follows hpart least hmore).trans ?_
  simp only [← hrounds]
  exact exists_through

/-- A part that looks goes nowhere: it says whether what follows is tried. -/
theorem look_follows {negated : Bool} {back : Nat}
    (hpart : Step.Follows (part.run text inLoop) (part.Spans text)) :
    Step.Follows ((look negated back part).run text inLoop)
      ((look negated back part).Spans text) := by
  intro t i k P hk
  -- what is looked for may end anywhere, so nothing is asked of the position
  have htried : ∀ t, (part.run text inLoop t (i - back) arrive).isMatched = true ↔
      ∃ m, part.Spans text (i - back) m := by
    intro t
    rw [hpart (P := fun _ => True) fun _ _ _ => iff_of_true rfl trivial]
    simp only [and_true]
  have hstays : (∃ j, (look negated back part).Spans text i j ∧ P j) ↔
      (negated = false ↔ back ≤ i ∧ ∃ m, part.Spans text (i - back) m) ∧ P i := by
    simp only [Spans, and_assoc, exists_and_left, exists_eq_left]
  have hgoes : (negated = false ↔ back ≤ i ∧ ∃ m, part.Spans text (i - back) m) → ∀ t,
      ((k t i).isMatched = true ↔ P i) := fun h t => hk t i ⟨h, rfl⟩
  rw [hstays]
  unfold run
  split
  -- the text does not reach back so far, so nothing is found there
  · next hshort =>
    have hfar : ¬back ≤ i := by omega
    cases negated with
    | true => simpa [hfar] using hgoes (by simp [hfar]) t
    | false => simp [hfar]
  · next hroom =>
    have hback : back ≤ i := by omega
    have hlook := htried { t with head := i - back }
    cases hfound : part.run text inLoop { t with head := i - back } (i - back) arrive with
    | matched u =>
      have hspans := hlook.mp (by rw [hfound]; rfl)
      cases negated with
      | true => simp [hback, hspans]
      | false => simpa [hback, hspans] using hgoes (by simp [hback, hspans]) u
    | failed u =>
      have hmissing : ¬∃ m, part.Spans text (i - back) m := by
        rw [← hlook, hfound]
        exact Bool.false_ne_true
      cases negated with
      | true => simpa [hmissing] using hgoes (by simp [hmissing]) _
      | false => simp [hmissing]

/-- **Matching** a free pattern goes exactly where it spans, by induction on the pattern. -/
theorem run_follows (text : Array Char) (h : node.isFree = true) (inLoop : Bool) :
    Step.Follows (node.run text inLoop) (node.Spans text) := by
  induction node generalizing inLoop with
  | empty =>
    intro t i k P hk
    rw [run, hk t i rfl]
    exact exists_eq_left.symm
  | one test =>
    intro t i k P hk
    rw [run, isMatched_ite fun haccepts => hk t (i + 1) ⟨haccepts, rfl⟩]
    simp only [Spans, and_assoc, exists_and_left, exists_eq_left]
  | place p =>
    intro t i k P hk
    rw [run, isMatched_ite fun hholds => hk t i ⟨hholds, rfl⟩]
    simp only [Spans, and_assoc, exists_and_left, exists_eq_left]
  -- the second part goes on for whoever comes after the first
  | seq a b iha ihb =>
    intro t i k P hk
    simp only [isFree, Bool.and_eq_true] at h
    rw [run, iha h.1 inLoop (P := fun m => ∃ j, b.Spans text m j ∧ P j) fun t m hm =>
      ihb h.2 inLoop fun t j hj => hk t j ⟨m, hm, hj⟩]
    exact exists_through
  | never =>
    intro t i k P hk
    simp [run, Spans]
  | branch lead a others iha ihothers =>
    simp only [isFree, Bool.and_eq_true] at h
    exact branch_follows (iha h.1 inLoop) (ihothers h.2 inLoop)
  -- a loop that is free is greedy, and each of its rounds moves on
  | loop mode least most body ih =>
    simp only [isFree, Bool.and_eq_true, beq_iff_eq] at h
    obtain ⟨⟨⟨rfl, hrange⟩, hmoves⟩, hbody⟩ := h
    exact loop_follows (ih hbody true) hrange hmoves
  | loopOne mode least most test next =>
    obtain rfl : mode = .greedy := eq_of_beq h
    exact runOne_follows
  | look negated back body ih => exact look_follows (ih h inLoop)
  -- none of the others is free of marks and of choices that cannot be taken back
  | group number body => cases h
  | atomic body => cases h
  | same number fold => cases h
  | ifGroup number yes no => cases h

end Node

/-- **Verdicts.** A free pattern matches a beginning of a text exactly if it spans one, however the
tries are ordered. -/
theorem Compiled.matchesStart_free {c : Compiled} (h : c.node.isFree = true) (s : String) :
    ∃ ok, c.matchesStart s = .ok ok ∧
      (ok = true ↔ c.least ≤ s.length ∧ ∃ j, c.node.Spans s.toList.toArray 0 j) := by
  have hsize : s.toList.toArray.size = s.length := by
    rw [List.size_toArray, String.length_toList]
  have hspans : (c.node.run s.toList.toArray false {} 0 arrive).isMatched = true ↔
      ∃ j, c.node.Spans s.toList.toArray 0 j := by
    rw [Node.run_follows _ h false (P := fun _ => True) fun _ _ _ => iff_of_true rfl trivial]
    simp only [and_true]
  have hmarks := Node.run_unmarking s.toList.toArray (Node.isPlain_of_isFree h) false {} 0 _ rfl
    arrive_unmarking
  unfold matchesStart
  dsimp only
  split
  -- a text that is too short is not looked at
  · next hshort => exact ⟨false, rfl, by simp; omega⟩
  · next hlong =>
    split
    · next t hr =>
      rw [show t.marks = #[] from unmarked_of_matched hr hmarks]
      exact ⟨true, rfl, iff_of_true rfl ⟨by omega, hspans.mp (isMatched_of_matched hr)⟩⟩
    · next u hu =>
      refine ⟨false, rfl, iff_of_false Bool.false_ne_true fun h => ?_⟩
      exact not_isMatched_of_failed hu (hspans.mpr h.2)

end DynamicForm.Pattern

import DynamicForm.Pattern.Matcher

/-!
# Patterns without groups

Matching can leave a group that ends before it begins, because an attempt that is given up takes
back only some of its marks. Marks are set by groups alone, so this is no matter for a pattern that
has none.

What follows a part is a continuation, so a statement about a part has to be made for every
continuation that deserves it. `Step.Unmarking` says that a part hands over no marks if it is given
none and if what follows it would leave none either. In this form the statement can be proved by
induction on the pattern, because the continuation that a part in the middle of a sequence gets is
made of the parts after it. The repetitions are functions of their own, by recursion on a budget,
and each of them has the same statement as a part.

- `Step.Unmarking`: a part that is matched without marks leaves none.
- `Node.run_unmarking`: so does a pattern without groups, whatever is tried on the way.
- `Compiled.fullMatch_of_plain`: matching it always has a verdict.
-/

namespace DynamicForm.Pattern

/-- The track that an attempt leaves. -/
def Outcome.track : Outcome → Track
  | matched t => t
  | failed t => t

/-- No group has been marked. -/
def Track.Unmarked (t : Track) : Prop := t.marks = #[]

/-- What is tried leaves no marks when there are none. -/
def Rest.Unmarking (k : Rest) : Prop :=
  ∀ t i, t.Unmarked → (k t i).track.Unmarked

/-- A part leaves no marks when what follows it does not. -/
def Step.Unmarking (s : Step) : Prop :=
  ∀ t i k, t.Unmarked → Rest.Unmarking k → (s t i k).track.Unmarked

/-- The pattern has no groups. -/
def Node.IsPlain : Node → Prop
  | .seq a b => a.IsPlain ∧ b.IsPlain
  | .branch _ a others => a.IsPlain ∧ others.IsPlain
  | .loop _ _ _ body => body.IsPlain
  | .group _ _ => False
  | .atomic body => body.IsPlain
  | .look _ _ body => body.IsPlain
  | .ifGroup _ yes no => yes.IsPlain ∧ no.IsPlain
  | _ => True

variable {text : Array Char} {inLoop : Bool} {k : Rest} {body : Step} {t u : Track}

/-- What is known of the track of an attempt is known of the match that it ends in. -/
theorem unmarked_of_matched {o : Outcome} (h : o = .matched u) (ho : o.track.Unmarked) :
    u.Unmarked := by
  subst h
  exact ho

/-- It is known of a failure too, from which the next attempt goes on. -/
theorem unmarked_of_failed {o : Outcome} (h : o = .failed u) (ho : o.track.Unmarked) :
    u.Unmarked := by
  subst h
  exact ho

theorem arrive_unmarking : Rest.Unmarking arrive := fun _ _ ht => ht

/-- Taking marks back adds none. -/
theorem giveUp_unmarked (ht : t.Unmarked) (hu : u.Unmarked) :
    Marks.giveUp inLoop t.marks u.marks = #[] := by
  cases inLoop with
  | true => exact ht
  | false => simp [Marks.giveUp, show u.marks = #[] from hu]

/-- The reading head is set back, which does not concern marks. -/
theorem Outcome.orBackTo_unmarked {o : Outcome} (h : o.track.Unmarked) (position : Nat) :
    (o.orBackTo position).track.Unmarked := by
  cases o with
  | matched t => exact h
  | failed t => exact h

/-! ## Repetition of one character

Tried from the longest row down or from the shortest one up. In both directions an attempt that
fails is given up, and the next one begins with the marks that are left. -/

/-- What is tried after a row of characters. -/
theorem tried_unmarked (inLoop : Bool) (hk : k.Unmarking) (ht : t.Unmarked) (admitted : Bool)
    (i : Nat) :
    (if admitted then
      match k { t with head := i } i with
      | .matched r => .matched r
      | .failed u => .failed { u with marks := Marks.giveUp inLoop t.marks u.marks }
    else .failed t : Outcome).track.Unmarked := by
  have htried := hk { t with head := i } i ht
  split
  · cases hr : k { t with head := i } i with
    | matched r =>
      rw [hr] at htried
      exact htried
    | failed u =>
      rw [hr] at htried
      exact giveUp_unmarked ht htried
  · exact ht

theorem longestFirst_unmarked {next : Lead} {position extra : Nat} (hk : k.Unmarking)
    (ht : t.Unmarked) : (longestFirst inLoop text next k position extra t).track.Unmarked := by
  -- by induction on how much of the row is optional
  induction extra generalizing t with
  | zero =>
    have htried := tried_unmarked inLoop hk ht (next.admitsExact text (position + 0)) (position + 0)
    unfold longestFirst
    dsimp only
    split
    · next r hr => exact unmarked_of_matched hr htried
    · next u _ hu => exact unmarked_of_failed hu htried
    · next h _ => cases h
  | succ n ih =>
    have htried := tried_unmarked inLoop hk ht (next.admitsExact text (position + (n + 1)))
      (position + (n + 1))
    unfold longestFirst
    dsimp only
    split
    · next r hr => exact unmarked_of_matched hr htried
    · next h _ => cases h
    · next m u hm hu =>
      obtain rfl := Nat.succ.inj hm
      exact ih (unmarked_of_failed hu htried)

theorem shortestFirst_unmarked {test : CharTest} {room i : Nat} {most : Option Nat}
    (hk : k.Unmarking) (ht : t.Unmarked) :
    (shortestFirst inLoop text test k room most t i).track.Unmarked := by
  induction room generalizing t i most with
  -- there is room for no more characters, so the rest is tried and that is all
  | zero =>
    unfold shortestFirst
    have htried := hk { t with head := i } i ht
    cases hr : k { t with head := i } i with
    | matched r => exact unmarked_of_matched hr htried
    | failed u => exact giveUp_unmarked ht (unmarked_of_failed hr htried)
  | succ n ih =>
    unfold shortestFirst
    have htried := hk { t with head := i } i ht
    cases hr : k { t with head := i } i with
    | matched r => exact unmarked_of_matched hr htried
    | failed u =>
      -- one more character is taken only after the marks have been given up
      have hback : Marks.giveUp inLoop t.marks u.marks = #[] :=
        giveUp_unmarked ht (unmarked_of_failed hr htried)
      dsimp only
      split
      · split
        · split <;> exact hback
        · refine ih ?_
          split <;> exact hback
      · exact hback

/-! ## Repetition of parts

The part is taken as a step that leaves no marks. A round is that step, with the rounds after it in
its continuation. -/

theorem rounds_unmarking (hbody : body.Unmarking) (n : Nat) : (rounds body n).Unmarking := by
  induction n with
  | zero => exact fun t i k ht hk => hk t i ht
  | succ n ih =>
    intro t i k ht hk
    have hround := hbody { t with head := i } i (fun t j => rounds body n t j k) ht
      fun t' j ht' => ih t' j k ht' hk
    exact Outcome.orBackTo_unmarked hround i

/-- The rounds that may be, as many as possible first. -/
theorem moreRounds_unmarking (hbody : body.Unmarking) (budget : Nat) (most last : Option Nat) :
    (moreRounds body budget most last).Unmarking := by
  induction budget generalizing most last with
  | zero => exact fun t i k ht hk => hk t i ht
  | succ budget ih =>
    intro t i k ht hk
    have hend : ((k { t with head := i } i).orBackTo i).track.Unmarked :=
      Outcome.orBackTo_unmarked (hk { t with head := i } i ht) i
    have hround := hbody { t with head := i } i
      (fun t j => moreRounds body budget (most.map (· - 1)) (some i) t j k) ht
      fun t' j ht' => ih _ _ t' j k ht' hk
    rw [moreRounds]
    split
    · exact hend
    · split
      · next r hr => exact unmarked_of_matched hr hround
      · exact hend

/-- The rounds that may be, as few as possible first. -/
theorem fewRounds_unmarking (hbody : body.Unmarking) (budget : Nat) (most last : Option Nat) :
    (fewRounds inLoop body budget most last).Unmarking := by
  induction budget generalizing most last with
  | zero => exact fun t i k ht hk => hk t i ht
  | succ budget ih =>
    intro t i k ht hk
    have htried := hk { t with head := i } i ht
    rw [fewRounds]
    cases hr : k { t with head := i } i with
    | matched r => exact unmarked_of_matched hr htried
    | failed u =>
      have hback : Marks.giveUp inLoop t.marks u.marks = #[] :=
        giveUp_unmarked ht (unmarked_of_failed hr htried)
      dsimp only
      -- no round is left, or the last one has not moved
      split
      · exact hback
      · have hround := hbody { head := i, marks := Marks.giveUp inLoop t.marks u.marks } i
          (fun t j => fewRounds inLoop body budget (most.map (· - 1)) (some i) t j k) hback
          fun t' j ht' => ih _ _ t' j k ht' hk
        exact Outcome.orBackTo_unmarked hround i

/-- Rounds that are kept once they have been made: each of them is matched on its own. -/
theorem firmRounds_unmarked (hbody : body.Unmarking) {n : Nat} (ht : t.Unmarked) :
    (firmRounds body n t).track.Unmarked := by
  induction n generalizing t with
  | zero => exact ht
  | succ n ih =>
    have hround := hbody t t.head arrive ht arrive_unmarking
    rw [firmRounds]
    split
    · next u hu => exact ih (unmarked_of_matched hu hround)
    · next u hu => exact unmarked_of_failed hu hround

/-- The optional ones of these end at the first round that fails. -/
theorem moreFirmRounds_unmarked (hbody : body.Unmarking) {budget : Nat} {most last : Option Nat}
    (ht : t.Unmarked) : (moreFirmRounds body budget most last t).Unmarked := by
  induction budget generalizing t most last with
  | zero => exact ht
  | succ budget ih =>
    have hround := hbody t t.head arrive ht arrive_unmarking
    rw [moreFirmRounds]
    split
    · exact ht
    · split
      · next u hu => exact ih (unmarked_of_matched hu hround)
      · exact ht

/-! ## Patterns

One lemma for each of the parts that make an attempt of their own, and the induction. Mostly the
attempt is looked at twice: if it matches, its track is what follows gets, and if it fails, marks
are taken back before the next attempt. -/

/-- A repetition of one character, in each of its modes. -/
theorem runOne_unmarking {mode : LoopMode} {least : Nat} {most : Option Nat} {test : CharTest}
    {next : Lead} : (runOne inLoop text mode least most test next).Unmarking := by
  intro t i k ht hk
  rw [runOne]
  split
  · exact ht
  · cases mode with
    | greedy =>
      dsimp only
      split
      · exact ht
      · exact longestFirst_unmarked hk ht
    | lazy =>
      dsimp only
      split
      · exact ht
      · exact shortestFirst_unmarked hk ht
    | possessive =>
      dsimp only
      split
      · exact ht
      · exact hk _ _ ht

namespace Node

variable {a others part : Node}

/-- The second way is tried with what the failure of the first has left. -/
theorem branch_unmarking {lead : Lead} (ha : Step.Unmarking (a.run text inLoop))
    (hothers : Step.Unmarking (others.run text inLoop)) :
    Step.Unmarking ((branch lead a others).run text inLoop) := by
  intro t i k ht hk
  have htried := ha { t with head := i } i k ht hk
  rw [run]
  split
  · split
    · next r hr => exact unmarked_of_matched hr htried
    · next u hu => exact hothers _ i k (giveUp_unmarked ht (unmarked_of_failed hu htried)) hk
  · exact hothers t i k ht hk

/-- Rounds that can be taken back run inside of a loop, and firm ones run where the loop stands. -/
theorem loop_unmarking {mode : LoopMode} {least : Nat} {most : Option Nat}
    (hround : Step.Unmarking (part.run text true)) (hfirm : Step.Unmarking (part.run text inLoop)) :
    Step.Unmarking ((loop mode least most part).run text inLoop) := by
  intro t i k ht hk
  unfold run
  cases mode with
  | greedy =>
    exact rounds_unmarking hround least t i _ ht fun t' j ht' =>
      moreRounds_unmarking hround _ _ _ t' j k ht' hk
  | lazy =>
    exact rounds_unmarking hround least t i _ ht fun t' j ht' =>
      fewRounds_unmarking hround _ _ _ t' j k ht' hk
  | possessive =>
    have hrounds : (firmRounds (fun t i k => part.run text inLoop t i k) least
        { t with head := i }).track.Unmarked := firmRounds_unmarked hfirm ht
    dsimp only
    split
    · next u hu =>
      have hu' : u.Unmarked := unmarked_of_failed hu hrounds
      exact hu'
    · next u hu =>
      exact hk _ _ (moreFirmRounds_unmarked hfirm (unmarked_of_matched hu hrounds))

/-- A part that is kept as it is has been matched by itself, before anything follows. -/
theorem atomic_unmarking (hpart : Step.Unmarking (part.run text inLoop)) :
    Step.Unmarking ((atomic part).run text inLoop) := by
  intro t i k ht hk
  have htried := hpart { t with head := i } i arrive ht arrive_unmarking
  rw [run]
  split
  · next u hu => exact hk _ _ (unmarked_of_matched hu htried)
  · next u hu =>
    have hu' : u.Unmarked := unmarked_of_failed hu htried
    exact hu'

/-- Looking is an attempt that ends where it began, but its marks would stay. -/
theorem look_unmarking {negated : Bool} {back : Nat}
    (hpart : Step.Unmarking (part.run text inLoop)) :
    Step.Unmarking ((look negated back part).run text inLoop) := by
  intro t i k ht hk
  have htried := hpart { t with head := i - back } (i - back) arrive ht arrive_unmarking
  unfold run
  split
  · split
    · exact hk _ _ ht
    · exact ht
  · split
    · next u hu => exact hk _ _ (unmarked_of_matched hu htried)
    · next u hu => exact hk _ _ (giveUp_unmarked ht (unmarked_of_failed hu htried))
    · next u hu => exact unmarked_of_matched hu htried
    · next u hu => exact unmarked_of_failed hu htried

/-- **Matching** a pattern without groups leaves no marks, by induction on the pattern. -/
theorem run_unmarking (text : Array Char) {node : Node} (h : node.IsPlain) (inLoop : Bool) :
    Step.Unmarking (node.run text inLoop) := by
  induction node generalizing inLoop with
  | empty => exact fun t i k ht hk => hk t i ht
  | one test =>
    intro t i k ht hk
    rw [run]
    split
    · exact hk _ _ ht
    · exact ht
  | place p =>
    intro t i k ht hk
    rw [run]
    split
    · exact hk _ _ ht
    · exact ht
  | seq a b iha ihb =>
    intro t i k ht hk
    exact iha h.1 inLoop t i _ ht fun t' j ht' => ihb h.2 inLoop t' j k ht' hk
  | never => exact fun t i k ht hk => ht
  | branch lead a others iha ihothers =>
    exact branch_unmarking (iha h.1 inLoop) (ihothers h.2 inLoop)
  | loop mode least most body ih => exact loop_unmarking (ih h true) (ih h inLoop)
  | loopOne mode least most test next => exact runOne_unmarking
  -- the only part that sets marks
  | group number body => exact h.elim
  | atomic body ih => exact atomic_unmarking (ih h inLoop)
  | look negated back body ih => exact look_unmarking (ih h inLoop)
  | same number fold =>
    intro t i k ht hk
    rw [run]
    split
    · split
      · exact hk _ _ ht
      · exact ht
    · exact ht
  | ifGroup number yes no ihyes ihno =>
    intro t i k ht hk
    rw [run]
    split
    · exact ihyes h.1 inLoop t i k ht hk
    · exact ihno h.2 inLoop t i k ht hk

end Node

/-- **Verdicts.** A pattern without groups matches a text, or it does not. -/
theorem Compiled.fullMatch_of_plain {c : Compiled} (h : c.node.IsPlain) (s : String) :
    ∃ b, c.fullMatch s = .ok b := by
  have hend : Rest.Unmarking fun t i =>
      if i = s.toList.toArray.size then .matched { t with head := i } else .failed t := by
    intro t i ht
    dsimp only
    split
    · exact ht
    · exact ht
  have hmatch := Node.run_unmarking s.toList.toArray h false {} 0 _ rfl hend
  unfold fullMatch
  dsimp only
  split
  · exact ⟨false, rfl⟩
  · split
    -- without marks there is no group that could be out of place
    · next t hr =>
      have hmarks : t.marks = #[] := unmarked_of_matched hr hmatch
      rw [hmarks]
      exact ⟨true, rfl⟩
    · exact ⟨false, rfl⟩

end DynamicForm.Pattern

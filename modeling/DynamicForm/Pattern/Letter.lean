import DynamicForm.Text.Blank
import DynamicForm.Text.Case
import DynamicForm.Text.Digits
import DynamicForm.Text.Letters

/-!
# Single characters of patterns

A pattern tests one character at a time: against a literal, a set, or any character. Tests without
regard to case fold the character to lower case first; a few characters have further partners that
count as the same letter.

- `CharTest.accepts` tests a character.
-/

namespace DynamicForm.Pattern

/-- How characters are folded before they are compared. -/
inductive Fold where
  | none
  /-- Only the letters `A` to `Z`. -/
  | ascii
  /-- All letters. -/
  | unicode
deriving DecidableEq, Repr

/-- Letters that count as the same in lower case although their lower case differs. -/
def partners : List (Nat × List Nat) :=
  [(0x69, [0x131]), (0x73, [0x17f]), (0xb5, [0x3bc]), (0x131, [0x69]), (0x17f, [0x73]),
    (0x345, [0x3b9, 0x1fbe]), (0x390, [0x1fd3]), (0x3b0, [0x1fe3]), (0x3b2, [0x3d0]),
    (0x3b5, [0x3f5]), (0x3b8, [0x3d1]), (0x3b9, [0x345, 0x1fbe]), (0x3ba, [0x3f0]),
    (0x3bc, [0xb5]), (0x3c0, [0x3d6]), (0x3c1, [0x3f1]), (0x3c2, [0x3c3]), (0x3c3, [0x3c2]),
    (0x3c6, [0x3d5]), (0x3d0, [0x3b2]), (0x3d1, [0x3b8]), (0x3d5, [0x3c6]), (0x3d6, [0x3c0]),
    (0x3f0, [0x3ba]), (0x3f1, [0x3c1]), (0x3f5, [0x3b5]), (0x432, [0x1c80]), (0x434, [0x1c81]),
    (0x43e, [0x1c82]), (0x441, [0x1c83]), (0x442, [0x1c84, 0x1c85]), (0x44a, [0x1c86]),
    (0x463, [0x1c87]), (0x1c80, [0x432]), (0x1c81, [0x434]), (0x1c82, [0x43e]),
    (0x1c83, [0x441]), (0x1c84, [0x442, 0x1c85]), (0x1c85, [0x442, 0x1c84]), (0x1c86, [0x44a]),
    (0x1c87, [0x463]), (0x1c88, [0xa64b]), (0x1e61, [0x1e9b]), (0x1e9b, [0x1e61]),
    (0x1fbe, [0x345, 0x3b9]), (0x1fd3, [0x390]), (0x1fe3, [0x3b0]), (0xa64b, [0x1c88]),
    (0xfb05, [0xfb06]), (0xfb06, [0xfb05])]

/-- The partners of a letter in lower case; ASCII folding knows none. -/
def Fold.partnersOf (f : Fold) (n : Nat) : List Nat :=
  match f with
  | .unicode => (partners.lookup n).getD []
  | _ => []

/-- The lower case of a code point, as one code point. -/
def lowerCode (n : Nat) : Nat := Text.moveCase Text.lowerRuns n

/-- The upper case of a code point, or the first code point of a longer form. -/
def upperCode (n : Nat) : Nat :=
  match Text.longUpper.lookup n with
  | some (u :: _) => u
  | _ => Text.moveCase Text.upperRuns n

/-- The code point in lower case, as far as the folding goes. -/
def Fold.lower : Fold → Nat → Nat
  | .none, n => n
  | .ascii, n => if 0x41 ≤ n ∧ n ≤ 0x5a then n + 32 else n
  | .unicode, n => lowerCode n

/-- Whether case matters for the code point. -/
def Fold.isCased : Fold → Nat → Bool
  | .none, _ => false
  | .ascii, n => decide (0x41 ≤ n ∧ n ≤ 0x5a ∨ 0x61 ≤ n ∧ n ≤ 0x7a)
  | .unicode, n => lowerCode n != n || upperCode n != n

/-- Whether a run of a case map has a member between two code points. -/
def runMeets (r : Text.CaseRun) (lo hi : Nat) : Bool :=
  let first := if lo ≤ r.first then r.first
    else r.first + (lo - r.first + r.step - 1) / r.step * r.step
  decide (first ≤ r.last ∧ first ≤ hi)

/-- Whether case matters for any code point of a range. -/
def Fold.isCasedRange (f : Fold) (lo hi : Nat) : Bool :=
  match f with
  | .none => false
  | .ascii => decide (lo ≤ 0x5a ∧ 0x41 ≤ hi ∨ lo ≤ 0x7a ∧ 0x61 ≤ hi)
  | .unicode =>
    Text.lowerRuns.any (runMeets · lo hi) || Text.upperRuns.any (runMeets · lo hi) ||
      Text.longUpper.any fun u => decide (lo ≤ u.1 ∧ u.1 ≤ hi)

/-- The code points whose lower case is `n`. -/
def lowerSources (n : Nat) : List Nat :=
  let moved := Text.lowerRuns.filterMap fun r =>
    let source : Int := n - r.shift
    if (r.first : Int) ≤ source ∧ source ≤ r.last ∧ (source.toNat - r.first) % r.step = 0 then
      some source.toNat
    else none
  if lowerCode n = n then n :: moved else moved

/-- The code points that fold to `n`. -/
def Fold.sources : Fold → Nat → List Nat
  | .none, n => [n]
  | .ascii, n =>
    if 0x61 ≤ n ∧ n ≤ 0x7a then [n, n - 32] else if 0x41 ≤ n ∧ n ≤ 0x5a then [] else [n]
  | .unicode, n => lowerSources n

/-- Whether some code point of a range folds to `n` or to a partner of it. -/
def Fold.rangeReaches (f : Fold) (lo hi n : Nat) : Bool :=
  let within (m : Nat) : Bool := (f.sources m).any fun s => decide (lo ≤ s ∧ s ≤ hi)
  within n ||
    (f == .unicode && partners.any fun p => p.2.contains n && within p.1)

/-- A class of characters. -/
inductive CharClass where
  | digit
  | space
  | word
deriving DecidableEq, Repr

/-- Whether a code point belongs to a class; `ascii` keeps to ASCII. -/
def CharClass.holds (k : CharClass) (ascii : Bool) (n : Nat) : Bool :=
  if ascii && decide (128 ≤ n) then false
  else
    let c := Char.ofNat n
    match k with
    | .digit => Text.isDecimal c
    | .space => Text.isBlank c && !(ascii && decide (28 ≤ n ∧ n ≤ 31))
    | .word => Text.isWordChar c

/-- A member of a set. -/
inductive SetItem where
  | single (n : Nat)
  | range (lo hi : Nat)
  | ofClass (k : CharClass) (negated : Bool)
deriving DecidableEq, Repr

/-- The first code point beyond the part of the code space that sets keep folded. -/
def foldedLimit : Nat := 0x10000

/-- Whether case matters for a member of a set. -/
def SetItem.isCased (f : Fold) : SetItem → Bool
  | single n => f != .none && (decide (foldedLimit ≤ f.lower n) || f.isCased n)
  | range lo hi => f != .none && (decide (foldedLimit ≤ hi) || f.isCasedRange lo hi)
  | ofClass _ _ => false

/-- Whether a folded code point belongs to a member of a set without regard to case. Beyond the
folded part, literals stand for themselves and ranges also hold what is in them in upper case. -/
def SetItem.reaches (f : Fold) (ascii : Bool) (n : Nat) : SetItem → Bool
  | single m =>
    let low := f.lower m
    if foldedLimit ≤ low then n == m else n == low || (f.partnersOf low).contains n
  | range lo hi =>
    f.rangeReaches lo (min hi (foldedLimit - 1)) n ||
      (decide (foldedLimit ≤ hi) &&
        (decide (lo ≤ n ∧ n ≤ hi) || decide (lo ≤ upperCode n ∧ upperCode n ≤ hi)))
  | ofClass k negated => k.holds ascii n != negated

/-- Whether a code point belongs to a member of a set. -/
def SetItem.holds (ascii : Bool) (n : Nat) : SetItem → Bool
  | single m => n == m
  | range lo hi => decide (lo ≤ n ∧ n ≤ hi)
  | ofClass k negated => k.holds ascii n != negated

/-- A test of one character. It folds only where case matters. -/
inductive CharTest where
  /-- Any character; a line break only if `breaks`. -/
  | any (breaks : Bool)
  | literal (n : Nat) (negated : Bool) (fold : Fold)
  | set (negated : Bool) (items : List SetItem) (fold : Fold) (ascii : Bool)
deriving DecidableEq, Repr

namespace CharTest

/-- The test for a literal. -/
def ofLiteral (fold : Fold) (n : Nat) (negated : Bool) : CharTest :=
  literal n negated (if fold.isCased n then fold else .none)

/-- The test for a set. -/
def ofSet (fold : Fold) (ascii negated : Bool) (items : List SetItem) : CharTest :=
  set negated items (if items.any (SetItem.isCased fold) then fold else .none) ascii

/-- Whether a code point is a literal when both are folded. -/
def literalIs (m : Nat) (fold : Fold) (n : Nat) : Bool :=
  let low := fold.lower m
  fold.lower n == low || (fold.partnersOf low).contains (fold.lower n)

def accepts (t : CharTest) (c : Char) : Bool :=
  let n := c.toNat
  match t with
  | any breaks => breaks || c != '\n'
  | literal m negated fold => literalIs m fold n != negated
  | set negated items .none ascii => items.any (SetItem.holds ascii n) != negated
  | set negated items fold ascii =>
    items.any (SetItem.reaches fold ascii (fold.lower n)) != negated

/-- The character that the test demands, if there is but one. -/
def sole? : CharTest → Option Nat
  | literal n false .none => some n
  | _ => none

/-- Whether the test compares with several folded characters. -/
def isFoldedSet : CharTest → Bool
  | any _ => false
  | literal n _ fold => !(fold.partnersOf (fold.lower n)).isEmpty
  | set _ _ fold _ => fold != .none

end CharTest

end DynamicForm.Pattern

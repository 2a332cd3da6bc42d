import DynamicForm.Pattern.Track

/-!
# Matching texts

Matching tries the ways of a part in order of preference; what follows is a continuation, so a way
is given up when nothing that follows succeeds. A part that is repeated once and for all goes on
from where its last attempt left the reading head, even if that attempt failed.

- `Compiled.fullMatch` matches a whole text, `Compiled.matchesStart` a beginning of one.
- `Node.run` is structural in the compiled pattern; only the optional rounds of a loop are counted,
  by the characters that are left.
-/

namespace DynamicForm.Pattern

/-! ## Places and characters -/

def isLineBreak (text : Array Char) (i : Nat) : Bool := text[i]? == some '\n'

/-- Whether a word character stands at a position. -/
def isWordAt (ascii : Bool) (text : Array Char) (i : Nat) : Bool :=
  match text[i]? with
  | some c => CharClass.word.holds ascii c.toNat
  | none => false

/-- Whether a position is such a place. -/
def Place.holds (text : Array Char) (i : Nat) : Place → Bool
  | textStart => i == 0
  | lineStart => i == 0 || isLineBreak text (i - 1)
  | textEnd => i == text.size
  | lastLineEnd => i == text.size || i + 1 == text.size && isLineBreak text i
  | lineEnd => i == text.size || isLineBreak text i
  | boundary negated ascii =>
    if text.isEmpty then false
    else
      let before := 0 < i && isWordAt ascii text (i - 1)
      (before != isWordAt ascii text i) != negated

/-- Whether a test accepts the character at a position. -/
def CharTest.acceptsAt (t : CharTest) (text : Array Char) (i : Nat) : Bool :=
  match text[i]? with
  | some c => t.accepts c
  | none => false

/-- Whether a part with this lead can begin at a position. -/
def Lead.admits (text : Array Char) (i : Nat) : Lead → Bool
  | char t => t.acceptsAt text i
  | unknown => true

/-- Whether a part with this lead can begin at a position, for leads that are one character. -/
def Lead.admitsExact (text : Array Char) (i : Nat) : Lead → Bool
  | char t => t.sole?.isNone || t.acceptsAt text i
  | unknown => true

/-- How many characters in a row a test accepts from a position on, at most `limit`. -/
def CharTest.count (t : CharTest) (text : Array Char) : Nat → Nat → Nat
  | 0, _ => 0
  | limit + 1, i => if t.acceptsAt text i then t.count text limit (i + 1) + 1 else 0

/-- Whether two stretches of a text are the same when folded. -/
def sameStretch (fold : Fold) (text : Array Char) (a b : Nat) : Nat → Bool
  | 0 => true
  | n + 1 =>
    (match text[a]?, text[b]? with
      | some c, some d => fold.lower c.toNat == fold.lower d.toNat
      | _, _ => false) && sameStretch fold text (a + 1) (b + 1) n

/-! ## Repetition of one character -/

/-- Tries what follows a row of characters, the longest row first. `extra` characters of the row,
which begins at the position, are optional. -/
def longestFirst (inLoop : Bool) (text : Array Char) (next : Lead) (k : Rest) (position : Nat) :
    Nat → Track → Outcome
  | extra, t =>
    let i := position + extra
    let tried : Outcome :=
      if next.admitsExact text i then
        match k { t with head := i } i with
        | .matched r => .matched r
        | .failed u => .failed { u with marks := Marks.giveUp inLoop t.marks u.marks }
      else .failed t
    match extra, tried with
    | _, .matched r => .matched r
    | 0, .failed u => .failed u
    | n + 1, .failed u => longestFirst inLoop text next k position n u

/-- Tries what follows, then one more character, and so on. `room` characters are left in the text,
and `most` more are allowed. -/
def shortestFirst (inLoop : Bool) (text : Array Char) (test : CharTest) (k : Rest) :
    Nat → Option Nat → Track → Nat → Outcome
  | room, most, t, i =>
    match k { t with head := i } i with
    | .matched r => .matched r
    | .failed u =>
      let u := { head := i, marks := Marks.giveUp inLoop t.marks u.marks }
      match room with
      | 0 => .failed u
      | n + 1 =>
        if test.acceptsAt text i then
          let u := if test.isFoldedSet then { u with head := i + 1 } else u
          if most = some 0 then .failed u
          else shortestFirst inLoop text test k n (most.map (· - 1)) u (i + 1)
        else .failed u

/-- The track after `n` characters in a row have been accepted from a position on. Only tests with
several folded characters move the head. -/
def afterRow (test : CharTest) (t : Track) (position n : Nat) : Track :=
  { t with head := if test.isFoldedSet then position + n else position }

/-- Matches a row of characters. -/
def runOne (inLoop : Bool) (text : Array Char) (mode : LoopMode) (least : Nat) (most : Option Nat)
    (test : CharTest) (next : Lead) : Step := fun t position k =>
  if text.size < position + least then .failed t
  else
    let room := text.size - position
    let count (limit : Nat) : Nat := test.count text limit position
    match mode with
    | .greedy =>
      let n := count (min room (most.getD room))
      let t := afterRow test t position n
      if n < least then .failed t
      else longestFirst inLoop text next k (position + least) (n - least) t
    | .lazy =>
      let n := count least
      let t := afterRow test t position n
      if n < least then .failed t
      else
        shortestFirst inLoop text test k (room - least) (most.map (· - least)) t (position + least)
    | .possessive =>
      let n := count (min room (most.getD room))
      let t := afterRow test t position n
      if n < least then .failed t else k t (position + n)

/-! ## Repetition of parts -/

/-- Matches a body a fixed number of times. -/
def rounds (body : Step) : Nat → Step
  | 0, t, i, k => k t i
  | n + 1, t, i, k =>
    (body { t with head := i } i fun t j => rounds body n t j k).orBackTo i

/-- Matches a body up to `most` times more, as often as possible first. A round that begins where
the last one began is not tried. The budget counts positions. -/
def moreRounds (body : Step) : Nat → Option Nat → Option Nat → Step
  | 0, _, _, t, i, k => k t i
  | budget + 1, most, last, t, i, k =>
    let t := { t with head := i }
    if most = some 0 ∨ last = some i then (k t i).orBackTo i
    else
      match body t i fun t j => moreRounds body budget (most.map (· - 1)) (some i) t j k with
      | .matched r => .matched r
      | .failed _ => (k t i).orBackTo i

/-- Matches a body up to `most` times more, as rarely as possible first. -/
def fewRounds (inLoop : Bool) (body : Step) : Nat → Option Nat → Option Nat → Step
  | 0, _, _, t, i, k => k t i
  | budget + 1, most, last, t, i, k =>
    match k { t with head := i } i with
    | .matched r => .matched r
    | .failed u =>
      let u := { head := i, marks := Marks.giveUp inLoop t.marks u.marks }
      if most = some 0 ∨ last = some i then .failed u
      else
        (body u i fun t j =>
          fewRounds inLoop body budget (most.map (· - 1)) (some i) t j k).orBackTo i

/-- Matches a body a fixed number of times, each once and for all, from where the head is. -/
def firmRounds (body : Step) : Nat → Track → Outcome
  | 0, t => .matched t
  | n + 1, t =>
    match body t t.head arrive with
    | .matched u => firmRounds body n u
    | .failed u => .failed u

/-- Matches a body as often as it will, each time once and for all. The head stays where the last
attempt left it. -/
def moreFirmRounds (body : Step) : Nat → Option Nat → Option Nat → Track → Track
  | 0, _, _, t => t
  | budget + 1, most, last, t =>
    if most = some 0 ∨ last = some t.head then t
    else
      match body t t.head arrive with
      | .matched u => moreFirmRounds body budget (most.map (· - 1)) (some t.head) u
      | .failed u => { u with marks := t.marks }

/-! ## Patterns -/

/-- Matches a compiled pattern from a position, and what follows after it. -/
def Node.run (text : Array Char) : Bool → Node → Step
  | _, .empty, t, i, k => k t i
  | _, .one test, t, i, k => if test.acceptsAt text i then k t (i + 1) else .failed t
  | _, .place p, t, i, k => if p.holds text i then k t i else .failed t
  | inLoop, .seq a b, t, i, k => a.run text inLoop t i fun t j => b.run text inLoop t j k
  | _, .never, t, _, _ => .failed t
  | inLoop, .branch lead a others, t, i, k =>
    if lead.admits text i then
      match a.run text inLoop { t with head := i } i k with
      | .matched r => .matched r
      | .failed u =>
        others.run text inLoop { u with marks := Marks.giveUp inLoop t.marks u.marks } i k
    else others.run text inLoop t i k
  | inLoop, .loop mode least most body, t, i, k =>
    let budget := text.size + 2
    let extra := most.map (· - least)
    match mode with
    | .greedy =>
      let step : Step := fun t i k => body.run text true t i k
      rounds step least t i fun t i => moreRounds step budget extra none t i k
    | .lazy =>
      let step : Step := fun t i k => body.run text true t i k
      rounds step least t i fun t i => fewRounds inLoop step budget extra none t i k
    | .possessive =>
      let step : Step := fun t i k => body.run text inLoop t i k
      match firmRounds step least { t with head := i } with
      | .failed u => .failed { u with head := i }
      | .matched u =>
        let u := moreFirmRounds step budget extra none u
        k u u.head
  | inLoop, .loopOne mode least most test next, t, i, k =>
    runOne inLoop text mode least most test next t i k
  | inLoop, .group number body, t, i, k =>
    body.run text inLoop { t with marks := t.marks.set (Marks.startOf number) i } i fun t j =>
      k { t with marks := t.marks.set (Marks.endOf number) j } j
  | inLoop, .atomic body, t, i, k =>
    match body.run text inLoop { t with head := i } i arrive with
    | .matched u => k u u.head
    | .failed u => .failed { u with head := i }
  | inLoop, .look negated back body, t, i, k =>
    if i < back then (if negated then k t i else .failed t)
    else
      match body.run text inLoop { t with head := i - back } (i - back) arrive, negated with
      | .matched u, false => k u i
      | .failed u, true => k { u with marks := Marks.giveUp inLoop t.marks u.marks } i
      | .matched u, true => .failed u
      | .failed u, false => .failed u
  | _, .same number fold, t, i, k =>
    match t.marks.span? number with
    | some (a, b) =>
      if sameStretch fold text a i (b - a) then k t (i + (b - a)) else .failed t
    | none => .failed t
  | inLoop, .ifGroup number yes no, t, i, k =>
    if (t.marks.span? number).isSome then yes.run text inLoop t i k
    else no.run text inLoop t i k

/-- Whether the pattern matches a beginning of the text. A group must not end before it begins. -/
def Compiled.matchesStart (c : Compiled) (text : String) : Except Fault Bool :=
  let chars := text.toList.toArray
  if chars.size < c.least then .ok false
  else
    match c.node.run chars false {} 0 arrive with
    | .matched t => if t.marks.isReversed then .error .groupReversed else .ok true
    | .failed _ => .ok false

/-- Whether the pattern matches the whole text. A group must not end before it begins. -/
def Compiled.fullMatch (c : Compiled) (text : String) : Except Fault Bool :=
  let chars := text.toList.toArray
  if chars.size < c.least then .ok false
  else
    match c.node.run chars false {} 0 fun t i =>
        if i = chars.size then .matched { t with head := i } else .failed t with
    | .matched t => if t.marks.isReversed then .error .groupReversed else .ok true
    | .failed _ => .ok false

end DynamicForm.Pattern

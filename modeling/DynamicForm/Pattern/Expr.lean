import DynamicForm.Pattern.Letter

/-!
# Patterns as written

The parts of a pattern with the flags that apply to them still open.

- `Expr.width` gives the least and the greatest number of characters that a part can match.
- `Expr.ofAlternatives` joins alternatives: what they begin with alike is said once, and
  alternatives of single characters become a set.
-/

namespace DynamicForm.Pattern

/-- Switches inside a pattern. -/
structure Flags where
  ignoreCase : Bool := false
  multiline : Bool := false
  dotAll : Bool := false
  verbose : Bool := false
  ascii : Bool := false
  unicode : Bool := false
  /-- Refuses repetition. -/
  template : Bool := false
deriving DecidableEq, Repr

namespace Flags

/-- Switches that are on in either. -/
def union (a b : Flags) : Flags where
  ignoreCase := a.ignoreCase || b.ignoreCase
  multiline := a.multiline || b.multiline
  dotAll := a.dotAll || b.dotAll
  verbose := a.verbose || b.verbose
  ascii := a.ascii || b.ascii
  unicode := a.unicode || b.unicode
  template := a.template || b.template

/-- Switches that are on in both. -/
def inter (a b : Flags) : Flags where
  ignoreCase := a.ignoreCase && b.ignoreCase
  multiline := a.multiline && b.multiline
  dotAll := a.dotAll && b.dotAll
  verbose := a.verbose && b.verbose
  ascii := a.ascii && b.ascii
  unicode := a.unicode && b.unicode
  template := a.template && b.template

/-- The switches of `a` that are not on in `b`. -/
def minus (a b : Flags) : Flags where
  ignoreCase := a.ignoreCase && !b.ignoreCase
  multiline := a.multiline && !b.multiline
  dotAll := a.dotAll && !b.dotAll
  verbose := a.verbose && !b.verbose
  ascii := a.ascii && !b.ascii
  unicode := a.unicode && !b.unicode
  template := a.template && !b.template

/-- Switches some on and some off; choosing an alphabet drops the other one. -/
def adjust (a on off : Flags) : Flags :=
  let base := if on.ascii || on.unicode then { a with ascii := false, unicode := false } else a
  (base.union on).minus off

/-- How characters are folded under these switches. -/
def fold (a : Flags) : Fold :=
  if a.ignoreCase then (if a.ascii then .ascii else .unicode) else .none

end Flags

/-- A place in the text. -/
inductive Anchor where
  /-- The start of the text, or of a line when lines count. -/
  | start
  /-- The end of the text, perhaps before a last line break, or of a line when lines count. -/
  | finish
  | textStart
  | textEnd
  | boundary (negated : Bool)
deriving DecidableEq, Repr

/-- How often and in which order a repetition is tried. -/
inductive LoopMode where
  /-- As often as possible first. -/
  | greedy
  /-- As rarely as possible first. -/
  | lazy
  /-- As often as possible, once and for all. -/
  | possessive
deriving DecidableEq, Repr

/-- A part of a pattern. -/
inductive Expr where
  | empty
  | literal (n : Nat) (negated : Bool)
  | any
  | set (negated : Bool) (items : List SetItem)
  | anchor (a : Anchor)
  | seq (a b : Expr)
  /-- One of some alternatives; `never` stands at the end of them. -/
  | alt (a others : Expr)
  | never
  | loop (mode : LoopMode) (least : Nat) (most : Option Nat) (body : Expr)
  /-- A group, with its number if it is remembered, and the switches it changes. -/
  | group (number : Option Nat) (on off : Flags) (body : Expr)
  | atomic (body : Expr)
  /-- What follows, or precedes, has to match or not to match. -/
  | look (behind negated : Bool) (body : Expr)
  /-- The text of an earlier group again. -/
  | same (number : Nat)
  /-- One of two parts, depending on whether a group has matched. -/
  | ifGroup (number : Nat) (yes no : Expr)

namespace Expr

def isAnchor : Expr → Bool
  | anchor _ => true
  | _ => false

def isLoop : Expr → Bool
  | loop _ _ _ _ => true
  | _ => false

/-- A width that stands for any greater one. -/
def widthLimit : Nat := Nat.pow 2 64

/-- The least and greatest width, given those of the groups. -/
def width (groups : List (Nat × Nat × Nat)) : Expr → Nat × Nat
  | empty => (0, 0)
  | literal _ _ => (1, 1)
  | any => (1, 1)
  | set _ _ => (1, 1)
  | anchor _ => (0, 0)
  | seq a b => add (a.width groups) (b.width groups)
  | alt a others => hull (a.width groups) (others.width groups)
  | never => (widthLimit, 0)
  | loop _ least most body =>
    let (low, high) := body.width groups
    clamp (low * least, match most with
      | some n => high * n
      | none => if high = 0 then 0 else widthLimit)
  | group _ _ _ body => body.width groups
  | atomic body => body.width groups
  | look _ _ _ => (0, 0)
  | same number => (groups.lookup number).getD (0, 0)
  | ifGroup _ yes no => hull (yes.width groups) (no.width groups)
where
  clamp (w : Nat × Nat) : Nat × Nat := (min w.1 widthLimit, min w.2 widthLimit)
  add (v w : Nat × Nat) : Nat × Nat := clamp (v.1 + w.1, v.2 + w.2)
  hull (v w : Nat × Nat) : Nat × Nat := (min v.1 w.1, max v.2 w.2)

/-- Parts in sequence. -/
def ofParts : List Expr → Expr
  | [] => empty
  | [e] => e
  | e :: rest => seq e (ofParts rest)

/-- The parts that stand in sequence. Groups that neither remember nor switch are taken apart. -/
def parts : Expr → List Expr
  | empty => []
  | seq a b => a.parts ++ b.parts
  | group none on off body => if on = {} ∧ off = {} then body.parts else [group none on off body]
  | e => [e]

/-- How much a pattern consists of, as far as repetition minds. -/
inductive Extent where
  | nothing
  /-- One test of a character. -/
  | single
  | other
deriving DecidableEq, Repr

def extent : Expr → Extent
  | empty => .nothing
  | literal _ _ => .single
  | any => .single
  | set _ _ => .single
  | seq a b =>
    match a.extent, b.extent with
    | .nothing, x => x
    | x, .nothing => x
    | _, _ => .other
  | group none on off body =>
    if on = {} ∧ off = {} then body.extent
    else if body.extent = .single then .single
    else .other
  | _ => .other

/-! ## Alternatives -/

/-- Whether two parts are the same; parts that hold others never are. -/
def isSame : Expr → Expr → Bool
  | literal m s, literal n t => m == n && s == t
  | any, any => true
  | set s as, set t bs => s == t && as == bs
  | anchor a, anchor b => a == b
  | same m, same n => m == n
  | _, _ => false

/-- Splits off what all alternatives begin with, given the first and the others. -/
def splitCommon : List Expr → List (List Expr) → List Expr × List (List Expr)
  | [], others => ([], [] :: others)
  | e :: rest, others =>
    if others.all fun other => (other.head?.map (isSame e)).getD false then
      let (common, left) := splitCommon rest (others.map List.tail)
      (e :: common, left)
    else ([], (e :: rest) :: others)

/-- What an alternative adds to a set, if it is a single character or a set. -/
def setItems? : List Expr → Option (List SetItem)
  | [literal n false] => some [.single n]
  | [set false items] => some items
  | _ => none

/-- One of some alternatives. -/
def ofAlternatives : List (List Expr) → Expr
  | [] => empty
  | [e] => ofParts e
  | e :: others =>
    let (common, left) := splitCommon e others
    let rest :=
      match left.mapM setItems? with
      | some items => set false items.flatten.eraseDups
      | none => left.foldr (fun e others => alt (ofParts e) others) never
    ofParts (common ++ [rest])

end Expr

end DynamicForm.Pattern

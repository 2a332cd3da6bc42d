import DynamicForm.Pattern.Reader

/-!
# Compiled patterns

A pattern that has been read is compiled: the switches are worked into the tests of characters and
places, parts that look behind are checked to have a fixed width, and alternatives and repetitions
learn with which character they, or what follows, have to begin.

- `Pattern.compile` reads and compiles a pattern.
-/

namespace DynamicForm.Pattern

/-- A place in the text, as compiled. -/
inductive Place where
  | textStart
  | lineStart
  | textEnd
  /-- The end, or before a line break that ends the text. -/
  | lastLineEnd
  | lineEnd
  | boundary (negated ascii : Bool)
deriving DecidableEq, Repr

/-- What a part is known to begin with. -/
inductive Lead where
  /-- This character, or one that this test accepts without folding. -/
  | char (t : CharTest)
  | unknown
deriving DecidableEq, Repr

/-- A compiled pattern. -/
inductive Node where
  | empty
  | one (t : CharTest)
  | place (p : Place)
  | seq (a b : Node)
  | never
  /-- An alternative with its lead, and the others. -/
  | branch (lead : Lead) (a others : Node)
  | loop (mode : LoopMode) (least : Nat) (most : Option Nat) (body : Node)
  /-- Repeats the test of a character; with it comes the lead of what follows. -/
  | loopOne (mode : LoopMode) (least : Nat) (most : Option Nat) (t : CharTest) (next : Lead)
  | group (number : Nat) (body : Node)
  | atomic (body : Node)
  /-- Looks from so many characters back. -/
  | look (negated : Bool) (back : Nat) (body : Node)
  | same (number : Nat) (fold : Fold)
  | ifGroup (number : Nat) (yes no : Node)
deriving DecidableEq, Repr

/-- What a part begins with, given the lead of what follows it. -/
def Node.lead : Node → Lead → Lead
  | .empty, next => next
  | .one t, _ =>
    match t with
    | .literal _ false .none => .char t
    | .set _ _ .none _ => .char t
    | _ => .unknown
  | .seq a b, next => a.lead (b.lead next)
  | _, _ => .unknown

/-- The test that a part consists of. -/
def Node.test? : Node → Option CharTest
  | .one t => some t
  | .seq a b => a.test? <|> b.test?
  | _ => none

/-- The place of an anchor under some switches. -/
def Anchor.place (flags : Flags) : Anchor → Place
  | start => if flags.multiline then .lineStart else .textStart
  | finish => if flags.multiline then .lineEnd else .lastLineEnd
  | textStart => .textStart
  | textEnd => .textEnd
  | boundary negated => .boundary negated flags.ascii

/-- Works switches into a pattern, given the lead of what follows; nothing when it cannot be
compiled. -/
def Expr.compile (widths : List (Nat × Nat × Nat)) : Flags → Lead → Expr → Option Node
  | _, _, .empty => some .empty
  | flags, _, .literal n negated => some (.one (.ofLiteral flags.fold n negated))
  | flags, _, .any => some (.one (.any flags.dotAll))
  | flags, _, .set negated items => some (.one (.ofSet flags.fold flags.ascii negated items))
  | flags, _, .anchor a => some (.place (a.place flags))
  | flags, next, .seq a b => do
    let b ← b.compile widths flags next
    return .seq (← a.compile widths flags (b.lead next)) b
  | flags, _, .alt a others => do
    let a ← a.compile widths flags .unknown
    return .branch (a.lead .unknown) a (← others.compile widths flags .unknown)
  | _, _, .never => some .never
  | flags, next, .loop mode least most body =>
    if flags.template then none
    else do
      let node ← body.compile widths flags .unknown
      if body.extent = .single then
        return .loopOne mode least most (← node.test?) next
      else return .loop mode least most node
  | flags, next, .group none on off body => body.compile widths (flags.adjust on off) next
  | flags, _, .group (some n) on off body => do
    return .group n (← body.compile widths (flags.adjust on off) .unknown)
  | flags, _, .atomic body => do return .atomic (← body.compile widths flags .unknown)
  | flags, _, .look behind negated body => do
    let (low, high) := body.width widths
    if behind ∧ (low ≠ high ∨ Nat.pow 2 32 ≤ low) then none
    return .look negated (if behind then low else 0) (← body.compile widths flags .unknown)
  | flags, _, .same number => some (.same number flags.fold)
  | flags, next, .ifGroup number yes no => do
    let yes ← yes.compile widths flags (if no.extent = .nothing then next else .unknown)
    return .ifGroup number yes (← no.compile widths flags next)

/-- A compiled pattern, and a length below which no text matches. -/
structure Compiled where
  node : Node
  least : Nat
deriving DecidableEq, Repr

/-- Compiles a pattern. -/
def compile (source : String) : Except Refusal Compiled :=
  match readExpr source with
  | .error r => .error r
  | .ok (e, s) =>
    match e.compile s.widths s.flags .unknown with
    | some n => .ok ⟨n, (e.width s.widths).1⟩
    | none => .error .malformed

end DynamicForm.Pattern

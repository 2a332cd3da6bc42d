import DynamicForm.Fault
import DynamicForm.Number.Literal
import DynamicForm.Pattern.Expr
import DynamicForm.Text.Identifier
import DynamicForm.Text.Name.Lookup

/-!
# Reading patterns

A pattern is cut into characters and escapes first; then parts are read one after the other, with
the groups seen so far in the state. A pattern that cannot be read is malformed; a few mistakes are
faults instead.

- `Pattern.readExpr` reads a whole pattern, with the switches set at its start and the widths of
  its groups.
-/

namespace DynamicForm.Pattern

/-- Why a pattern cannot be used. -/
inductive Refusal where
  | malformed
  | fault (f : Fault)
deriving DecidableEq, Repr

/-- A character of a pattern, or a backslash with the character after it. -/
inductive Token where
  | plain (c : Char)
  | escaped (c : Char)
  /-- A backslash at the very end. -/
  | dangling
deriving DecidableEq, Repr

def tokens : List Char → List Token
  | [] => []
  | ['\\'] => [.dangling]
  | '\\' :: c :: rest => .escaped c :: tokens rest
  | c :: rest => .plain c :: tokens rest

/-- The characters of a token. -/
def Token.chars : Token → List Char
  | plain c => [c]
  | escaped c => ['\\', c]
  | dangling => ['\\']

/-- How far reading has come. -/
structure Cursor where
  rest : List Token
  /-- The number of the next group. -/
  nextGroup : Nat := 1
  /-- How many groups are open. -/
  depth : Nat := 0
  names : List (String × Nat) := []
  /-- The widths of the groups that have been closed. -/
  widths : List (Nat × Nat × Nat) := []
  /-- Inside a look behind, the number of the first group that belongs to it. -/
  behindLimit : Option Nat := none
  /-- Groups that some part depends on, perhaps before they are opened. -/
  references : List Nat := []
  /-- Switches for the whole pattern. -/
  flags : Flags := {}

/-- A reading step. -/
abbrev Scan := StateT Cursor (Except Refusal)

namespace Scan

def malformed : Scan α := throw .malformed

/-- Goes on to the given tokens; a dangling backslash is noticed as soon as it comes next. -/
def goTo (rest : List Token) : Scan Unit :=
  match rest with
  | .dangling :: _ => malformed
  | _ => modify fun s => { s with rest := rest }

def peek : Scan (Option Token) := do return (← get).rest.head?

/-- The next token, which is used up. -/
def take : Scan (Option Token) := do
  match (← get).rest with
  | [] => return none
  | t :: rest =>
    goTo rest
    return some t

/-- Uses up the next token if it is this character. -/
def accept (c : Char) : Scan Bool := do
  match (← get).rest with
  | .plain d :: rest =>
    if c = d then
      goTo rest
      return true
    else return false
  | _ => return false

/-- Uses up this character, which has to come next. -/
def demand (c : Char) : Scan Unit := do
  if ← accept c then return () else malformed

/-- Uses up at most `n` characters that satisfy `p`. -/
def takeUpTo (p : Char → Bool) : Nat → Scan (List Char)
  | 0 => return []
  | n + 1 => do
    match (← get).rest with
    | .plain c :: rest =>
      if p c then
        goTo rest
        return c :: (← takeUpTo p n)
      else return []
    | _ => return []

/-- Cuts tokens at the first plain `stop`. -/
def cutAt (stop : Char) : List Token → Option (List Char × List Token)
  | [] => none
  | t :: rest =>
    if t = .plain stop then some ([], rest)
    else (cutAt stop rest).map fun (cs, after) => (t.chars ++ cs, after)

/-- Uses up a name and the character that ends it; the name cannot be empty. -/
def takeName (stop : Char) : Scan (List Char) := do
  match cutAt stop (← get).rest with
  | some (name, rest) =>
    if name.isEmpty then malformed
    else
      goTo rest
      return name
  | none => malformed

def isHexDigit (c : Char) : Bool :=
  Text.isAsciiDigit c || decide ('a' ≤ c ∧ c ≤ 'f') || decide ('A' ≤ c ∧ c ≤ 'F')

def isOctalDigit (c : Char) : Bool := decide ('0' ≤ c ∧ c ≤ '7')

/-- The value of a digit in any base up to sixteen. -/
def digitValue (c : Char) : Nat :=
  if Text.isAsciiDigit c then c.toNat - '0'.toNat
  else if 'a' ≤ c then c.toNat - 'a'.toNat + 10
  else c.toNat - 'A'.toNat + 10

/-- The number that digits spell in a base. -/
def valueIn (base : Nat) (cs : List Char) : Nat :=
  cs.foldl (fun n c => base * n + digitValue c) 0

/-- A number of exactly `n` hexadecimal digits. -/
def hex (n : Nat) : Scan Nat := do
  let digits ← takeUpTo isHexDigit n
  if digits.length = n then return valueIn 16 digits else malformed

/-- A code point of eight hexadecimal digits. -/
def longCode : Scan Nat := do
  let n ← hex 8
  if Nat.pow 2 31 ≤ n then throw (.fault .codeTooLarge)
  else if 0x110000 ≤ n then malformed
  else return n

/-! ## Escapes -/

/-- Control characters with an escape of their own. -/
def controlEscape? : Char → Option Nat
  | 'a' => some 7
  | 'f' => some 12
  | 'n' => some 10
  | 'r' => some 13
  | 't' => some 9
  | 'v' => some 11
  | '\\' => some 92
  | _ => none

/-- Classes of characters with an escape of their own. -/
def classEscape? : Char → Option SetItem
  | 'd' => some (.ofClass .digit false)
  | 'D' => some (.ofClass .digit true)
  | 's' => some (.ofClass .space false)
  | 'S' => some (.ofClass .space true)
  | 'w' => some (.ofClass .word false)
  | 'W' => some (.ofClass .word true)
  | _ => none

/-- Places with an escape of their own. -/
def anchorEscape? : Char → Option Anchor
  | 'A' => some .textStart
  | 'Z' => some .textEnd
  | 'b' => some (.boundary false)
  | 'B' => some (.boundary true)
  | _ => none

/-- The character with the name that stands in braces. -/
def namedCode : Scan Nat := do
  demand '\x7b'
  match Text.namedCode? (← takeName '\x7d') with
  | some n => return n
  | none => malformed

/-- An escape that stands for a code point in any place: by number, by name, or a mark for itself.
Letters and digits without a meaning are refused. -/
def codeEscape (c : Char) : Scan Nat := do
  if c = 'x' then hex 2
  else if c = 'u' then hex 4
  else if c = 'U' then longCode
  else if c = 'N' then namedCode
  else if Text.isAsciiLetter c || Text.isAsciiDigit c then malformed
  else return c.toNat

/-- An octal number of up to three digits, which names one of the first 256 characters. -/
def octal (first : Char) (more : List Char) : Scan Nat := do
  let n := valueIn 8 (first :: more)
  if 0o377 < n then malformed else return n

/-- An escape inside a set. -/
def setEscape (c : Char) : Scan SetItem := do
  if c = 'b' then return .single 8
  match controlEscape? c, classEscape? c with
  | some n, _ => return .single n
  | none, some item => return item
  | none, none =>
    if isOctalDigit c then return .single (← octal c (← takeUpTo isOctalDigit 2))
    else return .single (← codeEscape c)

/-- Refuses a reference, from inside a look behind, to a group that is open or belongs to it. -/
def checkBehind (number : Nat) : Scan Unit := do
  let s ← get
  match s.behindLimit with
  | none => return ()
  | some limit =>
    if (s.widths.lookup number).isNone || limit ≤ number then malformed else return ()

/-- A reference to a group that has to be closed. -/
def reference (number : Nat) : Scan Expr := do
  if ((← get).widths.lookup number).isNone then malformed
  checkBehind number
  return .same number

/-- An escape that begins with a digit other than zero: an octal number of three digits, or a
reference of up to two. -/
def digitEscape (c : Char) : Scan Expr := do
  match ← peek with
  | some (.plain d) =>
    if Text.isAsciiDigit d then
      discard take
      match isOctalDigit c && isOctalDigit d, ← peek with
      | true, some (.plain e) =>
        if isOctalDigit e then
          discard take
          return .literal (← octal c [d, e]) false
        else reference (valueIn 10 [c, d])
      | _, _ => reference (valueIn 10 [c, d])
    else reference (valueIn 10 [c])
  | _ => reference (valueIn 10 [c])

/-- An escape outside sets. -/
def escape (c : Char) : Scan Expr := do
  match anchorEscape? c, classEscape? c, controlEscape? c with
  | some a, _, _ => return .anchor a
  | none, some item, _ => return .set false [item]
  | none, none, some n => return .literal n false
  | none, none, none =>
    if c = '0' then return .literal (valueIn 8 (← takeUpTo isOctalDigit 2)) false
    else if Text.isAsciiDigit c then digitEscape c
    else return .literal (← codeEscape c) false

/-! ## Sets -/

/-- The item that a token stands for. -/
def setItem : Token → Scan SetItem
  | .plain c => return .single c.toNat
  | .escaped c => setEscape c
  | .dangling => malformed

/-- The members of a set up to its closing bracket; a bracket that comes first is a member. -/
def setItems : Nat → List SetItem → Scan (List SetItem)
  | 0, _ => malformed
  | fuel + 1, done => do
    match ← take with
    | none => malformed
    | some t =>
      if t = .plain ']' ∧ ¬ done.isEmpty then return done.reverse
      let low ← setItem t
      if ← accept '-' then
        match ← take with
        | none => malformed
        | some (.plain ']') => return (.single '-'.toNat :: low :: done).reverse
        | some u =>
          match low, ← setItem u with
          | .single lo, .single hi =>
            if hi < lo then malformed else setItems fuel (.range lo hi :: done)
          | _, _ => malformed
      else setItems fuel (low :: done)

/-- A set after its opening bracket. -/
def set : Scan Expr := do
  let negated ← accept '^'
  let items ← setItems ((← get).rest.length + 1) []
  match items.eraseDups with
  | [.single n] => return .literal n negated
  | items => return .set negated items

/-! ## Repetition -/

/-- The first count that is too large. -/
def repeatLimit : Nat := Nat.pow 2 32 - 1

/-- A count, if there are digits. -/
def count (digits : List Char) : Scan (Option Nat) := do
  if digits.isEmpty then return none
  let n := valueIn 10 digits
  if repeatLimit ≤ n then throw (.fault .repetitionTooLarge) else return some n

/-- The bounds after an opening brace; nothing when the brace stands for itself. -/
def bounds : Scan (Option (Nat × Option Nat)) := do
  let here := (← get).rest
  if here.head? = some (.plain '\x7d') then return none
  let low ← takeUpTo Text.isAsciiDigit here.length
  let high ←
    if ← accept ',' then do
      let digits ← takeUpTo Text.isAsciiDigit here.length
      pure digits
    else pure low
  if ← accept '\x7d' then
    let least ← count low
    let most ← count high
    match most with
    | some m => if m < least.getD 0 then malformed else return some (least.getD 0, most)
    | none => return some (least.getD 0, none)
  else
    goTo here
    return none

/-- The mode that a character after a repetition asks for. -/
def loopMode : Scan LoopMode := do
  if ← accept '?' then return .lazy
  if ← accept '+' then return .possessive
  return .greedy

/-- Repeats the last part. -/
def repeatLast (parts : List Expr) (least : Nat) (most : Option Nat) : Scan (List Expr) := do
  match parts with
  | [] => malformed
  | last :: before =>
    if last.isAnchor || last.isLoop then malformed
    let mode ← loopMode
    return .loop mode least most last :: before

/-! ## Switches -/

/-- The switch of a letter. -/
def flag? : Char → Option Flags
  | 'i' => some { ignoreCase := true }
  | 'm' => some { multiline := true }
  | 's' => some { dotAll := true }
  | 'x' => some { verbose := true }
  | 'a' => some { ascii := true }
  | 'u' => some { unicode := true }
  | 't' => some { template := true }
  | _ => none

/-- Switches that go on, from a letter to the character that ends them. -/
def switchesOn : Nat → Char → Flags → Scan (Flags × Char)
  | 0, _, _ => malformed
  | fuel + 1, c, on => do
    match flag? c with
    | none => malformed
    | some f =>
      let on := on.union f
      if on.ascii && on.unicode then malformed
      match ← take with
      | some (.plain d) =>
        if d = ')' || d = '-' || d = ':' then return (on, d) else switchesOn fuel d on
      | _ => malformed

/-- Switches that go off, up to the colon. -/
def switchesOff : Nat → Flags → Scan Flags
  | 0, _ => malformed
  | fuel + 1, off => do
    match ← take with
    | some (.plain c) =>
      match flag? c with
      | none => malformed
      | some f =>
        if f.ascii || f.unicode then malformed
        let off := off.union f
        if ← accept ':' then return off else switchesOff fuel off
    | _ => malformed

/-- What a group of switches says. -/
inductive Switches where
  /-- Switches for the whole pattern. -/
  | whole (on : Flags)
  /-- Switches for the group that follows. -/
  | inside (on off : Flags)

/-- Switches, from their first character. -/
def switches (c : Char) : Scan Switches := do
  let fuel := (← get).rest.length + 1
  let (on, stop) ← if c = '-' then pure ({}, '-') else switchesOn fuel c {}
  if stop = ')' then return .whole on
  if on.template then malformed
  if stop = '-' then
    let off ← switchesOff fuel {}
    if off.template || on.inter off != {} then malformed
    return .inside on off
  else return .inside on {}

/-! ## Groups -/

/-- Opens a group and gives its number; a name can be given only once. -/
def openGroup (name : Option (List Char)) : Scan Nat := do
  let s ← get
  let names ← match name with
    | none => pure s.names
    | some cs =>
      let n := String.ofList cs
      if (s.names.lookup n).isSome then malformed else pure ((n, s.nextGroup) :: s.names)
  StateT.set { s with nextGroup := s.nextGroup + 1, names := names }
  return s.nextGroup

def closeGroup (number : Nat) (body : Expr) : Scan Unit :=
  modify fun s => { s with widths := (number, body.width s.widths) :: s.widths }

/-- A name that is an identifier. -/
def takeIdentifier (stop : Char) : Scan (List Char) := do
  let name ← takeName stop
  if Text.isIdentifier name then return name else malformed

def groupNamed (name : List Char) : Scan Nat := do
  match (← get).names.lookup (String.ofList name) with
  | some n => return n
  | none => malformed

/-- The number that a text spells, with blanks around it and underscores between its digits. -/
def spelledNumber? (cs : List Char) : Option Nat := do
  let (negative, body) := Literal.splitSign ((Literal.dropMargins cs).map Literal.plainChar)
  let digits ← Literal.dropUnderscores .other body
  if negative || digits.isEmpty || !digits.all Text.isAsciiDigit then none
  return Text.asciiNumber digits

/-- The group that a condition depends on, by name or number. -/
def conditionGroup : Scan Nat := do
  let name ← takeName ')'
  if Text.isIdentifier name then groupNamed name
  else
    match spelledNumber? name with
    | none => malformed
    | some 0 => malformed
    | some n =>
      modify fun s => { s with references := n :: s.references }
      return n

/-- The name or reference after `(?P`. The name of a group is given back. -/
def namedGroup : Scan (Expr ⊕ List Char) := do
  if ← accept '<' then return .inr (← takeIdentifier '>')
  else if ← accept '=' then
    let number ← groupNamed (← takeIdentifier ')')
    return .inl (← reference number)
  else malformed

def isSpace (c : Char) : Bool :=
  c = ' ' || c = '\t' || c = '\n' || c = '\r' || c.toNat = 11 || c.toNat = 12

/-- What has to be done after the opening of a group. -/
inductive Opening where
  /-- The group was a part by itself. -/
  | part (e : Expr)
  /-- Nothing that matches: a comment or switches for the whole pattern. -/
  | nothing
  | capture (name : Option (List Char))
  | plain (on off : Flags)
  | atomic
  | look (behind negated : Bool)
  | condition (group : Nat)

/-- Reads the opening of a group after its bracket. `atStart` says that nothing has been read
yet. -/
def opening (atStart : Bool) : Scan Opening := do
  if ← accept '?' then
    match ← take with
    | some (.plain 'P') =>
      match ← namedGroup with
      | .inl e => return .part e
      | .inr name => return .capture (some name)
    | some (.plain ':') => return .plain {} {}
    | some (.plain '#') =>
      match cutAt ')' (← get).rest with
      | some (_, rest) =>
        goTo rest
        return .nothing
      | none => malformed
    | some (.plain '=') => return .look false false
    | some (.plain '!') => return .look false true
    | some (.plain '<') =>
      if ← accept '=' then return .look true false
      else if ← accept '!' then return .look true true
      else malformed
    | some (.plain '(') =>
      let group ← conditionGroup
      checkBehind group
      return .condition group
    | some (.plain '>') => return .atomic
    | some (.plain c) =>
      if c = '-' || (flag? c).isSome then
        match ← switches c with
        | .whole on =>
          if atStart then
            modify fun s => { s with flags := s.flags.union on }
            return .nothing
          else malformed
        | .inside on off => return .plain on off
      else malformed
    | _ => malformed
  else return .capture none

/-- How many groups may be open at a time. -/
def depthLimit : Nat := 490

/-- Opens a group inside those that are open. -/
def deepen : Scan Unit := do
  let depth := (← get).depth + 1
  if depthLimit < depth then throw (.fault .groupsTooDeep)
  modify fun s => { s with depth := depth }

mutual

/-- Alternatives up to the end of the group or pattern. -/
def alternatives : Nat → Bool → Bool → Bool → Scan (List (List Expr))
  | 0, _, _, _ => malformed
  | fuel + 1, top, first, verbose => do
    let e ← sequence fuel (top && first) verbose []
    if ← accept '|' then
      let s ← get
      let verbose := if top then s.flags.verbose else verbose
      return e :: (← alternatives fuel top false verbose)
    else return [e]

/-- Parts up to the next bar or the end; `first` says that switches for the whole pattern can still
be set. The parts read so far are in reverse. -/
def sequence : Nat → Bool → Bool → List Expr → Scan (List Expr)
  | 0, _, _, _ => malformed
  | fuel + 1, first, verbose, parts => do
    match ← peek with
    | none => return parts.reverse.flatMap Expr.parts
    | some (.plain '|') => return parts.reverse.flatMap Expr.parts
    | some (.plain ')') => return parts.reverse.flatMap Expr.parts
    | some t =>
      discard take
      match t with
      | .dangling => malformed
      | .escaped c => sequence fuel first verbose ((← escape c) :: parts)
      | .plain c =>
        if verbose && isSpace c then sequence fuel first verbose parts
        else if verbose && c = '#' then
          match cutAt '\n' (← get).rest with
          | some (_, rest) => goTo rest
          | none =>
            let rest := (← get).rest
            if rest.contains .dangling then malformed else goTo []
          sequence fuel first verbose parts
        else match c with
          | '[' => sequence fuel first verbose ((← set) :: parts)
          | '.' => sequence fuel first verbose (.any :: parts)
          | '^' => sequence fuel first verbose (.anchor .start :: parts)
          | '$' => sequence fuel first verbose (.anchor .finish :: parts)
          | '?' => sequence fuel first verbose (← repeatLast parts 0 (some 1))
          | '*' => sequence fuel first verbose (← repeatLast parts 0 none)
          | '+' => sequence fuel first verbose (← repeatLast parts 1 none)
          | '\x7b' =>
            match ← bounds with
            | none => sequence fuel first verbose (.literal c.toNat false :: parts)
            | some (least, most) => sequence fuel first verbose (← repeatLast parts least most)
          | '(' =>
            match ← group fuel (first && parts.isEmpty) verbose with
            | some e => sequence fuel first verbose (e :: parts)
            | none =>
              let s ← get
              let verbose := if first && parts.isEmpty then s.flags.verbose else verbose
              sequence fuel first verbose parts
          | _ => sequence fuel first verbose (.literal c.toNat false :: parts)

/-- A group after its opening bracket; nothing for comments and switches. -/
def group : Nat → Bool → Bool → Scan (Option Expr)
  | 0, _, _ => malformed
  | fuel + 1, atStart, verbose => do
    match ← opening atStart with
    | .part e => return some e
    | .nothing => return none
    | kind => do
      deepen
      let e ← groupBody fuel verbose kind
      modify fun s => { s with depth := s.depth - 1 }
      return e

/-- The inside of a group, and its closing bracket. -/
def groupBody : Nat → Bool → Opening → Scan (Option Expr)
  | 0, _, _ => malformed
  | fuel + 1, verbose, kind => do
    match kind with
    | .part e => return some e
    | .nothing => return none
    | .capture name =>
      let number ← openGroup name
      let body ← Expr.ofAlternatives <$> alternatives fuel false true verbose
      demand ')'
      closeGroup number body
      return some (.group (some number) {} {} body)
    | .plain on off =>
      let verbose := (verbose || on.verbose) && !off.verbose
      let body ← Expr.ofAlternatives <$> alternatives fuel false true verbose
      demand ')'
      return some (.group none on off body)
    | .atomic =>
      let body ← Expr.ofAlternatives <$> alternatives fuel false true verbose
      demand ')'
      return some (.atomic body)
    | .look behind negated =>
      let limit := (← get).behindLimit
      if behind && limit.isNone then
        modify fun s => { s with behindLimit := some s.nextGroup }
      let body ← Expr.ofAlternatives <$> alternatives fuel false true verbose
      if behind && limit.isNone then
        modify fun s => { s with behindLimit := none }
      demand ')'
      return some (.look behind negated body)
    | .condition number =>
      let yes ← sequence fuel false verbose []
      if ← accept '|' then
        let no ← sequence fuel false verbose []
        if (← peek) = some (.plain '|') then malformed
        demand ')'
        return some (.ifGroup number (.ofParts yes) (.ofParts no))
      else
        demand ')'
        return some (.ifGroup number (.ofParts yes) .empty)

end

/-- A whole pattern. -/
def whole : Scan Expr := do
  goTo (← get).rest
  let e ← Expr.ofAlternatives <$> alternatives (4 * (← get).rest.length + 4) true true false
  let s ← get
  if s.flags.ascii && s.flags.unicode then throw (.fault .alphabetsConflict)
  if !s.rest.isEmpty then malformed
  if s.references.any (s.nextGroup ≤ ·) then malformed
  return e

end Scan

/-- Reads a pattern; with it come the state at the end, which has its switches and widths. -/
def readExpr (source : String) : Except Refusal (Expr × Cursor) :=
  Scan.whole.run { rest := tokens source.toList }

end DynamicForm.Pattern

import DynamicForm.Number.Literal

/-!
# Tokens of JSON text

The text is cut into tokens, each with the position where it begins. Cutting stops at the first
place where no token begins, and leaves a token there that says so, so that it is the grammar that
decides which complaint is made.

- `Json.cut` finds the token at the head of a text and its size.
- `Json.tokens` cuts a whole text.
-/

namespace DynamicForm.Json

/-- What is wrong inside a string. -/
inductive StringError where
  | unterminated
  | control
  | badEscape
  | badUnicodeEscape
deriving DecidableEq, Repr

/-- A token of JSON text. -/
inductive Token where
  | openRecord
  | closeRecord
  | openList
  | closeList
  | colon
  | comma
  | null
  | bool (b : Bool)
  | int (negative : Bool) (digits : List Char)
  | float (x : Binary64)
  | text (s : String)
  /-- A string that cannot be read, and the position to complain about. -/
  | badText (cause : StringError) (position : Nat)
  /-- A place where no token begins. -/
  | junk
  | finish

def isBlank (c : Char) : Bool := c = ' ' || c = '\t' || c = '\n' || c = '\r'

/-- The value of a hexadecimal digit. -/
def hexValue? (c : Char) : Option Nat :=
  if '0' ≤ c ∧ c ≤ '9' then some (c.toNat - '0'.toNat)
  else if 'a' ≤ c ∧ c ≤ 'f' then some (c.toNat - 'a'.toNat + 10)
  else if 'A' ≤ c ∧ c ≤ 'F' then some (c.toNat - 'A'.toNat + 10)
  else none

/-- The number that four hexadecimal digits spell. -/
def hexFour? (a b c d : Char) : Option Nat := do
  let a ← hexValue? a
  let b ← hexValue? b
  let c ← hexValue? c
  let d ← hexValue? d
  return ((a * 16 + b) * 16 + c) * 16 + d

def isHighSurrogate (n : Nat) : Bool := decide (0xd800 ≤ n ∧ n ≤ 0xdbff)

def isLowSurrogate (n : Nat) : Bool := decide (0xdc00 ≤ n ∧ n ≤ 0xdfff)

/-- The character of two surrogates. -/
def joinSurrogates (high low : Nat) : Char :=
  Char.ofNat (0x10000 + (high - 0xd800) * 0x400 + (low - 0xdc00))

/-- The character of a single code unit; half of a pair has none and becomes the replacement
character. -/
def unitChar (n : Nat) : Char :=
  if 0xd800 ≤ n ∧ n ≤ 0xdfff then Char.ofNat 0xfffd else Char.ofNat n

/-- The character that a short escape stands for. -/
def shortEscape? : Char → Option Char
  | '"' => some '"'
  | '\\' => some '\\'
  | '/' => some '/'
  | 'b' => some (Char.ofNat 8)
  | 'f' => some (Char.ofNat 12)
  | 'n' => some '\n'
  | 'r' => some '\r'
  | 't' => some '\t'
  | _ => none

/-- What the next characters of a string mean. -/
inductive TextStep where
  /-- The closing quote. -/
  | close
  /-- A character, and how many characters spell it. -/
  | char (c : Char) (size : Nat)
  /-- A mistake, and how far ahead it is. -/
  | fault (cause : StringError) (offset : Nat)

/-- An escape with four hexadecimal digits; `rest` follows them. A pair of surrogates is read
together when anything follows the pair. -/
def unicodeStep (high : Nat) : List Char → TextStep
  | '\\' :: 'u' :: e :: f :: g :: h :: _ :: _ =>
    if isHighSurrogate high then
      match hexFour? e f g h with
      | none => .fault .badUnicodeEscape 7
      | some low =>
        if isLowSurrogate low then .char (joinSurrogates high low) 12 else .char (unitChar high) 6
    else .char (unitChar high) 6
  | _ => .char (unitChar high) 6

/-- An escape, after its backslash; nothing when the text ends there. -/
def escapeStep : List Char → Option TextStep
  | [] => none
  | 'u' :: a :: b :: c :: d :: next :: rest =>
    match hexFour? a b c d with
    | none => some (.fault .badUnicodeEscape 1)
    | some high => some (unicodeStep high (next :: rest))
  | 'u' :: _ => some (.fault .badUnicodeEscape 1)
  | c :: _ =>
    match shortEscape? c with
    | some e => some (.char e 2)
    | none => some (.fault .badEscape 0)

/-- Reads a string after its opening quote: the text and the position after the closing quote.
`start` is the position of the opening quote, `skip` counts the characters that still belong to
the escape before, and `done` is what has been read, in reverse. -/
def readText (start : Nat) :
    Nat → Nat → List Char → List Char → Except (StringError × Nat) (String × Nat)
  | _, _, _, [] => .error (.unterminated, start)
  | position, skip + 1, done, _ :: rest => readText start (position + 1) skip done rest
  | position, 0, done, c :: rest =>
    let step :=
      if c = '"' then some .close
      else if c = '\\' then escapeStep rest
      else if c.toNat < 32 then some (.fault .control 0)
      else some (.char c 1)
    match step with
    | none => .error (.unterminated, start)
    | some .close => .ok (String.ofList done.reverse, position + 1)
    | some (.char e size) => readText start (position + 1) (size - 1) (e :: done) rest
    | some (.fault cause offset) => .error (cause, position + offset)

/-- The longest exponent with a digit in it, and what follows. -/
def splitExponent : List Char → List Char × List Char
  | e :: rest =>
    if e = 'e' || e = 'E' then
      match rest with
      | sign :: more =>
        if sign = '+' || sign = '-' then
          let (digits, after) := more.span Text.isAsciiDigit
          if digits.isEmpty then ([], e :: rest) else (e :: sign :: digits, after)
        else
          let (digits, after) := rest.span Text.isAsciiDigit
          if digits.isEmpty then ([], e :: rest) else (e :: digits, after)
      | [] => ([], e :: rest)
    else ([], e :: rest)
  | [] => ([], [])

/-- The longest fraction with a digit in it, and what follows. -/
def splitFraction : List Char → List Char × List Char
  | '.' :: rest =>
    let (digits, after) := rest.span Text.isAsciiDigit
    if digits.isEmpty then ([], '.' :: rest) else ('.' :: digits, after)
  | cs => ([], cs)

/-- The digits before the point: a zero stands alone. -/
def splitWhole : List Char → List Char × List Char
  | '0' :: rest => (['0'], rest)
  | cs => cs.span Text.isAsciiDigit

/-- The number at the head of a text that begins after the sign. -/
def cutNumber (negative : Bool) (cs : List Char) : Option (Token × Nat) :=
  let (whole, afterWhole) := splitWhole cs
  if whole.isEmpty then none
  else
    let (fraction, afterFraction) := splitFraction afterWhole
    let (exponent, _) := splitExponent afterFraction
    let size := whole.length + fraction.length + exponent.length
    if fraction.isEmpty && exponent.isEmpty then some (.int negative whole, size)
    else
      let sign := if negative then ['-'] else []
      (Literal.scan (sign ++ whole ++ fraction ++ exponent)).map fun x => (.float x, size)

/-- The words that are tokens. -/
def words : List (List Char × Token) :=
  [("null".toList, .null), ("true".toList, .bool true), ("false".toList, .bool false),
    ("NaN".toList, .float .nan), ("Infinity".toList, .float (.infinite false)),
    ("-Infinity".toList, .float (.infinite true))]

/-- The word at the head of a text, and its length. -/
def cutWord (cs : List Char) : Option (Token × Nat) :=
  (words.find? fun w => w.1.isPrefixOf cs).map fun w => (w.2, w.1.length)

/-- The token of a bracket or separator. -/
def mark? : Char → Option Token
  | '\x7b' => some .openRecord
  | '\x7d' => some .closeRecord
  | '[' => some .openList
  | ']' => some .closeList
  | ':' => some .colon
  | ',' => some .comma
  | _ => none

/-- The token at the head of a text that begins at `position`, and its size; nothing when no token
begins there. -/
def cut (position : Nat) : List Char → Option (Token × Nat)
  | [] => none
  | c :: rest =>
    match mark? c with
    | some t => some (t, 1)
    | none =>
      if c = '"' then
        match readText position (position + 1) 0 [] rest with
        | .ok (s, after) => some (.text s, after - position)
        | .error (cause, place) => some (.badText cause place, rest.length + 1)
      else
        let number :=
          if c = '-' then (cutNumber true rest).map fun (t, n) => (t, n + 1)
          else cutNumber false (c :: rest)
        number.orElse fun _ => cutWord (c :: rest)

/-- Cuts the rest of a text, which begins at `position`, into tokens; `skip` counts the characters
that still belong to the token before. -/
def tokensFrom : Nat → Nat → List Char → List (Nat × Token)
  | position, _, [] => [(position, .finish)]
  | position, skip + 1, _ :: rest => tokensFrom (position + 1) skip rest
  | position, 0, c :: rest =>
    if isBlank c then tokensFrom (position + 1) 0 rest
    else match cut position (c :: rest) with
      | some (t, size) => (position, t) :: tokensFrom (position + 1) (size - 1) rest
      | none => [(position, .junk)]

/-- The tokens of a text with their positions. -/
def tokens (cs : List Char) : List (Nat × Token) := tokensFrom 0 0 cs

end DynamicForm.Json

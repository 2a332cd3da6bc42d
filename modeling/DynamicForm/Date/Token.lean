import DynamicForm.Text.Blank
import DynamicForm.Text.Digits
import DynamicForm.Text.Letters

/-!
# Tokens of a written date

A written date is cut into words, numbers, blanks and single other characters. Dots hold the parts
of an abbreviation or a number together until the token ends; then a token with more than one dot,
with letters, or with a dot or comma at its end falls apart at its dots and commas. What is left of
a number with one comma has a decimal point.
-/

namespace DynamicForm.Date

/-- A piece of a written date. -/
abbrev Token := List Char

/-- What kind of token is under way. -/
inductive Shape where
  | word
  | number
  /-- Letters last, after a dot. -/
  | dottedWord
  /-- Digits last, after a dot or comma. -/
  | dottedNumber
deriving DecidableEq, Repr

/-- A token under way. -/
structure Partial where
  shape : Shape
  /-- Whether the token is known to have letters. -/
  letters : Bool
  /-- The characters so far, in reverse. -/
  reversed : List Char

/-- The token with one more character, if it belongs to it. -/
def Partial.extend? (p : Partial) (c : Char) : Option Partial :=
  let grown := c :: p.reversed
  let afterDot := p.reversed.head? == some '.'
  match p.shape with
  | .word =>
    if Text.isLetter c then some ⟨.word, true, grown⟩
    else if c = '.' then some ⟨.dottedWord, true, grown⟩
    else none
  | .number =>
    if Text.isDigit c then some ⟨.number, p.letters, grown⟩
    else if c = '.' || c = ',' && 2 ≤ p.reversed.length then some ⟨.dottedNumber, p.letters, grown⟩
    else none
  | .dottedWord =>
    if c = '.' || Text.isLetter c then some ⟨.dottedWord, true, grown⟩
    else if Text.isDigit c && afterDot then some ⟨.dottedNumber, true, grown⟩
    else none
  | .dottedNumber =>
    if c = '.' || Text.isDigit c then some ⟨.dottedNumber, p.letters, grown⟩
    else if Text.isLetter c && afterDot then some ⟨.dottedWord, p.letters, grown⟩
    else none

/-- Cuts at every dot and comma, which stay as pieces of their own. The first argument is the piece
under way, in reverse. -/
def splitAtMarks : List Char → List Char → List Token
  | piece, [] => [piece.reverse]
  | piece, c :: rest =>
    if c = '.' || c = ',' then piece.reverse :: [c] :: splitAtMarks [] rest
    else splitAtMarks (c :: piece) rest

/-- Decimal commas become points in a token without dots. -/
def decimalComma (t : Token) : Token :=
  if t.contains '.' then t else t.map fun c => if c = ',' then '.' else c

/-- The tokens that a token comes to when it ends. `interrupted` says that another character
follows. -/
def Partial.finish (p : Partial) (interrupted : Bool) : List Token :=
  let token := p.reversed.reverse
  let letters := p.letters || p.shape == .dottedWord && interrupted
  let dotted := p.shape == .dottedWord || p.shape == .dottedNumber
  let last := p.reversed.head?
  if dotted && (letters || 1 < token.count '.' || last == some '.' || last == some ',') then
    match splitAtMarks [] token with
    | first :: rest => first :: rest.filter fun t => !t.isEmpty
    | [] => []
  else if p.shape == .dottedNumber then [decimalComma token]
  else [token]

/-- What a character begins: a token that is already complete, or one under way. -/
def start (c : Char) : List Token × Option Partial :=
  if Text.isLetter c then ([], some ⟨.word, false, [c]⟩)
  else if Text.isDigit c then ([], some ⟨.number, false, [c]⟩)
  else if Text.isBlank c then ([[' ']], none)
  else ([[c]], none)

/-- Cuts the rest of a text, with the token under way. -/
def tokensFrom : Option Partial → List Char → List Token
  | none, [] => []
  | some p, [] => p.finish false
  | none, c :: rest =>
    let (done, under) := start c
    done ++ tokensFrom under rest
  | some p, c :: rest =>
    match p.extend? c with
    | some q => tokensFrom (some q) rest
    | none =>
      let (done, under) := start c
      p.finish true ++ done ++ tokensFrom under rest

/-- The tokens of a written date; null characters are passed over. -/
def tokens (cs : List Char) : List Token := tokensFrom none (cs.filter fun c => c.toNat != 0)

end DynamicForm.Date

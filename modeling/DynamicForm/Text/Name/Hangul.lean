/-!
# Names of Hangul syllables

A syllable is named by the short names of its letters: one that begins it, a vowel, and one that
ends it, which may be missing. All combinations exist, and they stand in this order.
-/

namespace DynamicForm.Text.Hangul

/-- Letters that begin a syllable. -/
def leading : List String := [
  "G", "GG", "N", "D", "DD", "R", "M", "B", "BB", "S", "SS", "", "J", "JJ", "C", "K", "T", "P", "H"]

def vowels : List String := [
  "A", "AE", "YA", "YAE", "EO", "E", "YEO", "YE", "O", "WA", "WAE", "OE", "YO", "U", "WEO", "WE",
  "WI", "YU", "EU", "YI", "I"]

/-- Letters that end a syllable. -/
def trailing : List String := [
  "", "G", "GG", "GS", "N", "NJ", "NH", "D", "L", "LG", "LM", "LB", "LS", "LT", "LP", "LH", "M",
  "B", "BS", "S", "SS", "NG", "J", "C", "K", "T", "P", "H"]

/-- The first syllable. -/
def firstSyllable : Nat := 0xac00

/-- The place of the longest short name that `cs` begins with, and what follows it. -/
def longest? (names : List String) (cs : List Char) : Option (Nat × List Char) :=
  names.zipIdx.foldl (fun best (name, i) =>
    match name.toList.isPrefixOf? cs, best with
    | some rest, some (j, shortest) =>
      if rest.length < shortest.length then some (i, rest) else some (j, shortest)
    | some rest, none => some (i, rest)
    | none, _ => best) none

/-- The code point of a syllable. -/
def syllable? (cs : List Char) : Option Nat := do
  let (l, rest) ← longest? leading cs
  let (v, rest) ← longest? vowels rest
  let (t, rest) ← longest? trailing rest
  if rest.isEmpty then some (firstSyllable + (l * vowels.length + v) * trailing.length + t)
  else none

end DynamicForm.Text.Hangul

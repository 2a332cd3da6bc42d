import DynamicForm.Text.Ranges

/-!
# Blank characters

White space as text is trimmed by: the space separators, the characters whose direction is white
space or a separator, and so also the four information separators `U+001C` to `U+001F`.
-/

namespace DynamicForm.Text

def blankRanges : Ranges := [
  (9, 13), (28, 32), (133, 133), (160, 160), (5760, 5760), (8192, 8202),
  (8232, 8233), (8239, 8239), (8287, 8287), (12288, 12288)]

def isBlank (c : Char) : Bool := blankRanges.contains c.toNat

/-- Drops blanks at both ends. -/
def trimChars (cs : List Char) : List Char :=
  ((cs.dropWhile isBlank).reverse.dropWhile isBlank).reverse

def trim (s : String) : String := String.ofList (trimChars s.toList)

/-- Text that holds nothing but blanks. -/
def isBlankText (s : String) : Bool := s.toList.all isBlank

end DynamicForm.Text

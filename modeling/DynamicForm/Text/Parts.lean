/-!
# Parts of a text

A text is cut at characters that pass a test; these characters are dropped.

- `cutAt` cuts once, `parts` everywhere.
-/

namespace DynamicForm.Text

/-- Cuts a text at the first character that passes a test. -/
def cutAt (stop : Char → Bool) : List Char → List Char × Option (List Char)
  | [] => ([], none)
  | c :: rest =>
    if stop c then ([], some rest)
    else
      let (before, after) := cutAt stop rest
      (c :: before, after)

/-- Cuts a text at every character that passes a test. -/
def parts (stop : Char → Bool) : List Char → List (List Char)
  | [] => [[]]
  | c :: rest =>
    if stop c then [] :: parts stop rest
    else match parts stop rest with
      | [] => [[c]]
      | part :: others => (c :: part) :: others

end DynamicForm.Text

import DynamicForm.Text.Case

/-!
# Slugs

A slug is made of lower case ASCII letters and digits in runs, joined by single underscores. A label
is put into lower case, every run of other characters is replaced by one underscore, and those at
both ends are dropped.
-/

namespace DynamicForm

namespace Slug

/-- The characters of a slug's runs. -/
def isSlugChar (c : Char) : Bool :=
  decide ('a' ≤ c ∧ c ≤ 'z') || decide ('0' ≤ c ∧ c ≤ '9')

/-- Every run of other characters becomes one underscore. The first argument tells whether such a
run is under way. -/
def collapse : Bool → List Char → List Char
  | _, [] => []
  | within, c :: rest =>
    if isSlugChar c then c :: collapse false rest
    else if within then collapse true rest
    else '_' :: collapse true rest

/-- Drops underscores at both ends. -/
def strip (cs : List Char) : List Char :=
  ((cs.dropWhile (· == '_')).reverse.dropWhile (· == '_')).reverse

end Slug

/-- The slug of a label. -/
def slug (label : String) : String :=
  String.ofList (Slug.strip (Slug.collapse false (Text.lowerChars label.toList)))

end DynamicForm

import DynamicForm.Number.Binary64

/-!
# Values

Answers, default values and comparison values are JSON values. Integers are unbounded and kept
apart from binary64 numbers, and a record keeps its entries in order.

- `Value.same` is equality of contents: a boolean counts as one or zero, an integer and a binary64
  number are compared exactly, and records are compared without regard to order.
- `Record` operations keep each key once, at the place where it first appeared.
-/

namespace DynamicForm

/-- A JSON value. -/
inductive Value where
  | null
  | bool (b : Bool)
  | int (n : Int)
  | float (x : Binary64)
  | text (s : String)
  | list (items : List Value)
  | record (entries : List (String × Value))
deriving Repr, Inhabited

/-- Entries of a record in order. -/
abbrev Record := List (String × Value)

namespace Record

/-- The value under a key. -/
def get? (r : Record) (key : String) : Option Value := r.lookup key

/-- Replaces the value under a key where it stands, or appends a new entry. -/
def insert (r : Record) (key : String) (v : Value) : Record :=
  match r with
  | [] => [(key, v)]
  | (k, old) :: rest => if k = key then (k, v) :: rest else (k, old) :: insert rest key v

/-- The record of a list of pairs; the last value given to a key wins. -/
def ofPairs (pairs : List (String × Value)) : Record :=
  pairs.foldl (fun r p => insert r p.1 p.2) []

def keys (r : Record) : List String := r.map (·.1)

def contains (r : Record) (key : String) : Bool := (r.get? key).isSome

@[simp] theorem get?_nil (key : String) : get? [] key = none := rfl

theorem get?_cons (k key : String) (v : Value) (r : Record) :
    get? ((k, v) :: r) key = if key = k then some v else get? r key := by
  by_cases h : key = k
  · simp [get?, h]
  · simp [get?, List.lookup_cons, h, beq_eq_false_iff_ne.mpr h]

/-- **Insertion.** The inserted key reads back, every other key is as before. -/
theorem get?_insert (r : Record) (k key : String) (v : Value) :
    get? (insert r k v) key = if key = k then some v else get? r key := by
  induction r with
  | nil => simp [insert, get?_cons]
  | cons e rest ih =>
    obtain ⟨k', old⟩ := e
    unfold insert
    split
    · next h => subst h; simp only [get?_cons]; split <;> simp_all
    · next h =>
      simp only [get?_cons, ih]
      split
      · next h' => subst h'; simp [h]
      · rfl

theorem get?_append (r s : Record) (key : String) :
    get? (r ++ s) key = (r.get? key).or (s.get? key) := by
  induction r with
  | nil => rfl
  | cons e rest ih =>
    rw [List.cons_append, get?_cons, get?_cons, ih]
    split <;> rfl

theorem mem_keys_of_get? {r : Record} {key : String} {v : Value} (h : r.get? key = some v) :
    key ∈ r.keys := by
  obtain ⟨before, after, heq, -⟩ := List.lookup_eq_some_iff.mp h
  simp [keys, heq]

theorem get?_of_not_mem_keys {r : Record} {key : String} (h : key ∉ r.keys) :
    r.get? key = none := by
  cases hv : r.get? key with
  | none => rfl
  | some v => exact absurd (mem_keys_of_get? hv) h

end Record

namespace Value

/-- A boolean as the integer it counts as; other values are unchanged. -/
def unbool : Value → Value
  | bool b => .int (if b then 1 else 0)
  | v => v

/-- Equality of values that are neither lists nor records. -/
def sameScalar : Value → Value → Bool
  | null, null => true
  | int a, int b => decide (a = b)
  | int a, float y => y.sameInt a
  | float x, int b => x.sameInt b
  | float x, float y => x.same y
  | text s, text t => decide (s = t)
  | _, _ => false

mutual

/-- Equality of contents. -/
def same : Value → Value → Bool
  | list xs, list ys => sameItems xs ys
  | record xs, record ys => xs.length == ys.length && sameEntries xs ys
  | a, b => sameScalar a.unbool b.unbool

/-- Equality of lists, position by position. -/
def sameItems : List Value → List Value → Bool
  | [], [] => true
  | x :: xs, y :: ys => same x y && sameItems xs ys
  | _, _ => false

/-- Whether every entry has a counterpart of equal contents under the same key. -/
def sameEntries : List (String × Value) → List (String × Value) → Bool
  | [], _ => true
  | (k, v) :: rest, ys =>
    (match ys.lookup k with
      | some w => same v w
      | none => false) && sameEntries rest ys

end

/-- Null or the empty text. -/
def isEmpty : Value → Bool
  | null => true
  | text s => decide (s = "")
  | _ => false

/-- Whether the value counts as true: not null, false, zero, or empty. -/
def isTruthy : Value → Bool
  | null => false
  | bool b => b
  | int n => decide (n ≠ 0)
  | float x => !x.sameInt 0
  | text s => decide (s ≠ "")
  | list xs => !xs.isEmpty
  | record es => !es.isEmpty

def isNull : Value → Bool
  | null => true
  | _ => false

/-! ## Parts -/

/-- The entries of a record; other values have none. -/
def entries : Value → Record
  | record es => es
  | _ => []

/-- The members of a list; other values have none. -/
def members : Value → List Value
  | list items => items
  | _ => []

/-- The value under a key, null when there is none. -/
def get (v : Value) (key : String) : Value := (v.entries.get? key).getD .null

/-- The text, empty for other values. -/
def asText : Value → String
  | text s => s
  | _ => ""

/-- The text, if the value is one. -/
def text? : Value → Option String
  | text s => some s
  | _ => none

mutual

/-- Changes every value inside a value, and then the value itself. -/
def rewrite (f : Value → Value) : Value → Value
  | list items => f (list (rewriteItems f items))
  | record es => f (record (rewriteEntries f es))
  | v => f v

/-- Changes the members of a list. -/
def rewriteItems (f : Value → Value) : List Value → List Value
  | [] => []
  | v :: rest => rewrite f v :: rewriteItems f rest

/-- Changes the values of the entries of a record. -/
def rewriteEntries (f : Value → Value) : List (String × Value) → List (String × Value)
  | [] => []
  | (k, v) :: rest => (k, rewrite f v) :: rewriteEntries f rest

end

end Value

end DynamicForm

import DynamicForm.Number.Binary64

/-!
# The shortest decimal text of a binary64 number

Of all decimals that round to the number, the ones with the fewest digits are considered, and of
those the nearest to the number is written.

- `Binary64.shortest` finds digits and exponent by testing, for one digit, two digits and so on,
  the two neighbours of the number on that decimal grid.
- `Layout` says how digits and exponent become text, `Binary64.text` uses the layout of answers.
-/

namespace DynamicForm

namespace Binary64

/-- Decimal digits: the value is `digits · 10 ^ exponent`. -/
structure Decimal where
  digits : Nat
  exponent : Int
deriving DecidableEq, Repr

/-- The powers of ten by which everything is scaled so that all grid points are integers. -/
def gridScale : Nat := Nat.pow 10 400

/-- How many decimal digits the integer has. -/
def decimalLength (n : Nat) : Nat := (toString n).length

/-- The magnitude `e` of a positive count of units: the value is below `10 ^ e` and not below
`10 ^ (e - 1)`. -/
def magnitude (units : Nat) : Int :=
  (decimalLength (units * gridScale / unitsPerOne) : Int) - 400

/-- The decimals that round to a count of units, as bounds in quarter units. -/
structure Interval where
  low : Nat
  high : Nat
  /-- The bounds themselves round to the number when its significand is even. -/
  closed : Bool

def Interval.around (units : Nat) : Interval :=
  let step := spacing units
  let below := if units = Nat.pow 2 units.log2 ∧ 1 < step then step else 2 * step
  { low := 4 * units - below, high := 4 * units + 2 * step, closed := units / step % 2 == 0 }

/-- Whether the decimal `digits · 10 ^ exponent` lies in the interval. -/
def Interval.holds (i : Interval) (digits : Nat) (exponent : Int) : Bool :=
  let point := digits * Nat.pow 10 (exponent + 400).toNat * (4 * unitsPerOne)
  let low := i.low * gridScale
  let high := i.high * gridScale
  if i.closed then decide (low ≤ point ∧ point ≤ high) else decide (low < point ∧ point < high)

/-- The point nearest to the number among its two neighbours on the grid of `10 ^ exponent`, if
one of them lies in the interval. -/
def onGrid? (units : Nat) (i : Interval) (exponent : Int) : Option Nat :=
  let cell := Nat.pow 10 (exponent + 400).toNat * unitsPerOne
  let value := units * gridScale
  let floor := value / cell
  let rest := value % cell
  match i.holds floor exponent, i.holds (floor + 1) exponent with
  | true, true =>
    some (if 2 * rest < cell then floor else if cell < 2 * rest then floor + 1
      else floor + floor % 2)
  | true, false => some floor
  | false, true => some (floor + 1)
  | false, false => none

/-- Searches the grids of `count`, `count + 1`, … digits. -/
def searchGrids (units : Nat) (i : Interval) (e : Int) : Nat → Nat → Decimal
  | count, tries + 1 =>
    match onGrid? units i (e - count) with
    | some digits => ⟨digits, e - count⟩
    | none => searchGrids units i e (count + 1) tries
  | count, 0 => ⟨units * gridScale / (Nat.pow 10 (e - count + 400).toNat * unitsPerOne), e - count⟩

/-- The shortest decimal of a positive count of units; seventeen digits always suffice. -/
def shortest (units : Nat) : Decimal :=
  searchGrids units (Interval.around units) (magnitude units) 1 17

/-- How digits and exponent become text. -/
structure Layout where
  /-- The least exponent of the leading digit that is written positionally. -/
  least : Int
  /-- The first exponent of the leading digit that is not. -/
  limit : Int
  /-- The least number of digits in a written exponent. -/
  exponentDigits : Nat

/-- Numbers from `1e-04` to below `1e+16` are positional, and an exponent has two digits or
more. -/
def answerLayout : Layout := ⟨-4, 16, 2⟩

/-- `n` zeros. -/
def zeros (n : Nat) : String := String.ofList (List.replicate n '0')

/-- The text of positive digits with their exponent. -/
def Layout.write (l : Layout) (d : Decimal) : String :=
  let digits := (toString d.digits).toList
  let kept := (digits.reverse.dropWhile (· == '0')).reverse
  let lead := d.exponent + digits.length - 1
  if l.least ≤ lead ∧ lead < l.limit then
    if lead < 0 then "0." ++ zeros (-lead - 1).toNat ++ String.ofList kept
    else
      let n := lead.toNat + 1
      let whole := String.ofList (kept.take n) ++ zeros (n - kept.length)
      let rest := kept.drop n
      whole ++ "." ++ (if rest.isEmpty then "0" else String.ofList rest)
  else
    let mantissa := match kept with
      | [] => "0"
      | [c] => String.ofList [c]
      | c :: rest => String.ofList (c :: '.' :: rest)
    let size := toString lead.natAbs
    mantissa ++ (if lead < 0 then "e-" else "e+") ++ zeros (l.exponentDigits - size.length) ++ size

/-- The shortest text that reads back as the number. -/
def text : Binary64 → String
  | nan => "nan"
  | infinite negative => if negative then "-inf" else "inf"
  | finite negative units =>
    (if negative then "-" else "") ++
      (if units = 0 then "0.0" else answerLayout.write (shortest units))

end Binary64

end DynamicForm

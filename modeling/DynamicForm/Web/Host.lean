import DynamicForm.Web.Domain

/-!
# Hosts

The host of an address is a name or a number. What looks like four numbers has to be an address of
four bytes, and what stands in brackets an address of eight groups. Other hosts are names: one in
ASCII may be anything, since what may not stand there is escaped; any other has to be a domain name.

- `Host.kind` says which of them a text is, `Host.plain` checks it and gives it its plain form.
-/

namespace DynamicForm

namespace Host

inductive Kind where
  | fourBytes
  | eightGroups
  | plainName
  | domain
deriving DecidableEq, Repr

/-! ## Addresses of numbers -/

/-- The places in four runs of digits, each pair of them parted by one character, that a further
character leads to. The even places stand before a run, the odd ones inside it. -/
def nextPlaces (places : List Nat) (c : Char) : List Nat :=
  (places.flatMap fun place =>
    let inside := if Text.isAsciiDigit c then [place / 2 * 2 + 1] else []
    let beyond := if place % 2 = 1 ∧ place < 7 then [place + 1] else []
    inside ++ beyond).eraseDups

/-- Whether a text looks like four numbers. -/
def isFourNumbers (cs : List Char) : Bool := (cs.foldl nextPlaces [0]).contains 7

/-- A byte in decimal, without zeros in front. -/
def isByte (cs : List Char) : Bool :=
  !cs.isEmpty && cs.all Text.isAsciiDigit && cs.length ≤ 3 &&
    (cs.length == 1 || cs.head? != some '0') && Text.asciiNumber cs ≤ 255

/-- Four bytes with dots between them. -/
def isFourBytes (cs : List Char) : Bool :=
  let bytes := Text.parts (· == '.') cs
  bytes.length == 4 && bytes.all isByte

/-- A group: up to four hexadecimal digits. -/
def isGroup (cs : List Char) : Bool :=
  !cs.isEmpty && cs.length ≤ 4 && cs.all fun c => (Text.hexValue? c).isSome

/-- Four bytes at the end stand for two groups. -/
def groupEnd (groups : List (List Char)) : Option (List (List Char)) :=
  match groups.getLast? with
  | some last =>
    if !last.contains '.' then some groups
    else if isFourBytes last then some (groups.dropLast ++ [['0'], ['0']])
    else none
  | none => some groups

/-- Groups of which a run may be left out. Between two colons a run is left out; an empty group at
an end is only there beside such a run. -/
def areGroups (groups : List (List Char)) : Bool :=
  match (groups.drop 1).dropLast.filter List.isEmpty with
  | [] => groups.length == 8 && groups.all isGroup
  | [_] =>
    let before := groups.takeWhile (!·.isEmpty)
    let before := if before.isEmpty then groups.take 1 else before
    let after := groups.drop (before.length + 1)
    let isSide (side : List (List Char)) : Bool := side == [[]] || side.all isGroup
    let count := ((before ++ after).filter (!·.isEmpty)).length
    isSide before && isSide after && count ≤ 7
  | _ => false

/-- Eight groups with colons between them. A percent sign leads to the name of a scope. -/
def isEightGroups (cs : List Char) : Bool :=
  let address := cs.takeWhile (· != '%')
  let scope := cs.drop (address.length + 1)
  let isScoped := address.length < cs.length
  let groups := Text.parts (· == ':') address
  !(isScoped && (scope.isEmpty || scope.contains '%')) && 3 ≤ groups.length &&
    (groupEnd groups).any areGroups

/-! ## Plain form -/

/-- What a host is, by its looks. -/
def kind (cs : List Char) : Kind :=
  if isFourNumbers cs then .fourBytes
  else if cs.head? = some '[' ∧ cs.getLast? = some ']' then .eightGroups
  else if cs.all fun c => c.toNat < 0x80 then .plainName
  else .domain

/-- A host in its plain form, or what it fails to be. Names in ASCII are put into lower case; what
may not stand in them is left to be escaped. -/
def plain (cs : List Char) : Except Kind (List Char) :=
  match kind cs with
  | .fourBytes => if isFourBytes cs then .ok cs else .error .fourBytes
  | .eightGroups =>
    if isEightGroups (cs.drop 1).dropLast then .ok cs else .error .eightGroups
  | .plainName => .ok (cs.map Char.toLower)
  | .domain =>
    match Domain.toAscii? cs with
    | some name => .ok name
    | none => .error .domain

end Host

end DynamicForm

import DynamicForm.Date.Members
import DynamicForm.Fault
import DynamicForm.Value

/-!
# Reading written dates

A written date is read token by token: numbers with their separators and units, names of months and
weekdays, marks of the half day and time zones. Parts that are not written are those of today.

- `Date.read` reads a text; `Date.ofValue?` reads an answer.
- The time of day and the zone are checked but do not move the date.
-/

namespace DynamicForm.Date

/-- What has been read so far. -/
structure Reading where
  members : Members := {}
  weekday : Option Nat := none
  hour : Option Nat := none
  minute : Option Nat := none
  second : Option Nat := none
  micro : Option Nat := none
  /-- Zero before noon, one after. -/
  halfDay : Option Nat := none
  zone : Option Token := none
  /-- Seconds ahead of universal time. -/
  offset : Option Int := none
  /-- The next sign counts the other way, because a zone name stands before it. -/
  flipped : Bool := false

/-- A reading, and how many of the following tokens it has used up. -/
abbrev Step := Except Failure (Reading × Nat)

/-- What is missing makes the text unreadable. -/
def orUnreadable : Option α → Except Failure α
  | some a => .ok a
  | none => .error .unreadable

namespace Reading

def withMembers (r : Reading) (m : Option Members) (used : Nat) : Step :=
  (orUnreadable m).map fun m => ({ r with members := m }, used)

/-- The hour on a clock of twelve. -/
def onHalfDay (hour half : Nat) : Nat :=
  if hour < 12 ∧ half = 1 then hour + 12 else if hour = 12 ∧ half = 0 then 0 else hour

/-- Seconds with their fraction. -/
def withSeconds (r : Reading) (a : Amount) : Reading :=
  { r with second := some a.whole, micro := some a.millionths }

/-- Minutes; a fraction counts as seconds. -/
def withMinutes (r : Reading) (a : Amount) : Except Failure Reading :=
  a.sixtieths?.map fun s => { r with minute := some a.whole, second := s }

/-- An amount with its unit: hours, minutes or seconds. -/
def withUnit (r : Reading) (a : Amount) : Nat → Except Failure Reading
  | 0 => a.sixtieths?.map fun m => { r with hour := some a.whole, minute := m <|> r.minute }
  | 1 => r.withMinutes a
  | 2 => .ok (r.withSeconds a)
  | _ => .ok r

/-- The unit of a number, and how many following tokens name it: after the number, after the number
and a blank, or before it, where it names the next larger unit. -/
def unitAround (behind rest : List Token) : Option (Nat × Nat) :=
  let after := rest.head?.bind unit?
  let afterBlank := if rest.head? = some [' '] then rest[1]?.bind unit? else none
  let before := behind.head?.bind unit?
  let beforeBlank :=
    if rest.isEmpty ∧ behind.head? = some [' '] then behind[1]?.bind unit? else none
  (after.map fun u => (u, 1)) <|> (afterBlank.map fun u => (u, 2)) <|>
    (before.map fun u => (u + 1, 0)) <|> (beforeBlank.map fun u => (u + 1, 0))

/-- Whether a number of two or four digits after a complete date is a time: neither a colon nor a
unit follows. -/
def isTimeAfterDate (r : Reading) (t : Token) (rest : List Token) : Bool :=
  r.members.size == 3 && (t.length == 2 || t.length == 4) && r.hour.isNone &&
    match rest with
    | [] => true
    | next :: _ => next != [':'] && (unit? next).isNone

/-- Two digits of the hour, and two of the minute if there are four. -/
def compactTime (r : Reading) (t : Token) : Step := do
  let hour ← orUnreadable (number? (t.take 2))
  if t.length = 4 then
    let minute ← orUnreadable (number? (t.drop 2))
    return ({ r with hour := some hour, minute := some minute }, 0)
  else return ({ r with hour := some hour }, 0)

/-- Six digits: a date if there is none yet, otherwise a time with a possible fraction. -/
def sixDigits (r : Reading) (t : Token) : Step :=
  if r.members.size = 0 ∧ ¬ t.contains '.' then
    r.withMembers (do
      let m ← r.members.pushToken (t.take 2) none
      let m ← m.pushToken ((t.drop 2).take 2) none
      m.pushToken (t.drop 4) none) 0
  else do
    let hour ← orUnreadable (number? (t.take 2))
    let minute ← orUnreadable (number? ((t.drop 2).take 2))
    let seconds ← orUnreadable (if t[4]? = some '.' then none else amount? (t.drop 4))
    return ({ r with hour := some hour, minute := some minute }.withSeconds seconds, 0)

/-- Eight digits of a date, with up to six digits of a time. -/
def compactDate (r : Reading) (t : Token) : Step := do
  let m ← orUnreadable (r.members.pushToken (t.take 4) (some .year))
  let m ← orUnreadable (m.pushToken ((t.drop 4).take 2) none)
  let m ← orUnreadable (m.pushToken ((t.drop 6).take 2) none)
  let r := { r with members := m }
  if 8 < t.length then
    let hour ← orUnreadable (number? ((t.drop 8).take 2))
    let minute ← orUnreadable (number? ((t.drop 10).take 2))
    let r := { r with hour := some hour, minute := some minute }
    if 12 < t.length then
      let second ← orUnreadable (number? (t.drop 12))
      return ({ r with second := some second }, 0)
    else return (r, 0)
  else return (r, 0)

/-- Hours, a colon, minutes, and seconds after another colon. -/
def clockTime (r : Reading) (a : Amount) (minutes : Token) (rest : List Token) : Step := do
  let m ← orUnreadable (amount? minutes)
  let r ← { r with hour := some a.whole }.withMinutes m
  match rest with
  | [':'] :: seconds :: _ =>
    let s ← orUnreadable (amount? seconds)
    return (r.withSeconds s, 4)
  | _ => return (r, 2)

/-- A number, a separator, and up to two more members with the same separator. -/
def separatedDate (r : Reading) (t sep : Token) (rest : List Token) : Step :=
  match rest with
  | [] => r.withMembers (r.members.pushToken t none) 1
  | second :: more =>
    if isFiller second then r.withMembers (r.members.pushToken t none) 1
    else do
      let m ← orUnreadable (r.members.pushToken t none)
      let m ← orUnreadable <|
        if second.all Text.isDigit then m.pushToken second none
        else (month? second).bind fun n => m.push n (some .month)
      match more with
      | next :: others =>
        if next = sep then
          let third ← orUnreadable others.head?
          match month? third with
          | some n => r.withMembers (m.push n (some .month)) 4
          | none => r.withMembers (m.pushToken third none) 4
        else return ({ r with members := m }, 2)
      | [] => return ({ r with members := m }, 2)

/-- A number on its own: the hour of a half day, or the next member of the date. -/
def loneNumber (r : Reading) (a : Amount) (rest : List Token) : Step :=
  match rest[1]?.bind halfDay? with
  | some half => .ok ({ r with hour := some (onHalfDay a.whole half) }, 2)
  | none => r.withMembers (r.members.pushAmount a) 1

/-- Whether the token ends a date's member: one of the three separators. -/
def isSeparator (t : Token) : Bool := t == ['-'] || t == ['/'] || t == ['.']

/-- Reads a number. -/
def number (r : Reading) (a : Amount) (t : Token) (behind rest : List Token) : Step :=
  let next := rest.head?
  if r.isTimeAfterDate t rest then r.compactTime t
  else if t.length = 6 ∨ 6 < t.length ∧ t.idxOf '.' = 6 then r.sixDigits t
  else if t.length = 8 ∨ t.length = 12 ∨ t.length = 14 then r.compactDate t
  else match unitAround behind rest with
    | some (unit, used) => (r.withUnit a unit).map fun r => (r, used)
    | none =>
      match rest with
      | [':'] :: minutes :: more => r.clockTime a minutes more
      | _ =>
        match next with
        | none => r.loneNumber a rest
        | some sep =>
          if isSeparator sep then r.separatedDate t sep (rest.drop 1)
          else if isFiller sep then r.loneNumber a rest
          else match halfDay? sep with
            | some half =>
              if a.whole < 24 then .ok ({ r with hour := some (onHalfDay a.whole half) }, 1)
              else ifDay
            | none => ifDay
where
  /-- A number that has nothing about it but that it can be a day. -/
  ifDay : Step :=
    match r.members.couldBeDay a with
    | some true => r.withMembers (r.members.pushAmount a) 0
    | _ => .error .unreadable

/-- Reads a month name, with the numbers joined to it. -/
def monthName (today : Date) (r : Reading) (month : Nat) (rest : List Token) : Step := do
  let m ← orUnreadable (r.members.push month (some .month))
  match rest with
  | sep :: more =>
    if sep = ['-'] ∨ sep = ['/'] then
      let second ← orUnreadable more.head?
      let m ← orUnreadable (m.pushToken second none)
      match more.drop 1 with
      | next :: others =>
        if next = sep then
          let third ← orUnreadable others.head?
          r.withMembers (m.pushToken third none) 4
        else return ({ r with members := m }, 2)
      | [] => return ({ r with members := m }, 2)
    else match more with
      | word :: gap :: year :: _ =>
        if sep = [' '] ∧ gap = [' '] ∧ plain word = "of" then
          if year.all Text.isDigit then
            let n ← orUnreadable (number? year)
            let written := (toString (fullYear today n false)).toList
            r.withMembers (m.pushToken written (some .year)) 4
          else return ({ r with members := m }, 4)
        else return ({ r with members := m }, 0)
      | _ => return ({ r with members := m }, 0)
  | [] => return ({ r with members := m }, 0)
where
  /-- The year that two digits stand for: the nearest one, less than fifty years ahead. -/
  fullYear (today : Date) (year : Nat) (century : Bool) : Nat :=
    if year < 100 ∧ ¬ century then
      let guess := year + today.year / 100 * 100
      if today.year + 50 ≤ guess then guess - 100
      else if guess + 50 < today.year then guess + 100
      else guess
    else year

/-- Reads a mark of the half day, which needs an hour of a clock of twelve before it. -/
def halfDayMark (r : Reading) (half : Nat) : Step := do
  let hour ← orUnreadable r.hour
  if hour ≤ 12 then
    return ({ r with hour := some (onHalfDay hour half), halfDay := some half }, 0)
  else .error .unreadable

/-- Whether a token can name the time zone. -/
def couldBeZone (r : Reading) (offset : Option Int) (t : Token) : Bool :=
  r.hour.isSome && r.zone.isNone && offset.isNone && decide (t.length ≤ 5) &&
    (t.all Text.isAsciiUpper || isUniversalName t)

def isSign (t : Token) : Bool := t == ['+'] || t == ['-']

/-- Reads the name of a time zone. Before a sign the name says from where to count, so the sign
counts the other way. -/
def zoneName (r : Reading) (t : Token) (rest : List Token) : Reading :=
  if rest.head?.any isSign then
    { r with zone := if isUniversal t then none else some t, offset := none, flipped := true }
  else { r with zone := some t, offset := if isUniversalKey t then some 0 else none }

/-- Reads the distance from universal time after its sign. -/
def zoneOffset (r : Reading) (t : Token) (rest : List Token) : Step := do
  let ahead := (t == ['+']) != r.flipped
  let digits ← orUnreadable rest.head?
  let (hours, minutes, used) ← orUnreadable <|
    if digits.length = 4 then do
      let h ← number? (digits.take 2)
      let m ← number? (digits.drop 2)
      pure (h, m, 1)
    else if rest[1]? = some [':'] then do
      let h ← number? digits
      let m ← rest[2]?.bind number?
      pure (h, m, 3)
    else if digits.length ≤ 2 then do
      let h ← number? digits
      pure (h, 0, 1)
    else none
  let seconds : Int := hours * 3600 + minutes * 60
  let r := { r with offset := some (if ahead then seconds else -seconds), flipped := false }
  match rest.drop used with
  | gap :: ['('] :: name :: [')'] :: _ =>
    if isFiller gap ∧ 3 ≤ name.length ∧ r.couldBeZone none name then
      return ({ r with zone := some name }, used + 4)
    else return (r, used)
  | _ => return (r, used)

/-- Words that spell no finite number although they spell a number. -/
def isNumberWord (t : Token) : Bool := ["nan", "inf", "infinity"].contains (plain t)

/-- Reads one token. -/
def token (today : Date) (r : Reading) (t : Token) (behind rest : List Token) : Step :=
  match amount? t with
  | some a => r.number a t behind rest
  | none =>
    if isNumberWord t then .error .unreadable
    else match weekday? t with
      | some w => .ok ({ r with weekday := some w }, 0)
      | none =>
        match month? t with
        | some m => monthName today r m rest
        | none =>
          match halfDay? t with
          | some half => r.halfDayMark half
          | none =>
            if r.couldBeZone r.offset t then .ok (r.zoneName t rest, 0)
            else if r.hour.isSome ∧ isSign t then r.zoneOffset t rest
            else if isFiller t then .ok (r, 0)
            else .error .unreadable

/-- Reads the tokens in order; the first argument counts tokens that are already used up, the
second holds the tokens passed, in reverse. -/
def tokens (today : Date) : Nat → List Token → Reading → List Token → Except Failure Reading
  | _, _, r, [] => .ok r
  | used + 1, behind, r, t :: rest => tokens today used (t :: behind) r rest
  | 0, behind, r, t :: rest =>
    match r.token today t behind rest with
    | .ok (r', used) => tokens today used (t :: behind) r' rest
    | .error e => .error e

/-- Whether nothing at all has been read. -/
def isVoid (r : Reading) (p : Members.Parts) : Bool :=
  p.year.isNone && p.month.isNone && p.day.isNone && r.weekday.isNone && r.hour.isNone &&
    r.minute.isNone && r.second.isNone && r.micro.isNone && r.zone.isNone && r.offset.isNone &&
    r.halfDay.isNone

/-- Whether the parts of the time are in range. -/
def isTimeValid (r : Reading) : Bool :=
  r.hour.all (· < 24) && r.minute.all (· < 60) && r.second.all (· < 60) &&
    r.micro.all (· < 1000000)

/-- The distance from universal time in seconds; a name of universal time overrules a number. -/
def distance (r : Reading) : Int :=
  match r.zone with
  | some name => if isUniversal name then 0 else r.offset.getD 0
  | none => r.offset.getD 0

/-- Whether the distance from universal time can be expressed: less than a billion days. -/
def isDistanceValid (r : Reading) : Bool :=
  let days := r.distance.fdiv 86400
  decide (-1000000000 < days ∧ days < 1000000000)

/-- The date that has been read; parts that are not written are those of today, with the day
reduced to the length of the month. -/
def date? (today : Date) (r : Reading) : Option Date := do
  let p ← r.members.resolve
  if r.isVoid p then none
  let year := (p.year.map fun y => monthName.fullYear today y r.members.century).getD today.year
  let month := p.month.getD today.month
  let days ← monthDays? year month
  let day := p.day.getD (min today.day days)
  let d ← ofParts? year month day
  if !r.isTimeValid || !r.isDistanceValid then none
  match r.weekday, p.day with
  | some w, none => d.onWeekday? w
  | _, _ => some d

end Reading

/-- The date that a text spells, if it spells one. -/
def read (today : Date) (text : String) : Except Fault (Option Date) :=
  if text = "" then .ok none
  else match Reading.tokens today 0 [] {} (tokens text.toList) with
    | .ok r => .ok (r.date? today)
    | .error .unreadable => .ok none
    | .error .tooLong => .error .quotientTooLong

/-- The date that an answer spells. -/
def ofValue? (today : Date) : Value → Except Fault (Option Date)
  | .text s => read today s
  | _ => .ok none

end DynamicForm.Date

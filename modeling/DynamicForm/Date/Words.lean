import DynamicForm.Date.Token
import DynamicForm.Text.Case

/-!
# The vocabulary of written dates

English names of weekdays and months, unit letters and words, marks of the half day, names of
universal time, and the words and marks that may stand anywhere. Case does not matter, except in
names of time zones.
-/

namespace DynamicForm.Date

/-- The token in lower case. -/
def plain (t : Token) : String := String.ofList (Text.lowerChars t)

/-- The position of the group that holds the word. -/
def groupOf (groups : List (List String)) (t : Token) : Option Nat :=
  groups.findIdx? fun g => g.contains (plain t)

/-- Words and marks without a meaning of their own. -/
def fillers : List String :=
  [" ", ".", ",", ";", "-", "/", "'", "at", "on", "and", "ad", "m", "t", "of",
    "st", "nd", "rd", "th"]

def weekdayNames : List (List String) :=
  [["mon", "monday"], ["tue", "tuesday"], ["wed", "wednesday"], ["thu", "thursday"],
    ["fri", "friday"], ["sat", "saturday"], ["sun", "sunday"]]

def monthNames : List (List String) :=
  [["jan", "january"], ["feb", "february"], ["mar", "march"], ["apr", "april"], ["may"],
    ["jun", "june"], ["jul", "july"], ["aug", "august"], ["sep", "sept", "september"],
    ["oct", "october"], ["nov", "november"], ["dec", "december"]]

/-- Hours, minutes and seconds. -/
def unitNames : List (List String) :=
  [["h", "hour", "hours"], ["m", "minute", "minutes"], ["s", "second", "seconds"]]

/-- Before and after noon. -/
def halfDayNames : List (List String) := [["am", "a"], ["pm", "p"]]

def isFiller (t : Token) : Bool := fillers.contains (plain t)

def weekday? (t : Token) : Option Nat := groupOf weekdayNames t

/-- January is one. -/
def month? (t : Token) : Option Nat := (groupOf monthNames t).map (· + 1)

def unit? (t : Token) : Option Nat := groupOf unitNames t

/-- Zero before noon, one after. -/
def halfDay? (t : Token) : Option Nat := groupOf halfDayNames t

/-- Whether the word names universal time, in any case. -/
def isUniversal (t : Token) : Bool := ["utc", "gmt", "z"].contains (plain t)

/-- Whether the word is one of the usual spellings of universal time. -/
def isUniversalName (t : Token) : Bool :=
  ["UTC", "GMT", "Z", "z"].contains (String.ofList t)

/-- Whether the word is spelt exactly as a key of the table of universal time. -/
def isUniversalKey (t : Token) : Bool := ["utc", "gmt", "z"].contains (String.ofList t)

end DynamicForm.Date

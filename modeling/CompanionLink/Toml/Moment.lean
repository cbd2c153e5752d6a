import CompanionLink.Text.Cut
import CompanionLink.Toml.Value

/-! TOML dates and times: the calendar and the clock decide which are accepted. -/

namespace CompanionLink.Toml

/-- Takes a fixed number of decimal digits off, if they denote a number within bounds. -/
def fixedDigits (count low high : Nat) : Scan Nat := fun text =>
  let digits := text.take count
  let value := decimalValue digits
  -- The digits are counted first, since the text may end before they do.
  if digits.length = count ∧ digits.all Char.isDigit ∧ low ≤ value ∧ value ≤ high then
    some (value, text.drop count)
  else none

/-- Takes one character off. -/
def mark? (c : Char) : List Char → Option (List Char)
  | first :: rest => if first = c then some rest else none
  | [] => none

/-- Whether a year has a leap day. -/
def isLeapYear (year : Nat) : Bool :=
  -- Of the full centuries every fourth has a leap day.
  year % 4 == 0 && (year % 100 != 0 || year % 400 == 0)

/-- How many days a month has. -/
def daysInMonth (year month : Nat) : Nat :=
  if month = 2 then (if isLeapYear year then 29 else 28)
  else if month = 4 ∨ month = 6 ∨ month = 9 ∨ month = 11 then 30
  else 31

/-- A calendar date. -/
def date? (text : List Char) : Option (List Char) := do
  let (year, rest) ← fixedDigits 4 0 9999 text
  let (month, rest) ← fixedDigits 2 1 12 (← mark? '-' rest)
  -- The month and the year decide which days there are.
  let (_, rest) ← fixedDigits 2 1 (daysInMonth year month) (← mark? '-' rest)
  return rest

/-- A fraction of a second, if one stands here. -/
def skipFraction : List Char → List Char
  -- A point that no digit follows belongs to what comes next.
  | '.' :: c :: rest => if c.isDigit then rest.dropWhile Char.isDigit else '.' :: c :: rest
  | text => text

/-- A time of day with seconds, which may count a leap second. -/
def clock? (text : List Char) : Option (List Char) := do
  let (_, rest) ← fixedDigits 2 0 23 text
  let (_, rest) ← fixedDigits 2 0 59 (← mark? ':' rest)
  let (_, rest) ← fixedDigits 2 0 60 (← mark? ':' rest)
  return skipFraction rest

/-- The offset of a time from universal time, if one stands here. -/
def skipOffset? : List Char → Option (List Char)
  | 'Z' :: rest | 'z' :: rest => some rest
  | '+' :: rest | '-' :: rest => do
    let (_, rest) ← fixedDigits 2 0 23 rest
    let (_, rest) ← fixedDigits 2 0 59 (← mark? ':' rest)
    return rest
  -- Without an offset the time is a local one.
  | text => some text

/-- The time of day behind a date, if one stands here. -/
def skipClockOfDate? : List Char → Option (List Char)
  | c :: a :: b :: ':' :: rest =>
    -- A blank counts as the mark of a time only if a time follows it.
    if (c == 'T' || c == 't' || c == ' ') && a.isDigit && b.isDigit then
      (clock? (a :: b :: ':' :: rest)).bind skipOffset?
    else some (c :: a :: b :: ':' :: rest)
  | text => some text

/-- Whether a text begins as only a date or a time does. -/
def beginsMoment : List Char → Bool
  -- Four digits and a dash begin a date.
  | a :: b :: c :: d :: '-' :: _ => a.isDigit && b.isDigit && c.isDigit && d.isDigit
  -- Two digits and a colon begin a time of day.
  | a :: b :: ':' :: _ => a.isDigit && b.isDigit
  | _ => false

/-- A date, a time of day, or both. -/
def moment : Scan Value := fun text =>
  match text with
  | _ :: _ :: ':' :: _ => (clock? text).map (.moment, ·)
  | _ => ((date? text).bind skipClockOfDate?).map (.moment, ·)

end CompanionLink.Toml

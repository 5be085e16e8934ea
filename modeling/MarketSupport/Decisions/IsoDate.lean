import Mathlib.Data.String.Basic

/-!
# ISO dates

`date.fromisoformat` of CPython: calendar dates and week dates, with or without separators. A date
is its proleptic Gregorian ordinal.
-/

namespace MarketSupport

/-- `date.toordinal()`. -/
structure Date where
  ordinal : ℕ
  deriving DecidableEq, Repr

namespace Date

def isLeap (year : ℕ) : Bool := year % 4 = 0 ∧ (year % 100 ≠ 0 ∨ year % 400 = 0)

def daysInMonth (year month : ℕ) : ℕ :=
  if month = 2 then (if isLeap year then 29 else 28)
  else if month ∈ [4, 6, 9, 11] then 30
  else 31

def daysBeforeYear (year : ℕ) : ℕ :=
  (year - 1) * 365 + (year - 1) / 4 - (year - 1) / 100 + (year - 1) / 400

def daysBeforeMonth (year month : ℕ) : ℕ :=
  ((List.range month).filter (1 ≤ ·)).foldl (fun days m => days + daysInMonth year m) 0

/-- `date.max.toordinal()`: the last day of the year 9999. -/
def maxOrdinal : ℕ := daysBeforeYear 10000

/-- `date(year, month, day)`. -/
def ofCalendar (year month day : ℕ) : Option Date :=
  if 1 ≤ year ∧ year ≤ 9999 ∧ 1 ≤ month ∧ month ≤ 12 ∧ 1 ≤ day ∧ day ≤ daysInMonth year month then
    some ⟨daysBeforeYear year + daysBeforeMonth year month + day⟩
  else none

/-- `date.fromisocalendar(year, week, day)`. The last two days of week 52 of the year 9999 are in
the year 10000, which no date has. -/
def ofIsoCalendar (year week day : ℕ) : Option Date :=
  let firstDay := daysBeforeYear year + 1
  let firstWeekday := (firstDay + 6) % 7
  let week1Monday :=
    if 3 < firstWeekday then firstDay + 7 - firstWeekday else firstDay - firstWeekday
  let weeks := if firstWeekday = 3 ∨ (firstWeekday = 2 ∧ isLeap year = true) then 53 else 52
  let ordinal := week1Monday + (week - 1) * 7 + (day - 1)
  if 1 ≤ year ∧ year ≤ 9999 ∧ 1 ≤ week ∧ week ≤ weeks ∧ 1 ≤ day ∧ day ≤ 7 ∧
      ordinal ≤ maxOrdinal then
    some ⟨ordinal⟩
  else none

/-- The value of ASCII digits. -/
def digits (cs : List Char) : Option ℕ :=
  if cs.all Char.isDigit then
    some (cs.foldl (fun value c => 10 * value + (c.toNat - '0'.toNat)) 0)
  else none

/-- `parse_digits`: a number of so many digits, and what follows it. -/
def parseDigits (count : ℕ) (cs : List Char) : Option (ℕ × List Char) :=
  if (cs.take count).length = count then (digits (cs.take count)).map fun value =>
    (value, cs.drop count)
  else none

/-- The separator after a month or a week, if there was one after the year. -/
def parseSeparator (separated : Bool) (cs : List Char) : Option (List Char) :=
  if separated then (if cs.head? = some '-' then some cs.tail else none) else some cs

/-- `parse_isoformat_date`, which does not look at what stands behind the day. -/
def parseDate (cs : List Char) : Option Date := do
  let (year, rest) ← parseDigits 4 cs
  let separated := decide (rest.head? = some '-')
  let rest := if separated then rest.tail else rest
  if rest.head? = some 'W' then
    let (week, rest) ← parseDigits 2 rest.tail
    if rest = [] then ofIsoCalendar year week 1
    else
      let (day, _) ← parseDigits 1 (← parseSeparator separated rest)
      ofIsoCalendar year week day
  else
    let (month, rest) ← parseDigits 2 rest
    let (day, _) ← parseDigits 2 (← parseSeparator separated rest)
    ofCalendar year month day

/-- `date.fromisoformat`, which measures a text in UTF-8 bytes. -/
def fromIsoformat (text : String) : Option Date :=
  if text.utf8ByteSize ∈ [7, 8, 10] then parseDate text.toList else none

/-- The last candidate that starts before the ordinal. -/
def lastBefore (start : ℕ → ℕ) (ordinal limit : ℕ) : ℕ :=
  (((List.range (limit + 1)).filter fun n => 1 ≤ n ∧ start n < ordinal).getLast?).getD 1

def padded (width n : ℕ) : String :=
  "".pushn '0' (width - (toString n).length) ++ toString n

/-- `date.isoformat()`. -/
def isoformat (date : Date) : String :=
  let year := lastBefore daysBeforeYear date.ordinal 9999
  let dayOfYear := date.ordinal - daysBeforeYear year
  let month := lastBefore (daysBeforeMonth year) dayOfYear 12
  padded 4 year ++ "-" ++ padded 2 month ++ "-" ++ padded 2 (dayOfYear - daysBeforeMonth year month)

example : fromIsoformat "2024-02-29" = fromIsoformat "2024W09456" := by decide

example : fromIsoformat "9999-W52-6" = none := by decide

end Date

end MarketSupport

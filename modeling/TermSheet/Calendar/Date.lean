import TermSheet.Decimal.Text

/-!
# Calendar days

The days of the Gregorian calendar from year 1 to year 9999. A day is written as
`YYYY-MM-DD`, and it is read from that form, from `YYYYMMDD`, and from the week forms
`YYYY-Www-D` and `YYYY-Www` with or without the hyphens.
-/

namespace TermSheet

/-- Every fourth year is a leap year, except three centuries out of four. -/
def isLeapYear (year : Nat) : Bool :=
  year % 4 == 0 && (year % 100 != 0 || year % 400 == 0)

/-- The number of days of a month. -/
def monthLength (year month : Nat) : Nat :=
  match month with
  | 2 => if isLeapYear year then 29 else 28
  | 4 | 6 | 9 | 11 => 30
  | _ => 31

/-- A year, month and day that name a day of the calendar. -/
def IsDay (year month day : Nat) : Prop :=
  (1 ≤ year ∧ year ≤ 9999) ∧ (1 ≤ month ∧ month ≤ 12) ∧
    1 ≤ day ∧ day ≤ monthLength year month

instance (year month day : Nat) : Decidable (IsDay year month day) :=
  inferInstanceAs (Decidable (_ ∧ _ ∧ _))

/-- A day of the calendar. -/
structure Date where
  year : Nat
  month : Nat
  day : Nat
  isDay : IsDay year month day := by decide
  deriving DecidableEq

/-- Why a year, month and day, or a text, name no day or no time of day. -/
inductive CalendarFault
  | malformed
  | yearOutOfRange (year : Int)
  | monthOutOfRange
  | dayOutOfRange
  | hourOutOfRange
  | minuteOutOfRange
  | secondOutOfRange
  | offsetOutOfRange (microseconds : Int)
  deriving DecidableEq

namespace Date

/-- The day of a year, month and day. Of several faults the larger unit is reported. -/
def of? (year month day : Nat) : Except CalendarFault Date :=
  if h : IsDay year month day then .ok ⟨year, month, day, h⟩
  else if year < 1 ∨ 9999 < year then .error (.yearOutOfRange year)
  else if month < 1 ∨ 12 < month then .error .monthOutOfRange
  else .error .dayOutOfRange

/-! ## Order and day numbers -/

/-- The eight digits of a day read as one number; days are ordered by it. -/
def key (d : Date) : Nat := d.year * 10000 + d.month * 100 + d.day

instance : LE Date := ⟨fun a b => a.key ≤ b.key⟩

instance : LT Date := ⟨fun a b => a.key < b.key⟩

instance (a b : Date) : Decidable (a ≤ b) := inferInstanceAs (Decidable (a.key ≤ b.key))

instance (a b : Date) : Decidable (a < b) := inferInstanceAs (Decidable (a.key < b.key))

/-- The days in the years before a year. -/
def daysBeforeYear (year : Nat) : Nat :=
  (year - 1) * 365 + (year - 1) / 4 - (year - 1) / 100 + (year - 1) / 400

/-- The days in the months before a month of a year. -/
def daysBeforeMonth (year month : Nat) : Nat :=
  ((List.range (month - 1)).map fun m => monthLength year (m + 1)).foldl (· + ·) 0

/-- The number of a day, where the first day of year 1 has number one. -/
def ordinal (d : Date) : Nat := daysBeforeYear d.year + daysBeforeMonth d.year d.month + d.day

/-- The month and day at a distance from the first day of a month. -/
def monthAndDay (year : Nat) (month offset : Nat) : Nat × Nat :=
  if month < 12 ∧ monthLength year month ≤ offset then
    monthAndDay year (month + 1) (offset - monthLength year month)
  else (month, offset + 1)
termination_by 12 - month

/-- The year that holds the day with a number, and the days of that year before it. The calendar
    repeats every 400 years. -/
def yearAndOffset (number : Nat) : Nat × Nat :=
  let cycle := (number - 1) % 146097
  let century := min 3 (cycle / 36524)
  let inCentury := cycle - century * 36524
  let inFour := inCentury % 1461
  let single := min 3 (inFour / 365)
  ((number - 1) / 146097 * 400 + century * 100 + inCentury / 1461 * 4 + single + 1,
    inFour - single * 365)

/-- The day with a number. -/
def ofOrdinal? (number : Nat) : Except CalendarFault Date :=
  let (year, offset) := yearAndOffset number
  let (month, day) := monthAndDay year 1 offset
  of? year month day

/-! ## Weeks -/

/-- The weekday of the day with a number, Monday being zero. -/
def weekday (number : Nat) : Nat := (number + 6) % 7

/-- The number of the Monday of the first week of a year, the week with the year's first
    Thursday. It may lie in the year before. -/
def firstMonday (year : Nat) : Int :=
  let first := daysBeforeYear year + 1
  let monday : Int := first - weekday first
  if 3 < weekday first then monday + 7 else monday

/-- A year has 53 weeks when it starts with a Thursday, or with a Wednesday and is a leap year. -/
def weekCount (year : Nat) : Nat :=
  let first := weekday (daysBeforeYear year + 1)
  if first = 3 ∨ (first = 2 ∧ isLeapYear year) then 53 else 52

/-- The day of a year, week and weekday, all counted from one. No month holds the weeks of year
    zero. -/
def ofWeek? (year week weekday : Nat) : Except CalendarFault Date :=
  let weeks := if year = 0 then 52 else weekCount year
  if week < 1 ∨ weeks < week ∨ weekday < 1 ∨ 7 < weekday then .error .malformed
  else if year = 0 then .error .monthOutOfRange
  else ofOrdinal? (firstMonday year + (week - 1) * 7 + (weekday - 1)).toNat

/-! ## Written form -/

/-- A number with zeros in front, up to a width. -/
def padded (width n : Nat) : List Char :=
  let digits := Nat.toDigits 10 n
  List.replicate (width - digits.length) '0' ++ digits

/-- The form `YYYY-MM-DD`, as characters. -/
def chars (d : Date) : List Char :=
  padded 4 d.year ++ '-' :: padded 2 d.month ++ '-' :: padded 2 d.day

/-- The form `YYYY-MM-DD` (`date.isoformat`). -/
def text (d : Date) : String := String.ofList d.chars

/-- The number in the first `count` characters, which must all be digits, and the rest. -/
def takeNumber (count : Nat) (cs : List Char) : Except CalendarFault (Nat × List Char) :=
  let digits := cs.take count
  if digits.length = count ∧ digits.all Char.isDigit then
    .ok (digitsValue digits, cs.drop count)
  else .error .malformed

/-- Drops a hyphen, which must be there when the form has hyphens. -/
def takeHyphen (hyphens : Bool) : List Char → Except CalendarFault (List Char)
  | '-' :: rest => if hyphens then .ok rest else .ok ('-' :: rest)
  | rest => if hyphens then .error .malformed else .ok rest

/-- Reads a day from the front of a text, in any of the forms. -/
def ofFront? (cs : List Char) : Except CalendarFault Date := do
  let (year, rest) ← takeNumber 4 cs
  let hyphens := rest.head? == some '-'
  match if hyphens then rest.drop 1 else rest with
  | 'W' :: rest =>
    let (week, rest) ← takeNumber 2 rest
    if rest = [] then ofWeek? year week 1
    else
      let (weekday, _) ← takeNumber 1 (← takeHyphen hyphens rest)
      ofWeek? year week weekday
  | rest =>
    let (month, rest) ← takeNumber 2 rest
    let (day, _) ← takeNumber 2 (← takeHyphen hyphens rest)
    of? year month day

/-- Reads a day (`date.fromisoformat`). Only texts of 7, 8 or 10 bytes are considered, and what
    follows a day in them is not looked at. -/
def ofText? (text : String) : Except CalendarFault Date :=
  if text.utf8ByteSize = 7 ∨ text.utf8ByteSize = 8 ∨ text.utf8ByteSize = 10 then
    ofFront? text.toList
  else .error .malformed

end Date

end TermSheet

import TermSheet.Calendar.Date

/-!
# Moments of a day

A time of day down to the microsecond, with or without an offset from universal time. A moment is
written as its day and `hh:mm:ss`, and it is read from that form and from shorter ones.
-/

namespace TermSheet

/-- A day, a time of day, and the offset of its clock in microseconds where one is given. -/
structure DateTime where
  date : Date
  hour : Nat
  minute : Nat
  second : Nat
  microsecond : Nat
  offset : Option Int
  deriving DecidableEq

namespace DateTime

/-- The moment of a day and a time. Of several faults the larger unit is reported. -/
def of? (date : Date) (hour minute second microsecond : Nat) (offset : Option Int) :
    Except CalendarFault DateTime :=
  if 23 < hour then .error .hourOutOfRange
  else if 59 < minute then .error .minuteOutOfRange
  else if 59 < second then .error .secondOutOfRange
  else .ok ⟨date, hour, minute, second, microsecond, offset⟩

/-- The microseconds of a second. -/
def perSecond : Nat := 1000000

/-- An offset in microseconds, which must be less than a day. -/
def offset? (microseconds : Int) : Except CalendarFault Int :=
  if microseconds.natAbs < 86400 * perSecond then .ok microseconds
  else .error (.offsetOutOfRange microseconds)

/-! ## Written form -/

/-- A fraction of a second, where there is one. -/
def fractionChars (microsecond : Nat) : List Char :=
  if microsecond = 0 then [] else '.' :: Date.padded 6 microsecond

/-- Hours and minutes, and the seconds where they are not zero. -/
def offsetChars (microseconds : Int) : List Char :=
  let total := microseconds.natAbs / perSecond
  let fraction := fractionChars (microseconds.natAbs % perSecond)
  (if microseconds < 0 then '-' else '+') :: Date.padded 2 (total / 3600) ++
    ':' :: Date.padded 2 (total / 60 % 60) ++
    if total % 60 = 0 ∧ fraction = [] then [] else ':' :: Date.padded 2 (total % 60) ++ fraction

/-- The day and the time with a separator between them. Microseconds and the offset are written
    only where there are any. -/
def chars (t : DateTime) (separator : Char) : List Char :=
  t.date.chars ++ separator :: Date.padded 2 t.hour ++ ':' :: Date.padded 2 t.minute ++
    ':' :: Date.padded 2 t.second ++ fractionChars t.microsecond ++
    (t.offset.map offsetChars).getD []

/-- The form `YYYY-MM-DDThh:mm:ss` (`datetime.isoformat`). -/
def text (t : DateTime) : String := String.ofList (t.chars 'T')

/-- The form with a blank between day and time. -/
def spacedText (t : DateTime) : String := String.ofList (t.chars ' ')

/-! ## Comparison -/

/-- The microseconds since the start of the calendar, on the clock of the moment. -/
def clockMicroseconds (t : DateTime) : Int :=
  (((t.date.ordinal * 24 + t.hour) * 60 + t.minute) * 60 + t.second) * perSecond + t.microsecond

/-- Two moments are the same when both have an offset and name one moment of universal time, or
    neither has one and they are written alike. -/
def sameMoment (a b : DateTime) : Bool :=
  match a.offset, b.offset with
  | some x, some y => a.clockMicroseconds - x == b.clockMicroseconds - y
  | none, none => a.clockMicroseconds == b.clockMicroseconds
  | _, _ => false

/-! ## Reading -/

/-- The numbers of a clock as far as they are written, a fraction of a second, and whether
    something was left over behind them. -/
structure Clock where
  numbers : List Nat
  microsecond : Nat
  leftover : Bool

namespace Clock

/-- The hour. -/
def hour (c : Clock) : Nat := c.numbers[0]?.getD 0

/-- The minute. -/
def minute (c : Clock) : Nat := c.numbers[1]?.getD 0

/-- The second. -/
def second (c : Clock) : Nat := c.numbers[2]?.getD 0

/-- The microseconds since the clock showed zero. -/
def microseconds (c : Clock) : Nat :=
  ((c.hour * 60 + c.minute) * 60 + c.second) * perSecond + c.microsecond

/-- Reads a fraction of a second of at least one digit. Digits behind the sixth are dropped. -/
def fraction? (cs : List Char) : Except CalendarFault Clock :=
  let digits := cs.take 6
  if digits ≠ [] ∧ digits.all Char.isDigit then
    .ok ⟨[], digitsValue (digits ++ List.replicate (6 - digits.length) '0'),
      cs.dropWhile Char.isDigit != []⟩
  else .error .malformed

/-- Reads a number of two digits, and then up to `count` more with colons in front of them or not,
    and a fraction behind any of them. One character may be left over behind a number. -/
def ofFront? (colons : Bool) : Nat → List Char → Except CalendarFault Clock
  | 0, cs => fraction? cs
  | count + 1, cs => do
    let (number, rest) ← Date.takeNumber 2 cs
    match rest with
    | [] => return ⟨[number], 0, false⟩
    | [c] => if c.toNat < 0x80 then return ⟨[number], 0, true⟩ else throw .malformed
    | c :: behind =>
      let more ←
        if c = '.' ∨ c = ',' then fraction? behind
        else if !colons then ofFront? colons count rest
        else if c = ':' then ofFront? colons count behind
        else throw .malformed
      return { more with numbers := number :: more.numbers }

/-- Reads `hh`, `hh:mm` or `hh:mm:ss`, with or without the colons, and a fraction. -/
def ofChars? (cs : List Char) : Except CalendarFault Clock :=
  ofFront? ((cs.drop 2).head? == some ':') 3 cs

end Clock

/-- Whether a character is the mark in front of an offset. -/
def isOffsetMark (c : Char) : Bool := c == 'Z' || c == '+' || c == '-'

/-- Reads an offset: nothing, the mark of universal time, or a sign and a clock. -/
def offsetOf? (cs : List Char) : Except CalendarFault (Option Int) :=
  match cs with
  | [] => .ok none
  | ['Z'] => .ok (some 0)
  | 'Z' :: _ => .error .malformed
  | sign :: rest => do
    let clock ← Clock.ofChars? rest
    if clock.leftover then throw .malformed
    if clock.microseconds < perSecond then return some 0
    else return some (if sign = '-' then -(clock.microseconds : Int) else clock.microseconds)

/-- Reads a time of day with its offset. Only in front of an offset something may be left over. -/
def timeOfDay? (cs : List Char) : Except CalendarFault (Clock × Option Int) := do
  let clock ← Clock.ofChars? (cs.takeWhile (!isOffsetMark ·))
  let offset ← offsetOf? (cs.dropWhile (!isOffsetMark ·))
  if clock.leftover ∧ offset = none then throw .malformed
  return (clock, offset)

/-- How many characters the day at the front of a text has. The first digit behind a week without
    hyphens is the weekday if it is the only one or their number is even. Otherwise it separates
    the day from the time. -/
def dayWidth (cs : List Char) : Nat :=
  if cs.length = 7 then 7 else
  match cs.drop 4 with
  | '-' :: 'W' :: _ =>
    match cs.drop 8 with
    | '-' :: _ :: c :: _ => if c.isDigit then 8 else 10
    | '-' :: _ => 10
    | _ => 8
  | '-' :: _ => 10
  | 'W' :: _ =>
    let count := ((cs.drop 7).takeWhile Char.isDigit).length
    if count = 1 ∨ count % 2 = 0 ∧ count ≠ 0 then 8 else 7
  | _ => 8

/-- The time of day and the offset behind a day and a character that separates them from it. -/
def behindDay? : List Char → Except CalendarFault (Clock × Option Int)
  | [] => .ok (⟨[], 0, false⟩, none)
  | _ :: rest => timeOfDay? rest

/-- Reads a day and a time with any character between them; a day alone stands for its start. Faults
    of the form count before those of the offset, and these before those of the numbers. -/
def ofText? (text : String) : Except CalendarFault DateTime :=
  let cs := text.toList
  match Date.ofText? (String.ofList (cs.take (dayWidth cs))) with
  | .error .malformed => .error .malformed
  | day => do
    let (clock, offset) ← behindDay? (cs.drop (dayWidth cs))
    let offset ← offset.mapM offset?
    of? (← day) clock.hour clock.minute clock.second clock.microsecond offset

/-! ## Moments on a scale of seconds -/

/-- The number of the day that starts the scale, the first of January 1970. -/
def scaleStart : Nat := 719163

/-- The year of a day before the calendar, counted on backwards. -/
def yearBefore (day : Int) : Int :=
  let cycles := day.natAbs / 146097 + 1
  (Date.yearAndOffset (day + cycles * 146097).toNat).1 - cycles * 400

/-- The moment of universal time at a number of microseconds from the start of the scale. -/
def ofMicroseconds? (microseconds : Int) : Except CalendarFault DateTime := do
  let seconds := microseconds / 1000000
  let day := seconds / 86400 + scaleStart
  let inDay := (seconds % 86400).toNat
  if day < 1 then throw (.yearOutOfRange (yearBefore day))
  let date ← Date.ofOrdinal? day.toNat
  of? date (inDay / 3600) (inDay / 60 % 60) (inDay % 60) (microseconds % 1000000).toNat (some 0)

end DateTime

end TermSheet

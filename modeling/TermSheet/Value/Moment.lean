import TermSheet.Value.Text

/-!
# Moments from numbers of seconds

A moment may be given as the number of seconds since the start of 1970, whole or not. A fraction is
multiplied out to microseconds as a floating-point number and rounded half to even.
-/

namespace TermSheet

/-- Why a number of seconds is no moment. -/
inductive MomentFault
  | notANumber
  | beyondScale
  | beyondClock
  | noNumber (typeName : String)
  | calendar (fault : CalendarFault)

/-- The wording of a fault of a text, given in quotes. -/
def CalendarFault.message : CalendarFault → String → String
  | malformed, shown => "Invalid isoformat string: " ++ shown
  | yearOutOfRange year, _ => "year " ++ toString year ++ " is out of range"
  | monthOutOfRange, _ => "month must be in 1..12"
  | dayOutOfRange, _ => "day is out of range for month"
  | hourOutOfRange, _ => "hour must be in 0..23"
  | minuteOutOfRange, _ => "minute must be in 0..59"
  | secondOutOfRange, _ => "second must be in 0..59"
  | offsetOutOfRange microseconds, _ => "offset must be a timedelta strictly between " ++
      "-timedelta(hours=24) and timedelta(hours=24), not " ++ DateTime.spanText microseconds ++ "."

/-- The wording of a fault. -/
def MomentFault.message : MomentFault → String
  | notANumber => "Invalid value NaN (not a number)"
  | beyondScale => "timestamp out of range for platform time_t"
  | beyondClock => "[Errno 75] Value too large for defined data type"
  | noNumber typeName => "'" ++ typeName ++ "' object cannot be interpreted as an integer"
  | calendar fault => fault.message ""

namespace DateTime

/-- The moment at a number of microseconds, where a clock can count its seconds. -/
def onScale? (microseconds : Int) : Except MomentFault DateTime :=
  let seconds := microseconds / 1000000
  if seconds < -Nat.pow 2 63 ∨ Nat.pow 2 63 ≤ seconds then .error .beyondScale
  else
    match ofMicroseconds? microseconds with
    | .ok t => .ok t
    | .error (.yearOutOfRange year) =>
      if year < -Nat.pow 2 31 + 1900 ∨ Nat.pow 2 31 + 1900 ≤ year then .error .beyondClock
      else .error (.calendar (.yearOutOfRange year))
    | .error fault => .error (.calendar fault)

/-- The microseconds in a number of seconds. -/
def microsecondsOf (negative : Bool) (significand : Nat) (exponent : Int) : Int :=
  let (num, den) := Binary64.magnitude significand exponent
  let fraction := (Binary64.ofRatio false (num % den) den).mulNat 1000000
  let parts : Nat := match fraction with
    | .finite _ s e _ =>
      let (num, den) := Binary64.magnitude s e
      Binary64.roundQuotient num den
    | _ => 0
  let total : Int := num / den * 1000000 + parts
  if negative then -total else total

/-- The moment at a whole number of seconds. -/
def ofWholeSeconds (seconds : Int) : Except MomentFault DateTime := onScale? (seconds * 1000000)

/-- The moment at a number of seconds (`datetime.fromtimestamp`). -/
def ofSeconds? : Value → Except MomentFault DateTime
  | .float .nan => .error .notANumber
  | .float (.infinite _) => .error .beyondScale
  | .float (.finite negative significand exponent _) =>
    onScale? (microsecondsOf negative significand exponent)
  | .int i => ofWholeSeconds i
  | .bool b => ofWholeSeconds b.toNat
  | other => .error (.noNumber other.qualifiedName)

end DateTime

end TermSheet

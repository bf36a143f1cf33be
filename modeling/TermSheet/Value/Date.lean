import TermSheet.Calendar.Schedule
import TermSheet.Value.Equality
import TermSheet.Value.Moment
import TermSheet.Value.Text

/-!
# Days and schedules from values

A day is given as a day, as a moment of that day on its own clock, or as a text in one of the
written forms of a day. A schedule is given as a list of days.
-/

namespace TermSheet

/-- Why a value is no day. -/
inductive DateFault
  /-- A text is in no written form of a day, or in the form of a day that does not exist. -/
  | text (fault : CalendarFault) (shown : String)
  /-- A value of a type that days are not read from. -/
  | noDate (shown : String)
  | unshowable (fault : DisplayFault)

/-- The wording of a fault. -/
def DateFault.message : DateFault → String
  | text fault shown => fault.message shown
  | noDate shown => "Cannot parse date from " ++ shown
  | unshowable fault => fault.message

/-- The day that a text names, and otherwise the fault with the text as it is shown. -/
def Date.ofShown? (shown text : String) : Except DateFault Date :=
  (Date.ofText? text).mapError (DateFault.text · shown)

/-- The day that a value stands for (`parse_date`). -/
def Date.ofValue? (v : Value) : Except DateFault Date :=
  match v, v.exact with
  | .dateTime t, _ => .ok t.date
  | .date d, _ => .ok d
  | _, .error fault => .error (.unshowable fault)
  | _, .ok shown =>
    match v.toText? with
    | some text => Date.ofShown? shown text
    | none => .error (.noDate shown)

/-- Why a value is no schedule. -/
inductive ScheduleFault
  | noList (shown : String)
  | date (fault : DateFault)
  | decreasing (earlier later : Date)
  | unshowable (fault : DisplayFault)

/-- The wording of a fault. -/
def ScheduleFault.message : ScheduleFault → String
  | noList shown => "as_of_dates must be a list, got " ++ shown
  | date fault => fault.message
  | decreasing earlier later =>
    "as_of_dates must be non-decreasing: " ++ later.text ++ " follows " ++ earlier.text
  | unshowable fault => fault.message

namespace Schedule

/-- The schedule of a list of days (`parse_dates`). -/
def ofDays? (days : List Date) : Except ScheduleFault Schedule :=
  (of? days).mapError fun (earlier, later) => .decreasing earlier later

/-- The schedule that a value stands for (`parse_dates`). A value that is no day is reported before
    a decrease. -/
def ofValue? (v : Value) : Except ScheduleFault Schedule :=
  match v with
  | .list items =>
    match items.mapM Date.ofValue? with
    | .error fault => .error (.date fault)
    | .ok days => ofDays? days
  | v =>
    match v.exact with
    | .error fault => .error (.unshowable fault)
    | .ok shown => .error (.noList shown)

end Schedule

end TermSheet

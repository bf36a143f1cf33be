import TermSheet.Text.Quoted
import TermSheet.Value.Basic

/-!
# The written forms of values

A value has two written forms. The plain form is for readers: a text stands for itself, a date, an
amount or a payment is written as a reader expects it. The exact form tells the type as well: texts
are quoted and the parts of a compound value are named. Compound values have the exact form only.

Whole numbers of more than 4300 digits are not written, and no value that holds one has an exact
form.

Results:
- `intText_eq_ok_iff`: exactly the whole numbers of at most 4300 digits are written.
-/

namespace TermSheet

/-- Why a value has no written form. -/
inductive DisplayFault
  /-- A whole number has more than 4300 digits. -/
  | tooManyDigits
  deriving DecidableEq

/-- The wording of a fault. -/
def DisplayFault.message : DisplayFault → String
  | tooManyDigits => "Exceeds the limit (4300 digits) for integer string conversion; " ++
      "use sys.set_int_max_str_digits() to increase the limit"

/-- How many digits a whole number may be written with. -/
def mostDigits : Nat := 4300

/-- The least whole number that is not written. -/
def digitLimit : Nat := Nat.pow 10 mostDigits

/-- A whole number in decimal digits. -/
def intText (i : Int) : Except DisplayFault String :=
  if i.natAbs < digitLimit then .ok (toString i) else .error .tooManyDigits

theorem intText_eq_ok_iff {i : Int} :
    (∃ s, intText i = .ok s) ↔ i.natAbs < digitLimit := by
  unfold intText
  split <;> simp_all

namespace Currency

/-- The exact form. -/
def exact (c : Currency) : String := "<Currency." ++ c.code ++ ": " ++ Text.quoted c.code ++ ">"

end Currency

namespace Direction

/-- The exact form. -/
def exact (d : Direction) : String := "<Direction." ++ d.symbol ++ ": " ++ Text.quoted d.word ++ ">"

end Direction

/-- Parts with a comma and a blank between them. -/
def commaList (parts : List String) : String := ", ".intercalate parts

/-- The name of a type with its parts in parentheses. -/
def callText (name : String) (parts : List String) : String :=
  name ++ "(" ++ commaList parts ++ ")"

/-- The exact form of a number. -/
def Numeral.exact (n : Numeral) : String := callText "Decimal" [Text.quoted n.text]

/-- The exact form of an amount. -/
def Amount.exact (a : Amount) : String := callText "Amount" [(Numeral.finite a.value).exact]

/-- The exact form of a payment. -/
def Payment.exact (p : Payment) : String :=
  callText "Payment" ["direction=" ++ p.direction.exact, "amount=" ++ p.amount.exact,
    "currency=" ++ p.currency.exact]

/-- The exact form of a day. -/
def Date.exact (d : Date) : String :=
  callText "datetime.date" [toString d.year, toString d.month, toString d.day]

namespace DateTime

/-- The exact form of a span of microseconds, with whole days counted down. -/
def spanText (microseconds : Int) : String :=
  let seconds := microseconds / perSecond
  let parts := [("days=", seconds / 86400), ("seconds=", seconds % 86400),
    ("microseconds=", microseconds % perSecond)].filter (·.2 ≠ 0)
  callText "datetime.timedelta"
    (if parts = [] then ["0"] else parts.map fun (name, count) => name ++ toString count)

/-- The exact form of an offset. -/
def offsetExact (microseconds : Int) : String :=
  if microseconds = 0 then "datetime.timezone.utc"
  else callText "datetime.timezone" [spanText microseconds]

/-- The exact form of a moment. Seconds and microseconds are left out at the end where they are
    zero. -/
def exact (t : DateTime) : String :=
  let tail := if t.microsecond = 0 then (if t.second = 0 then [] else [t.second])
    else [t.second, t.microsecond]
  let numbers := [t.date.year, t.date.month, t.date.day, t.hour, t.minute] ++ tail
  callText "datetime.datetime" (numbers.map toString ++
    (t.offset.map fun microseconds => "tzinfo=" ++ offsetExact microseconds).toList)

end DateTime

/-- The exact form of a tuple; one of a single part keeps a comma. -/
def tupleText : List String → String
  | [part] => "(" ++ part ++ ",)"
  | parts => "(" ++ commaList parts ++ ")"

/-- The exact form of a mapping. -/
def dictText (entries : List String) : String := "\x7b" ++ commaList entries ++ "\x7d"

namespace Value

mutual

/-- The exact form (`repr`). -/
def exact : Value → Except DisplayFault String
  | none => .ok "None"
  | bool b => .ok (if b then "True" else "False")
  | int i => intText i
  | float x => .ok x.text
  | text s => .ok (Text.quoted s)
  | bytes octets => .ok (Text.quotedBytes octets)
  | decimal n => .ok n.exact
  | date d => .ok d.exact
  | dateTime t => .ok t.exact
  | list items => do return "[" ++ commaList (← exactList items) ++ "]"
  | tuple items => do return tupleText (← exactList items)
  | dict entries => do return dictText (← exactEntries entries)
  | amount a => .ok a.exact
  | currency c => .ok c.exact
  | direction d => .ok d.exact
  | payment p => .ok p.exact
  | contract c => exactContract c
  | settlement ⟨payments, residual⟩ => do
    return callText "StepResult" ["payments=" ++ tupleText (payments.map Payment.exact),
      "residual=" ++ (← exactContract residual)]
  | object name _ => .ok ("<" ++ name ++ ">")

/-- The exact forms of the items of a list. -/
def exactList : List Value → Except DisplayFault (List String)
  | [] => .ok []
  | item :: items => do return (← exact item) :: (← exactList items)

/-- The exact forms of the entries of a mapping, each with its key. -/
def exactEntries : List (Value × Value) → Except DisplayFault (List String)
  | [] => .ok []
  | (key, item) :: entries => do
    let key ← exact key
    return (key ++ ": " ++ (← exact item)) :: (← exactEntries entries)

/-- The exact form of a contract. -/
def exactContract : Contract Value → Except DisplayFault String
  | .zero => .ok "Zero()"
  | .one c => .ok (callText "One" ["currency=" ++ c.exact])
  | .multiple factor inner => do
    return callText "Multiple" ["amount=" ++ factor.exact, "contract=" ++ (← exactContract inner)]
  | .later d inner => do
    return callText "Later" ["date=" ++ d.exact, "contract=" ++ (← exactContract inner)]
  | .give inner => do return callText "Give" ["contract=" ++ (← exactContract inner)]
  | .both left right => do
    let left ← exactContract left
    return callText "And" ["contract_a=" ++ left, "contract_b=" ++ (← exactContract right)]
  | .foreign leaf => exact leaf

end

/-- The plain form (`str`). -/
def plain : Value → Except DisplayFault String
  | text s => .ok s
  | decimal n => .ok n.text
  | date d => .ok d.text
  | dateTime t => .ok t.spacedText
  | amount a => .ok a.text
  | currency c => .ok c.code
  | direction d => .ok d.word
  | payment p => .ok p.text
  | other => other.exact

end Value

end TermSheet

import TermSheet.Config.Basic
import TermSheet.Contract.Json
import TermSheet.Contract.Schedule

/-!
# The demonstration

Two zero-coupon bonds are held at once and settled on each day of a schedule. The report has an
entry for each day: the payments that fell due and what is still outstanding.

Results:
- `Demo.printout_of_writable`: in a layout that can be written, all of a report is printed.
-/

namespace TermSheet

/-- A contract without foreign leaves as a JSON value. -/
def Contract.toJson (c : Contract Empty) : Json :=
  match c.toJson? with
  | .ok json => json

namespace Demo

/-- The day on which the bond in euros is due (`EUR_MATURITY`). -/
def euroMaturity : Date := { year := 2020, month := 12, day := 24, isDay := usualDay.isDay }

/-- The day on which the bond in pounds is due (`GBP_MATURITY`). -/
def poundMaturity : Date := { year := 2020, month := 12, day := 26 }

/-- What each bond pays. -/
def faceValue : Amount := ⟨Decimal.ofNat 100⟩

/-- Both bonds at once, the one in euros first (`build_portfolio`). -/
def portfolio : Contract Empty :=
  (Contract.bond euroMaturity faceValue .eur).join (Contract.bond poundMaturity faceValue .gbp)

/-- What is reported of a day. -/
structure Entry where
  asOf : Date
  payments : List Payment
  residual : Contract Empty
  deriving DecidableEq

/-- The report for the days of a schedule (`run`). -/
def report (schedule : Schedule) : List Entry :=
  (portfolio.follow schedule.days).stops.map fun (asOf, s) => ⟨asOf, s.payments, s.residual⟩

namespace Entry

/-- The payments as a JSON value. -/
def paymentsJson (e : Entry) : Json := .array (e.payments.map Payment.toJson)

/-- An entry as a JSON value. -/
def toJson (e : Entry) : Json :=
  .object [("as_of", .text e.asOf.text), ("payments", e.paymentsJson),
    ("residual", e.residual.toJson)]

/-- The line in front of an entry, which names the day. -/
def heading (e : Entry) : String := "# " ++ e.asOf.text ++ "\n"

/-- What is printed of an entry: its heading, the payments, and the residual. -/
def text (layout : Json.Layout) (e : Entry) : String :=
  e.heading ++ e.paymentsJson.render layout ++ "\n" ++ e.residual.toJson.render layout ++ "\n"

end Entry

/-- What is printed of a report. -/
def reportText (layout : Json.Layout) (entries : List Entry) : String :=
  String.join (entries.map (Entry.text layout))

/-- A report on paper. -/
structure Printout where
  text : String
  /-- The entries that the printing got to. -/
  reached : List Entry
  fault : Option Json.LayoutFault
  deriving DecidableEq

/-- The printout of a report (`run`). In a layout that cannot be written, it ends behind the heading
    of the first entry. -/
def printout (layout : Json.Layout) (entries : List Entry) : Printout :=
  match layout.fault?, entries with
  | some fault, first :: _ => ⟨first.heading, [first], some fault⟩
  | _, entries => ⟨reportText layout entries, entries, none⟩

theorem printout_of_writable {layout : Json.Layout} (h : layout.fault? = none)
    (entries : List Entry) :
    printout layout entries = ⟨reportText layout entries, entries, none⟩ := by
  simp [printout, h]

end Demo

end TermSheet

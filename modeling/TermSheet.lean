import TermSheet.Main
import TermSheet.Proofs.Calendar.Order
import TermSheet.Proofs.Contract.Settlement
import TermSheet.Proofs.Decimal.Value
import TermSheet.Value.Word
import TermSheet.Proofs.Contract.Outstanding
import TermSheet.Proofs.Contract.Flow
import TermSheet.Proofs.Contract.Schedule
import TermSheet.Proofs.Contract.Worth
import TermSheet.Proofs.Contract.Tidy
import TermSheet.Proofs.Contract.Idle
import TermSheet.Proofs.Contract.Run
import TermSheet.Proofs.Contract.Observation
import TermSheet.Proofs.Contract.Bond
import TermSheet.Proofs.Contract.Size
import TermSheet.Proofs.Contract.Rendering
import TermSheet.Proofs.Decimal.Text
import TermSheet.Proofs.Calendar.Text
import TermSheet.Proofs.Value.Display
import TermSheet.Proofs.Value.Logged
import TermSheet.Proofs.Log.Rejection
import TermSheet.Proofs.Json.Number
import TermSheet.Proofs.Log.Scope
import TermSheet.Proofs.Log.Line
import TermSheet.Proofs.Demo.Report
import TermSheet.Proofs.Decimal.Product
import TermSheet.Proofs.Value.Amount
import TermSheet.Proofs.Demo.Agreement
import TermSheet.Proofs.Demo.Trace
import TermSheet.Proofs.Contract.Maturity
import TermSheet.Proofs.Value.Product
import TermSheet.Proofs.Contract.Equality
import TermSheet.Proofs.Contract.Visit
import TermSheet.Proofs.Log.Settlement
import TermSheet.Proofs.Config.Identity
import TermSheet.Proofs.Log.Problem
import TermSheet.Proofs.Config.Document

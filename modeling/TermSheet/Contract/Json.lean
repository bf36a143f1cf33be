import TermSheet.Contract.Schedule
import TermSheet.Json.Basic

/-!
# Payments and contracts as JSON values

A payment is an object of its direction, amount and currency. A contract is an object that names
its variant and holds its parts. Amounts are written as texts, so that no digit is lost, and days
in the form `YYYY-MM-DD`. A foreign leaf has no JSON form.
-/

namespace TermSheet

/-- A payment as an object (`payment_to_dict`). -/
def Payment.toJson (p : Payment) : Json :=
  .object [("direction", .text p.direction.word), ("amount", .text p.amount.text),
    ("currency", .text p.currency.code)]

namespace Contract

variable {F : Type}

/-- A contract as an object, or its first foreign leaf (`contract_to_dict`). -/
def toJson? : Contract F → Except F Json
  | zero => .ok (.object [("type", .text "Zero")])
  | one currency =>
    .ok (.object [("type", .text "One"), ("currency", .text currency.code)])
  | multiple factor inner => do
    return .object [("type", .text "Multiple"), ("amount", .text factor.text),
      ("contract", ← inner.toJson?)]
  | later date inner => do
    return .object [("type", .text "Later"), ("date", .text date.text),
      ("contract", ← inner.toJson?)]
  | give inner => do
    return .object [("type", .text "Give"), ("contract", ← inner.toJson?)]
  | both left right => do
    let left ← left.toJson?
    return .object [("type", .text "And"), ("contract_a", left), ("contract_b", ← right.toJson?)]
  | foreign leaf => .error leaf

end Contract

/-- A settlement as an object of its payments and its residual (`step_result_to_dict`). -/
def Settlement.toJson? {F : Type} (s : Settlement F) : Except F Json := do
  return .object [("payments", .array (s.payments.map Payment.toJson)),
    ("residual", ← s.residual.toJson?)]

end TermSheet

import TermSheet.Contract.Basic
import TermSheet.Fault

/-!
# Settling a contract on a day

Settling a contract on a day separates the payments that are due on or before that day from the
residual contract, which holds everything still outstanding. Residuals are put together with the
builders. Payments keep their order in the term, left before right, and a contract that is put off
to a later day is returned as it is, without being looked into.

A contract cannot be settled when a foreign leaf is due or when a product of amounts overflows. Of
several faults the first one is reported, in the order in which the payments are computed.

Results:
- `settle_later_of_lt`: before its day a deferred contract pays nothing and stays what it is.
- `settle_later_of_le`: from its day on a deferred contract settles like the contract inside.
-/

namespace TermSheet

/-- The payments that are due and the contract that is left over (`StepResult`). -/
structure Settlement (F : Type) where
  payments : List Payment
  residual : Contract F
  deriving DecidableEq

/-- Why a contract cannot be settled. -/
inductive SettlementFault (F : Type)
  /-- A foreign leaf is due. -/
  | foreign (leaf : F)
  /-- The product of a factor and the amount of a payment is too large. -/
  | overflow (factor amount : Amount)
  deriving DecidableEq

/-- The kind of a fault. -/
def SettlementFault.kind {F : Type} : SettlementFault F → FaultKind
  | foreign _ => .illegalContract
  | overflow _ _ => .invalidAmount

/-- A payment with its amount multiplied, or the fault that the product is too large. -/
def Payment.scaledOrFault {F : Type} (factor : Amount) (p : Payment) :
    Except (SettlementFault F) Payment :=
  match p.scaled? factor with
  | some q => .ok q
  | none => .error (.overflow factor p.amount)

namespace Contract

variable {F : Type}

/-- The payments due on a day, and the residual (`_step`). -/
def settle (asOf : Date) : Contract F → Except (SettlementFault F) (Settlement F)
  | zero => .ok ⟨[], zero⟩
  | one currency => .ok ⟨[⟨.long, .unit, currency⟩], zero⟩
  | multiple factor inner => do
    let s ← inner.settle asOf
    let payments ← s.payments.mapM (Payment.scaledOrFault factor)
    return ⟨payments, scale factor s.residual⟩
  | later date inner =>
    if date ≤ asOf then inner.settle asOf else .ok ⟨[], later date inner⟩
  | give inner => do
    let s ← inner.settle asOf
    return ⟨s.payments.map Payment.inverted, reverse s.residual⟩
  | both left right => do
    let s ← left.settle asOf
    let t ← right.settle asOf
    return ⟨s.payments ++ t.payments, join s.residual t.residual⟩
  | foreign leaf => .error (.foreign leaf)

theorem settle_later_of_lt {asOf date : Date} (h : ¬ date ≤ asOf) (c : Contract F) :
    (later date c).settle asOf = .ok ⟨[], later date c⟩ := by
  simp [settle, h]

theorem settle_later_of_le {asOf date : Date} (h : date ≤ asOf) (c : Contract F) :
    (later date c).settle asOf = c.settle asOf := by
  simp [settle, h]

end Contract

end TermSheet

import TermSheet.Contract.Settlement

/-!
# Settling along a schedule

A contract is settled on each day of a list in turn, and each residual is what is settled next. The
run ends early at the first day on which the contract cannot be settled.
-/

namespace TermSheet

/-- The outcome of a run: a settlement for each day that was reached, and the fault that ended the
    run early, if one did. -/
structure Run (F : Type) where
  stops : List (Date × Settlement F)
  fault : Option (SettlementFault F)
  deriving DecidableEq

namespace Contract

variable {F : Type}

/-- Settles a contract on each day of a schedule in turn (`step_through`). -/
def follow (c : Contract F) : List Date → Run F
  | [] => ⟨[], none⟩
  | asOf :: schedule =>
    match c.settle asOf with
    | .error fault => ⟨[], some fault⟩
    | .ok s =>
      let run := s.residual.follow schedule
      { run with stops := (asOf, s) :: run.stops }

end Contract

end TermSheet

import TermSheet.Contract.Settlement
import TermSheet.Log.Logger

/-!
# What settling logs

Settling a contract is logged: the day, the number of payments and the size of the residual when
it succeeds, and the type of the foreign leaf when one is due. An overflow is not logged.
-/

namespace TermSheet

/-- The logger of settlements. -/
def settlementLogger : String := Log.loggerName "domain.evaluator"

/-- The entries for the outcome of settling a contract on a day, with foreign leaves named by their
    types (`step`). -/
def Settlement.entries {F : Type} (leafType : F → String) (asOf : Date) :
    Except (SettlementFault F) (Settlement F) → List Log.Entry
  | .ok s =>
    [{ logger := settlementLogger, level := Log.Level.debug, template := "contract_stepped",
       extras := [("as_of", .date asOf), ("payment_count", .int s.payments.length),
         ("residual_size", .int s.residual.size)] }]
  | .error (.foreign leaf) =>
    [{ logger := settlementLogger, level := Log.Level.error, template := "illegal_contract_variant",
       extras := [("term_type", .text (leafType leaf))] }]
  | .error (.overflow _ _) => []

end TermSheet

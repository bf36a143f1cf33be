/-!
# Kinds of faults

Faults that a caller can meet fall into kinds, each with a name and a code by which machines tell
them apart.
-/

namespace TermSheet

/-- A kind of fault (`FinanceContractsError`). -/
inductive FaultKind
  /-- Any fault of the library. -/
  | general
  /-- A value is no finite number, or a product is too large. -/
  | invalidAmount
  /-- A guarantee about contracts is broken. -/
  | invariantViolation
  /-- A leaf that is no contract stands where a contract belongs. -/
  | illegalContract
  deriving DecidableEq

namespace FaultKind

/-- Every kind. -/
def all : List FaultKind := [general, invalidAmount, invariantViolation, illegalContract]

/-- The name of a kind. -/
def name : FaultKind → String
  | general => "FinanceContractsError"
  | invalidAmount => "InvalidAmountError"
  | invariantViolation => "InvariantViolationError"
  | illegalContract => "IllegalContractError"

/-- The code of a kind. -/
def code : FaultKind → String
  | general => "FINANCE_CONTRACTS_ERROR"
  | invalidAmount => "INVALID_AMOUNT"
  | invariantViolation => "INVARIANT_VIOLATION"
  | illegalContract => "ILLEGAL_CONTRACT"

end FaultKind

/-- The wording for a foreign leaf where a contract is expected (`IllegalContractError`). -/
def illegalContractMessage (typeName : String) : String := "Illegal Contract type: " ++ typeName

end TermSheet

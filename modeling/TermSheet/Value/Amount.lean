import TermSheet.Value.Text

/-!
# Amounts from values

Any value may be offered as an amount. A finite decimal number is taken with its representation;
every other value is read in its plain form, so that a floating-point number keeps its shortest
decimal form.

Results:
- `ofValue?_decimal`: a finite decimal number is always accepted as it is.
-/

namespace TermSheet

/-- Why a value is no amount (`InvalidAmountError`). -/
inductive AmountFault
  /-- The value is no finite number; `shown` is what the message quotes. -/
  | illegal (value : Value) (shown : String)
  /-- The value has no plain form to read a number from, or to quote. -/
  | unshowable (fault : DisplayFault)

namespace AmountFault

/-- The wording of a fault. -/
def message : AmountFault → String
  | illegal _ shown => "Illegal amount: '" ++ shown ++ "'"
  | unshowable fault => fault.message

/-- A product of two amounts that is too large. -/
def ofOverflow (a b : Amount) : AmountFault :=
  let product := a.text ++ " * " ++ b.text
  illegal (.text product) product

end AmountFault

namespace Amount

/-- The amount that a value stands for (`make_amount`). -/
def ofValue? : Value → Except AmountFault Amount
  | .decimal (.finite d) => .ok ⟨d⟩
  | .decimal n => .error (.illegal (.decimal n) n.text)
  | v =>
    match v.plain with
    | .error fault => .error (.unshowable fault)
    | .ok shown =>
      match Numeral.ofText? shown with
      | some (.finite d) => .ok ⟨d⟩
      | some n => .error (.illegal (.decimal n) n.text)
      | none => .error (.illegal v shown)

theorem ofValue?_decimal (d : Decimal) : ofValue? (.decimal (.finite d)) = .ok ⟨d⟩ := rfl

/-- The product at a caller's precision, or the fault that it is too large (`Amount.__mul__`). -/
def mulOrFault (precision : Nat) (a b : Amount) : Except AmountFault Amount :=
  match a.mulAt? precision b with
  | some product => .ok product
  | none => .error (.ofOverflow a b)

end Amount

/-- Why something is no factor of an amount. -/
inductive FactorFault
  | notAFactor (typeName : String)
  | repetition
  | amount (fault : AmountFault)

namespace FactorFault

/-- The wording of a fault. -/
def message : FactorFault → String
  | notAFactor typeName => "unsupported operand type(s) for *: 'Amount' and '" ++ typeName ++ "'"
  | repetition => "can't multiply sequence by non-int of type 'Amount'"
  | amount fault => fault.message

end FactorFault

/-- The product of an amount with any value. Only amounts are factors; sequences are refused as
    something to be repeated. -/
def Amount.mulValue (precision : Nat) (a : Amount) : Value → Except FactorFault Amount
  | .amount b => (a.mulOrFault precision b).mapError FactorFault.amount
  | .text _ | .bytes _ | .list _ | .tuple _ | .currency _ | .direction _ | .settlement _ =>
    .error .repetition
  | v => .error (.notAFactor v.qualifiedName)

end TermSheet

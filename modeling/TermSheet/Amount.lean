import TermSheet.Decimal.Product
import TermSheet.Decimal.Text

/-!
# Amounts

An amount is a finite decimal number without a unit. Two amounts are the same quantity when they
are numerically equal; their representations may still differ, and both are kept.

Results:
- `Amount.sameQuantity_refl`: every amount is the same quantity as itself.
- `Amount.isOne_eq_false`: no zero is one.
-/

namespace TermSheet

/-- A finite quantity (`Amount`). -/
structure Amount where
  value : Decimal
  deriving DecidableEq, Inhabited

namespace Amount

/-- The amount that one unit of a currency pays (`UNIT`). -/
def unit : Amount := ⟨Decimal.ofNat 1⟩

/-- Zero of either sign and any exponent (`is_zero`). -/
def isZero (a : Amount) : Bool := a.value.isZero

/-- One in any representation (`is_one`). -/
def isOne (a : Amount) : Bool := a.value.isOne

theorem isOne_eq_false {a : Amount} (h : a.isZero = true) : a.isOne = false := by
  have zero : a.value.coefficient = 0 := by simpa [isZero, Decimal.isZero] using h
  simp [isOne, Decimal.isOne, Decimal.sameValue, Decimal.ofNat, zero]

/-- Numeric equality (`Amount.__eq__`). -/
def sameQuantity (a b : Amount) : Bool := a.value.sameValue b.value

@[simp] theorem sameQuantity_refl (a : Amount) : a.sameQuantity a = true :=
  Decimal.sameValue_refl a.value

/-- The product at a caller's precision; nothing on overflow (`Amount.__mul__`). -/
def mulAt? (precision : Nat) (a b : Amount) : Option Amount :=
  (a.value.mul? precision b.value).map Amount.mk

/-- The product at the usual precision; nothing on overflow. -/
def mul? (a b : Amount) : Option Amount := mulAt? Decimal.usualPrecision a b

/-- The written form (`Amount.__str__`). -/
def text (a : Amount) : String := a.value.text

end Amount

end TermSheet

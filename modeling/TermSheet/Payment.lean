import TermSheet.Amount

/-!
# Payments

A payment moves an amount of a currency in one direction: a long payment is received, a short one
is paid.

Results:
- `Direction.inverted_inverted`, `Payment.inverted_inverted`: turning round twice changes nothing.
-/

namespace TermSheet

/-- The currencies that a contract may pay in (`Currency`). -/
inductive Currency
  | eur
  | gbp
  | usd
  deriving DecidableEq, Inhabited

namespace Currency

/-- Every currency, in its listed order. -/
def all : List Currency := [eur, gbp, usd]

/-- The code of a currency. -/
def code : Currency → String
  | eur => "EUR"
  | gbp => "GBP"
  | usd => "USD"

/-- The currency with a code (`Currency`). -/
def ofCode? (code : String) : Option Currency := all.find? (·.code == code)

end Currency

/-- The side of a payment (`Direction`). -/
inductive Direction
  | long
  | short
  deriving DecidableEq, Inhabited

namespace Direction

/-- Both directions, in their listed order. -/
def all : List Direction := [long, short]

/-- The word for a direction. -/
def word : Direction → String
  | long => "Long"
  | short => "Short"

/-- The name of a direction as a symbol. -/
def symbol : Direction → String
  | long => "LONG"
  | short => "SHORT"

/-- The direction with a word. -/
def ofWord? (word : String) : Option Direction := all.find? (·.word == word)

/-- The other direction (`Direction.inverted`). -/
def inverted : Direction → Direction
  | long => short
  | short => long

@[simp] theorem inverted_inverted (d : Direction) : d.inverted.inverted = d := by
  cases d <;> rfl

end Direction

/-- One cash flow (`Payment`). -/
structure Payment where
  direction : Direction
  amount : Amount
  currency : Currency
  deriving DecidableEq

namespace Payment

/-- The payment with its amount multiplied; nothing when the product overflows
    (`Payment.scaled`). -/
def scaled? (p : Payment) (factor : Amount) : Option Payment :=
  (factor.mul? p.amount).map fun amount => { p with amount }

/-- The payment seen from the other side (`Payment.inverted`). -/
def inverted (p : Payment) : Payment := { p with direction := p.direction.inverted }

@[simp] theorem inverted_inverted (p : Payment) : p.inverted.inverted = p := by
  simp [inverted]

/-- Direction, amount and currency with blanks between them (`Payment.__str__`). -/
def text (p : Payment) : String :=
  p.direction.word ++ " " ++ p.amount.text ++ " " ++ p.currency.code

/-- Whether two payments agree in direction and currency and pay the same quantity. -/
def same (p q : Payment) : Bool :=
  p.direction == q.direction && p.amount.sameQuantity q.amount && p.currency == q.currency

@[simp] theorem same_refl (p : Payment) : p.same p = true := by
  simp [same]

end Payment

end TermSheet

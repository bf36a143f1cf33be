import TermSheet.Calendar.Date
import TermSheet.Payment

/-!
# Contracts

A contract is a term over six variants. Outside data can put a foreign leaf where a term belongs;
the type of contracts is open in what a foreign leaf is, so that a library user decides what to
keep of it.

The variants can be combined as they are, or with the builders `scale`, `defer`, `reverse`,
`join` and `bond`, which drop what has no effect: an empty contract inside another, a factor of
zero and a factor of one.

Results:
- `scale_cases`, `defer_cases`, `reverse_cases`, `join_cases`: what a builder can give.
- `scale_induction`, `join_induction`: what holds of all that a builder can give.
- `apply_scale`, `apply_defer`, `apply_reverse`, `apply_join`: when a function does not tell what a
  builder gives from the variant.
- `size_pos`: a contract has at least one node.
- `same_refl`: a contract is the same as itself when its foreign leaves are.
-/

namespace TermSheet

/-- A contract whose foreign leaves have type `F` (`Contract`). -/
inductive Contract (F : Type)
  /-- No obligation. -/
  | zero
  /-- One unit of a currency, at once. -/
  | one (currency : Currency)
  /-- Every payment of a contract, multiplied. -/
  | multiple (factor : Amount) (inner : Contract F)
  /-- A contract that is inert before a day. -/
  | later (date : Date) (inner : Contract F)
  /-- Every payment of a contract, seen from the other side. -/
  | give (inner : Contract F)
  /-- Two contracts at once. -/
  | both (left right : Contract F)
  /-- A leaf that is no contract. -/
  | foreign (leaf : F)
  deriving DecidableEq, Inhabited

namespace Contract

variable {F : Type}

/-- Whether a contract is the empty one (`is_zero`). -/
def isZero : Contract F → Bool
  | zero => true
  | _ => false

/-! ## Builders -/

/-- A contract with every payment multiplied (`multiple`). -/
def scale (factor : Amount) (c : Contract F) : Contract F :=
  if c.isZero || factor.isZero then zero else if factor.isOne then c else multiple factor c

/-- A contract put off to a day (`later`). -/
def defer (date : Date) (c : Contract F) : Contract F :=
  if c.isZero then zero else later date c

/-- A contract seen from the other side (`give`). -/
def reverse (c : Contract F) : Contract F :=
  if c.isZero then zero else give c

/-- Two contracts at once (`and_`). Nothing is regrouped. -/
def join (a b : Contract F) : Contract F :=
  if a.isZero then b else if b.isZero then a else both a b

/-- A zero-coupon bond (`zcb`): an amount of a currency on a day. -/
def bond (date : Date) (amount : Amount) (currency : Currency) : Contract F :=
  defer date (scale amount (one currency))

theorem isZero_iff {c : Contract F} : c.isZero = true ↔ c = zero := by
  cases c <;> simp [isZero]

@[simp] theorem scale_zero (k : Amount) : scale k (zero : Contract F) = zero := rfl

@[simp] theorem defer_zero (d : Date) : defer d (zero : Contract F) = zero := rfl

@[simp] theorem reverse_zero : reverse (zero : Contract F) = zero := rfl

@[simp] theorem zero_join (b : Contract F) : join zero b = b := rfl

@[simp] theorem join_zero (a : Contract F) : join a zero = a := by
  cases a <;> rfl

theorem scale_of_isZero {k : Amount} (h : k.isZero = true) (c : Contract F) :
    scale k c = zero := by
  rw [scale, h, Bool.or_true, if_pos rfl]

theorem scale_of_isOne {k : Amount} (h : k.isOne = true) (c : Contract F) : scale k c = c := by
  have nonzero : k.isZero = false := by
    rw [← Bool.not_eq_true]
    intro zero
    rw [Amount.isOne_eq_false zero] at h
    cases h
  by_cases empty : c.isZero = true
  · rw [isZero_iff.mp empty, scale_zero]
  · rw [scale, nonzero, Bool.or_false, if_neg empty, if_pos h]

theorem scale_eq_multiple {k : Amount} (hz : k.isZero = false) (ho : k.isOne = false)
    {c : Contract F} (hc : c ≠ zero) : scale k c = multiple k c := by
  rw [scale, hz, ho, Bool.or_false, if_neg (mt isZero_iff.mp hc), if_neg Bool.false_ne_true]

theorem defer_eq_later (d : Date) {c : Contract F} (hc : c ≠ zero) : defer d c = later d c := by
  rw [defer, if_neg (mt isZero_iff.mp hc)]

theorem reverse_eq_give {c : Contract F} (hc : c ≠ zero) : reverse c = give c := by
  rw [reverse, if_neg (mt isZero_iff.mp hc)]

theorem join_eq_both {a b : Contract F} (ha : a ≠ zero) (hb : b ≠ zero) :
    join a b = both a b := by
  rw [join, if_neg (mt isZero_iff.mp ha), if_neg (mt isZero_iff.mp hb)]

/-- A factor of zero leaves nothing, a factor of one leaves the contract, and any other factor
    stands in front of what is not empty. -/
theorem scale_cases (k : Amount) (c : Contract F) :
    k.isZero = true ∨ k.isOne = true ∨ c = zero ∨
      k.isZero = false ∧ k.isOne = false ∧ c ≠ zero ∧ scale k c = multiple k c := by
  by_cases empty : c = zero
  · exact Or.inr (Or.inr (Or.inl empty))
  · cases nonzero : k.isZero <;> cases nonone : k.isOne
    · exact Or.inr (Or.inr (Or.inr ⟨rfl, rfl, empty, scale_eq_multiple nonzero nonone empty⟩))
    · exact Or.inr (Or.inl rfl)
    · exact Or.inl rfl
    · exact Or.inl rfl

theorem defer_cases (d : Date) (c : Contract F) :
    c = zero ∨ c ≠ zero ∧ defer d c = later d c := by
  by_cases empty : c = zero
  · exact Or.inl empty
  · exact Or.inr ⟨empty, defer_eq_later d empty⟩

theorem reverse_cases (c : Contract F) : c = zero ∨ c ≠ zero ∧ reverse c = give c := by
  by_cases empty : c = zero
  · exact Or.inl empty
  · exact Or.inr ⟨empty, reverse_eq_give empty⟩

theorem join_cases (a b : Contract F) :
    a = zero ∨ b = zero ∨ a ≠ zero ∧ b ≠ zero ∧ join a b = both a b := by
  by_cases left : a = zero
  · exact Or.inl left
  · by_cases right : b = zero
    · exact Or.inr (Or.inl right)
    · exact Or.inr (Or.inr ⟨left, right, join_eq_both left right⟩)

/-- What holds of nothing, of a contract and of its proper multiples holds of a scaled contract. -/
theorem scale_induction {P : Contract F → Prop} {k : Amount} {c : Contract F} (empty : P zero)
    (same : P c) (proper : k.isZero = false → k.isOne = false → c ≠ zero → P (multiple k c)) :
    P (scale k c) := by
  rcases scale_cases k c with h | h | rfl | ⟨hz, ho, hc, h⟩
  · rw [scale_of_isZero h]
    exact empty
  · rw [scale_of_isOne h]
    exact same
  · exact empty
  · rw [h]
    exact proper hz ho hc

theorem join_induction {P : Contract F → Prop} {a b : Contract F} (left : P a) (right : P b)
    (proper : a ≠ zero → b ≠ zero → P (both a b)) : P (join a b) := by
  rcases join_cases a b with rfl | rfl | ⟨ha, hb, h⟩
  · exact right
  · rw [join_zero]
    exact left
  · rw [h]
    exact proper ha hb

/-! ## Builders and variants -/

section Apply

variable {α : Type} (f : Contract F → α)

/-- What does not see an empty contract under a factor does not tell a scaled contract from the
    multiple. -/
theorem apply_scale {k : Amount} (hz : k.isZero = false) (ho : k.isOne = false)
    (h : f (multiple k zero) = f zero) (c : Contract F) : f (scale k c) = f (multiple k c) := by
  by_cases empty : c = zero
  · rw [empty, scale_zero, h]
  · rw [scale_eq_multiple hz ho empty]

theorem apply_defer {d : Date} (h : f (later d zero) = f zero) (c : Contract F) :
    f (defer d c) = f (later d c) := by
  rcases defer_cases d c with rfl | ⟨-, hd⟩
  · rw [defer_zero, h]
  · rw [hd]

theorem apply_reverse (h : f (give zero) = f zero) (c : Contract F) :
    f (reverse c) = f (give c) := by
  rcases reverse_cases c with rfl | ⟨-, hr⟩
  · rw [reverse_zero, h]
  · rw [hr]

theorem apply_join (hl : ∀ b, f (both zero b) = f b) (hr : ∀ a, f (both a zero) = f a)
    (a b : Contract F) : f (join a b) = f (both a b) := by
  rcases join_cases a b with rfl | rfl | ⟨-, -, hj⟩
  · rw [zero_join, hl]
  · rw [join_zero, hr]
  · rw [hj]

end Apply

/-! ## Inspection -/

/-- The number of nodes; a foreign leaf is one (`contract_size`). -/
def size : Contract F → Nat
  | zero | one _ | foreign _ => 1
  | multiple _ inner | later _ inner | give inner => 1 + inner.size
  | both left right => 1 + left.size + right.size

theorem size_pos (c : Contract F) : 0 < c.size := by
  cases c <;> simp only [size] <;> omega

/-- The first foreign leaf, from left to right. -/
def firstForeign? : Contract F → Option F
  | zero | one _ => none
  | multiple _ inner | later _ inner | give inner => inner.firstForeign?
  | both left right => left.firstForeign?.or right.firstForeign?
  | foreign leaf => some leaf

/-- Whether two contracts have one shape, with equal days and currencies and numerically equal
    factors; foreign leaves are compared as told. -/
def same (sameLeaf : F → F → Bool) : Contract F → Contract F → Bool
  | zero, zero => true
  | one a, one b => a == b
  | multiple x c, multiple y d => x.sameQuantity y && c.same sameLeaf d
  | later s c, later t d => s == t && c.same sameLeaf d
  | give c, give d => c.same sameLeaf d
  | both a b, both c d => a.same sameLeaf c && b.same sameLeaf d
  | foreign x, foreign y => sameLeaf x y
  | _, _ => false

theorem same_refl {sameLeaf : F → F → Bool} (h : ∀ x, sameLeaf x x = true) (c : Contract F) :
    c.same sameLeaf c = true := by
  induction c <;> simp_all [same]

end Contract

end TermSheet

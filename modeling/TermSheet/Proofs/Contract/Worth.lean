import TermSheet.Proofs.Contract.Settlement
import TermSheet.Proofs.Decimal.Value

/-!
# Payments by what they are worth

Two payments are the same when they agree in direction and currency and their amounts denote one
number. `Payment.worth` keeps just that of a payment. Multiplying a payment multiplies what it is
worth, unless the product is rounded; `Contract.products` lists the products that settling a
contract computes, and `Contract.IsExact` says that none of them is rounded.

Results:
* `same_iff_worth_eq`: payments are the same when they are worth the same.
* `isSome_scaled?_congr`: whether a payment can be multiplied depends on what it is worth.
* `map_worth_of_exact`: exact products multiply what the payments are worth.
* `products_scale`, `products_defer`, `products_reverse`, `products_join`: the builders.
-/

namespace TermSheet

/-! ## Worth -/

/-- A payment with the number that its amount denotes. -/
structure Worth where
  direction : Direction
  quantity : ℚ
  currency : Currency

namespace Worth

/-- A multiple of a worth. -/
def scaled (k : ℚ) (w : Worth) : Worth := { w with quantity := k * w.quantity }

/-- A worth seen from the other side. -/
def inverted (w : Worth) : Worth := { w with direction := w.direction.inverted }

/-- Something is paid. -/
def isNonzero (w : Worth) : Bool := w.quantity ≠ 0

theorem scaled_one (w : Worth) : w.scaled 1 = w := by
  rw [scaled, one_mul]

theorem isNonzero_scaled {k : ℚ} (h : k ≠ 0) (w : Worth) :
    (w.scaled k).isNonzero = w.isNonzero := by
  simp [isNonzero, scaled, h]

theorem isNonzero_scaled_zero (w : Worth) : (w.scaled 0).isNonzero = false := by
  simp [isNonzero, scaled]

end Worth

/-- The product of two amounts is not rounded. A product that overflows is not rounded either. -/
def Amount.MulExact (k a : Amount) : Prop := ∀ q ∈ k.mul? a, q.toRat = k.toRat * a.toRat

instance (k a : Amount) : Decidable (k.MulExact a) := Option.decidableForallMem (k.mul? a)

namespace Payment

/-- What a payment is worth. -/
def worth (p : Payment) : Worth := ⟨p.direction, p.amount.toRat, p.currency⟩

theorem same_iff_worth_eq {p q : Payment} : p.same q = true ↔ p.worth = q.worth := by
  obtain ⟨d, a, c⟩ := p
  obtain ⟨e, b, u⟩ := q
  simp only [same, worth, Bool.and_eq_true, beq_iff_eq, Amount.sameQuantity_iff, Worth.mk.injEq,
    and_assoc]

theorem isNonzero_worth (p : Payment) : p.worth.isNonzero = !p.amount.isZero := by
  rw [Bool.eq_iff_iff, Bool.not_eq_true', ← Bool.not_eq_true, Amount.isZero_iff]
  exact decide_eq_true_iff

theorem worth_inverted (p : Payment) : p.inverted.worth = p.worth.inverted := rfl

theorem scaled?_eq_some_iff {p q : Payment} {k : Amount} :
    p.scaled? k = some q ↔ ∃ a, k.mul? p.amount = some a ∧ { p with amount := a } = q := by
  rw [scaled?, Option.map_eq_some_iff]

theorem worth_of_exact {p q : Payment} {k : Amount} (h : p.scaled? k = some q)
    (exact : k.MulExact p.amount) : q.worth = p.worth.scaled k.toRat := by
  obtain ⟨a, ha, rfl⟩ := scaled?_eq_some_iff.mp h
  rw [worth, exact a ha]
  rfl

theorem isSome_scaled?_congr {p q : Payment} (h : p.worth = q.worth) (k : Amount) :
    (p.scaled? k).isSome = (q.scaled? k).isSome := by
  have quantity : p.amount.toRat = q.amount.toRat := congrArg Worth.quantity h
  rw [scaled?, scaled?, Option.isSome_map, Option.isSome_map]
  exact Amount.isSome_mul?_congr (by rw [quantity])

theorem map_worth_of_exact {ps qs : List Payment} {k : Amount}
    (h : qs.map some = ps.map (·.scaled? k)) (exact : ∀ p ∈ ps, k.MulExact p.amount) :
    qs.map worth = (ps.map worth).map (·.scaled k.toRat) := by
  induction ps generalizing qs with
  | nil => rw [List.map_eq_nil_iff.mp h]; rfl
  | cons p ps ih =>
    obtain ⟨q, rest, rfl, hq, hrest⟩ := List.map_eq_cons_iff.mp h
    simp only [List.map_cons]
    rw [worth_of_exact hq.symm (exact p List.mem_cons_self),
      ih hrest fun r hr => exact r (List.mem_cons_of_mem p hr)]

/-- Payments that are worth the same, leaving some out, can be multiplied too. -/
theorem exists_scaled_of_worth {ps rs qs : List Payment} {k : Amount}
    (h : qs.map some = rs.map (·.scaled? k)) (sub : ps.map worth ⊆ rs.map worth) :
    ∃ us : List Payment, us.map some = ps.map (·.scaled? k) := by
  refine exists_map_some_iff.mpr fun o ho => ?_
  obtain ⟨p, hp, rfl⟩ := List.mem_map.mp ho
  obtain ⟨r, hr, worth_eq⟩ := List.mem_map.mp (sub (List.mem_map_of_mem hp))
  rw [← isSome_scaled?_congr worth_eq]
  exact exists_map_some_iff.mp ⟨qs, h⟩ _ (List.mem_map_of_mem hr)

end Payment

/-! ## Products -/

/-- The products that multiplying payments in turn computes, up to the first that overflows. -/
def scalings (k : Amount) : List Payment → List (Amount × Amount)
  | [] => []
  | p :: ps => (k, p.amount) :: if (p.scaled? k).isSome then scalings k ps else []

theorem scalings_eq_map {k : Amount} {ps qs : List Payment}
    (h : qs.map some = ps.map (·.scaled? k)) : scalings k ps = ps.map fun p => (k, p.amount) := by
  induction ps generalizing qs with
  | nil => rfl
  | cons p ps ih =>
    obtain ⟨q, rest, rfl, hq, hrest⟩ := List.map_eq_cons_iff.mp h
    have computed : (p.scaled? k).isSome := Option.isSome_iff_exists.mpr ⟨q, hq.symm⟩
    rw [scalings, if_pos computed, ih hrest, List.map_cons]

namespace Contract

variable {F : Type}

/-- The products that settling a contract computes, in their order, each with the factor first. -/
def products (t : Date) : Contract F → List (Amount × Amount)
  | zero | one _ | foreign _ => []
  | multiple factor inner =>
    inner.products t ++
      match inner.settle t with
      | .ok s => scalings factor s.payments
      | .error _ => []
  | later date inner => if date ≤ t then inner.products t else []
  | give inner => inner.products t
  | both left right =>
    left.products t ++
      match left.settle t with
      | .ok _ => right.products t
      | .error _ => []

/-- Settling a contract rounds no product. -/
def IsExact (t : Date) (c : Contract F) : Prop := ∀ x ∈ c.products t, x.1.MulExact x.2

instance (t : Date) (c : Contract F) : Decidable (c.IsExact t) :=
  inferInstanceAs (Decidable (∀ x ∈ c.products t, x.1.MulExact x.2))

variable {t : Date}

theorem products_scale {k : Amount} (hz : k.isZero = false) (ho : k.isOne = false)
    (c : Contract F) : (scale k c).products t = (multiple k c).products t :=
  apply_scale (products t) hz ho rfl c

theorem products_defer (d : Date) (c : Contract F) :
    (defer d c).products t = (later d c).products t :=
  apply_defer (products t) (ite_self []) c

theorem products_reverse (c : Contract F) : (reverse c).products t = (give c).products t :=
  apply_reverse (products t) rfl c

theorem products_join (a b : Contract F) :
    (join a b).products t = (both a b).products t := by
  apply apply_join (products t)
  · intro b
    rfl
  · intro a
    rw [products]
    cases a.settle t <;> exact List.append_nil (a.products t)

/-! ## Exact settlements -/

theorem IsExact.of_multiple {k : Amount} {c : Contract F} (h : (multiple k c).IsExact t) :
    c.IsExact t :=
  fun x hx => h x (List.mem_append_left _ hx)

theorem IsExact.scalings {k : Amount} {c : Contract F} (h : (multiple k c).IsExact t)
    {s : Settlement F} (hs : c.settle t = .ok s) :
    ∀ x ∈ scalings k s.payments, x.1.MulExact x.2 := by
  intro x hx
  refine h x (List.mem_append_right _ ?_)
  rwa [hs]

theorem IsExact.of_later {d : Date} (hd : d ≤ t) {c : Contract F} (h : (later d c).IsExact t) :
    c.IsExact t := by
  rwa [IsExact, products, if_pos hd] at h

theorem IsExact.of_both_left {a b : Contract F} (h : (both a b).IsExact t) : a.IsExact t :=
  fun x hx => h x (List.mem_append_left _ hx)

theorem IsExact.of_both_right {a b : Contract F} (h : (both a b).IsExact t) {s : Settlement F}
    (hs : a.settle t = .ok s) : b.IsExact t := by
  intro x hx
  refine h x (List.mem_append_right _ ?_)
  rwa [hs]

/-- Unless its factor is zero, a scaled contract needs all products of the contract. -/
theorem IsExact.of_scale {k : Amount} (hz : k.isZero = false) {c : Contract F}
    (h : (scale k c).IsExact t) : c.IsExact t := by
  cases ho : k.isOne with
  | true => rwa [scale_of_isOne ho] at h
  | false =>
    rw [IsExact, products_scale hz ho] at h
    exact IsExact.of_multiple h

/-- An exact multiple multiplies what the payments of its contract are worth. -/
theorem IsExact.map_worth {k : Amount} {c : Contract F} (h : (multiple k c).IsExact t)
    {s : Settlement F} (hs : c.settle t = .ok s) {qs : List Payment}
    (scaled : qs.map some = s.payments.map (·.scaled? k)) :
    qs.map Payment.worth = (s.payments.map Payment.worth).map (·.scaled k.toRat) := by
  refine Payment.map_worth_of_exact scaled fun p hp => ?_
  refine h.scalings hs (k, p.amount) ?_
  rw [scalings_eq_map scaled]
  exact List.mem_map_of_mem hp

/-- A scaled contract pays multiples of what the contract pays, when these can be computed. -/
theorem exists_settle_scale {k : Amount} (hz : k.isZero = false) {c : Contract F}
    (exact : (scale k c).IsExact t) {s : Settlement F} (hs : c.settle t = .ok s)
    {qs : List Payment} (scaled : qs.map some = s.payments.map (·.scaled? k)) :
    ∃ u, (scale k c).settle t = .ok u ∧
      u.payments.map Payment.worth = (s.payments.map Payment.worth).map (·.scaled k.toRat) := by
  cases ho : k.isOne with
  | true =>
    refine ⟨s, by rw [scale_of_isOne ho, hs], ?_⟩
    rw [Amount.isOne_iff.mp ho]
    exact (List.map_id'' Worth.scaled_one _).symm
  | false =>
    rw [IsExact, products_scale hz ho] at exact
    refine ⟨⟨qs, scale k s.residual⟩, ?_, IsExact.map_worth exact hs scaled⟩
    rw [settle_scale hz ho]
    exact settle_multiple_eq_ok_iff.mpr ⟨s, hs, scaled, rfl⟩

end Contract

end TermSheet

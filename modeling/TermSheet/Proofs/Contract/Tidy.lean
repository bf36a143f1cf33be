import TermSheet.Proofs.Contract.Normal
import TermSheet.Proofs.Contract.Worth

/-!
# Rebuilding keeps the meaning

Rebuilding a contract with the builders drops what has no effect, so the contract and the rebuilt
one settle alike: the rebuilt one pays the same quantities in the same order, except for payments of
nothing, and its residual is the rebuilt residual. The two settlements may compute different
products, so this needs that none of them is rounded; overflows need no such care, because whether
a product overflows does not depend on how its factors are written.

Results:
* `tidy_scale`, `tidy_reverse`, `tidy_join`: rebuilding passes through the builders.
* `outstanding_tidy`: what is outstanding of a rebuilt contract is the rebuilt rest.
* `exists_settle_tidy`: the rebuilt contract pays what is not nothing.
* `settle_tidy`: both, for settlements.
-/

namespace TermSheet.Contract

variable {F : Type} {t : Date}

/-! ## Rebuilding and the builders -/

theorem tidy_scale (k : Amount) (c : Contract F) : (scale k c).tidy = scale k c.tidy := by
  rcases scale_cases k c with h | h | rfl | ⟨-, -, -, h⟩
  · rw [scale_of_isZero h, scale_of_isZero h, tidy]
  · rw [scale_of_isOne h, scale_of_isOne h]
  · rfl
  · rw [h, tidy]

theorem tidy_reverse (c : Contract F) : (reverse c).tidy = reverse c.tidy :=
  apply_reverse tidy rfl c

theorem tidy_join (a b : Contract F) : (join a b).tidy = join a.tidy b.tidy :=
  apply_join tidy (fun b => zero_join b.tidy) (fun a => join_zero a.tidy) a b

theorem outstanding_tidy (t : Date) (c : Contract F) :
    c.tidy.outstanding t = (c.outstanding t).tidy := by
  induction c with
  | zero => rfl
  | one currency => rfl
  | multiple factor inner ih => rw [tidy, outstanding_scale, ih, outstanding, tidy_scale]
  | later date inner ih =>
    rw [tidy, outstanding_defer, outstanding]
    by_cases due : date ≤ t
    · rw [if_pos due, if_pos due, ih]
    · rw [if_neg due, if_neg due, tidy]
  | give inner ih => rw [tidy, outstanding_reverse, ih, outstanding, tidy_reverse]
  | both left right ihl ihr => rw [tidy, outstanding_join, ihl, ihr, outstanding, tidy_join]
  | foreign leaf => rfl

/-! ## Payments -/

/-- What the payments that are not nothing are worth. -/
def worths (ps : List Payment) : List Worth := (ps.map Payment.worth).filter Worth.isNonzero

theorem worths_append (ps qs : List Payment) : worths (ps ++ qs) = worths ps ++ worths qs := by
  rw [worths, List.map_append, List.filter_append]
  rfl

theorem worths_inverted (ps : List Payment) :
    worths (ps.map Payment.inverted) = (worths ps).map Worth.inverted := by
  rw [worths, List.map_map, worths]
  have turned : Payment.worth ∘ Payment.inverted = Worth.inverted ∘ Payment.worth :=
    funext Payment.worth_inverted
  rw [turned, ← List.map_map, List.filter_map]
  rfl

/-- Multiples by zero are nothing. -/
theorem worths_of_scaled_zero {ps qs : List Payment}
    (h : qs.map Payment.worth = (ps.map Payment.worth).map (·.scaled 0)) : worths qs = [] := by
  rw [worths, h, List.filter_eq_nil_iff]
  intro w hw
  obtain ⟨v, -, rfl⟩ := List.mem_map.mp hw
  simp [Worth.isNonzero_scaled_zero]

/-- Other multiples are nothing only of nothing. -/
theorem worths_of_scaled {ps qs : List Payment} {k : ℚ} (hk : k ≠ 0)
    (h : qs.map Payment.worth = (ps.map Payment.worth).map (·.scaled k)) :
    worths qs = (worths ps).map (·.scaled k) := by
  rw [worths, h, List.filter_map]
  have kept : Worth.isNonzero ∘ (·.scaled k) = Worth.isNonzero :=
    funext (Worth.isNonzero_scaled hk)
  rw [kept, worths]

theorem worths_eq_map_filter (ps : List Payment) :
    worths ps = (ps.filter fun p => !p.amount.isZero).map Payment.worth := by
  have kept : Worth.isNonzero ∘ Payment.worth = fun p => !p.amount.isZero :=
    funext Payment.isNonzero_worth
  rw [worths, List.filter_map, kept]

/-! ## Settling a rebuilt contract -/

/-- A factor other than zero multiplies a contract that pays the same except for nothing. -/
theorem exists_settle_scale_worths {k : Amount} (hz : k.isZero = false) {c : Contract F}
    (exact : (scale k c).IsExact t) {v : Settlement F} (hv : c.settle t = .ok v)
    {ps qs : List Payment} (kept : v.payments.map Payment.worth = worths ps)
    (scaled : qs.map some = ps.map (·.scaled? k))
    (worth_eq : qs.map Payment.worth = (ps.map Payment.worth).map (·.scaled k.toRat)) :
    ∃ u, (scale k c).settle t = .ok u ∧ u.payments.map Payment.worth = worths qs := by
  have nonzero : k.toRat ≠ 0 := by
    rw [ne_eq, ← Amount.isZero_iff, hz]
    exact Bool.false_ne_true
  have sub : v.payments.map Payment.worth ⊆ ps.map Payment.worth := by
    rw [kept]
    exact List.filter_subset_self _
  -- Every payment is worth what some payment is worth that could be multiplied.
  obtain ⟨us, hus⟩ := Payment.exists_scaled_of_worth scaled sub
  obtain ⟨u, hu, paid⟩ := exists_settle_scale hz exact hv hus
  exact ⟨u, hu, by rw [paid, kept, worths_of_scaled nonzero worth_eq]⟩

/-- The rebuilt contract pays what the contract pays, payments of nothing left out. -/
theorem exists_settle_tidy {c : Contract F} {s : Settlement F} (hs : c.settle t = .ok s)
    (raw : c.IsExact t) (rebuilt : c.tidy.IsExact t) :
    ∃ u, c.tidy.settle t = .ok u ∧ u.payments.map Payment.worth = worths s.payments := by
  induction c generalizing s with
  | zero =>
    cases hs
    exact ⟨_, rfl, rfl⟩
  | one currency =>
    cases hs
    refine ⟨_, rfl, ?_⟩
    have paid : Worth.isNonzero (Payment.worth ⟨.long, .unit, currency⟩) = true := by
      rw [Payment.isNonzero_worth]
      rfl
    simp [worths, paid]
  | multiple factor inner ih =>
    obtain ⟨r, hr, scaled, -⟩ := settle_multiple_eq_ok_iff.mp hs
    have worth_eq := IsExact.map_worth raw hr scaled
    rw [tidy] at rebuilt ⊢
    cases hz : factor.isZero with
    | true =>
      -- The inner contract is dropped unseen, and all payments are worth nothing.
      rw [Amount.isZero_iff.mp hz] at worth_eq
      rw [scale_of_isZero hz, worths_of_scaled_zero worth_eq]
      exact ⟨_, rfl, rfl⟩
    | false =>
      obtain ⟨v, hv, kept⟩ := ih hr raw.of_multiple (rebuilt.of_scale hz)
      exact exists_settle_scale_worths hz rebuilt hv kept scaled worth_eq
  | later date inner ih =>
    rw [tidy] at rebuilt ⊢
    rw [IsExact, products_defer] at rebuilt
    rw [settle_defer]
    by_cases due : date ≤ t
    · rw [settle_later_of_le due] at hs
      rw [if_pos due]
      exact ih hs (raw.of_later due) (IsExact.of_later due rebuilt)
    · rw [settle_later_of_lt due] at hs
      cases hs
      rw [if_neg due]
      exact ⟨_, rfl, rfl⟩
  | give inner ih =>
    obtain ⟨r, hr, rfl⟩ := settle_give_eq_ok_iff.mp hs
    rw [tidy] at rebuilt ⊢
    rw [IsExact, products_reverse] at rebuilt
    obtain ⟨v, hv, kept⟩ := ih hr raw rebuilt
    refine ⟨⟨v.payments.map Payment.inverted, reverse v.residual⟩, ?_, ?_⟩
    · rw [settle_reverse]
      exact settle_give_eq_ok_iff.mpr ⟨v, hv, rfl⟩
    · rw [worths_inverted, ← kept, List.map_map, List.map_map]
      rfl
  | both left right ihl ihr =>
    obtain ⟨r, w, hr, hw, rfl⟩ := settle_both_eq_ok_iff.mp hs
    rw [tidy] at rebuilt ⊢
    rw [IsExact, products_join] at rebuilt
    obtain ⟨v, hv, keptl⟩ := ihl hr raw.of_both_left (IsExact.of_both_left rebuilt)
    obtain ⟨x, hx, keptr⟩ := ihr hw (raw.of_both_right hr) (IsExact.of_both_right rebuilt hv)
    refine ⟨⟨v.payments ++ x.payments, join v.residual x.residual⟩, ?_, ?_⟩
    · rw [settle_join]
      exact settle_both_eq_ok_iff.mpr ⟨v, x, hv, hx, rfl⟩
    · rw [List.map_append, keptl, keptr, worths_append]
  | foreign leaf => cases hs

/-- **Rebuilding.** When a contract can be settled, and neither its settlement nor that of the
    rebuilt contract rounds a product, the rebuilt contract can be settled too. It pays the same
    quantities in the same order, payments of nothing left out, and leaves the rebuilt residual. -/
theorem settle_tidy {c : Contract F} {s : Settlement F} (hs : c.settle t = .ok s)
    (raw : c.IsExact t) (rebuilt : c.tidy.IsExact t) :
    ∃ u, c.tidy.settle t = .ok u ∧
      List.Forall₂ (fun p q => p.same q = true) u.payments
        (s.payments.filter fun p => !p.amount.isZero) ∧
      u.residual = s.residual.tidy := by
  obtain ⟨u, hu, paid⟩ := exists_settle_tidy hs raw rebuilt
  refine ⟨u, hu, ?_, ?_⟩
  · rw [worths_eq_map_filter, ← List.forall₂_eq_eq_eq, List.forall₂_map_left_iff,
      List.forall₂_map_right_iff] at paid
    simpa only [Payment.same_iff_worth_eq] using paid
  · rw [residual_eq_outstanding hu, residual_eq_outstanding hs, outstanding_tidy]

/-- A payment of nothing is dropped, and factors of one are. -/
theorem settle_tidy_of_zero_and_one :
    ∃ u, (both (multiple ⟨⟨true, 0, 5⟩⟩ (one .eur))
        (both (multiple ⟨⟨false, 100, -2⟩⟩ (give (multiple ⟨⟨false, 250, -2⟩⟩ (one .gbp))))
          (later ⟨2021, 5, 2, by decide⟩ (multiple ⟨⟨false, 10, -1⟩⟩ (one .usd)))) :
        Contract Empty).tidy.settle ⟨2021, 5, 1, by decide⟩ = .ok u ∧
      List.Forall₂ (fun p q => p.same q = true) u.payments
        [⟨.short, ⟨⟨false, 25000, -4⟩⟩, .gbp⟩] ∧
      u.residual = later ⟨2021, 5, 2, by decide⟩ (one .usd) := by
  have settled : (both (multiple ⟨⟨true, 0, 5⟩⟩ (one .eur))
      (both (multiple ⟨⟨false, 100, -2⟩⟩ (give (multiple ⟨⟨false, 250, -2⟩⟩ (one .gbp))))
        (later ⟨2021, 5, 2, by decide⟩ (multiple ⟨⟨false, 10, -1⟩⟩ (one .usd)))) :
      Contract Empty).settle ⟨2021, 5, 1, by decide⟩ =
        .ok ⟨[⟨.long, ⟨⟨true, 0, 5⟩⟩, .eur⟩, ⟨.short, ⟨⟨false, 25000, -4⟩⟩, .gbp⟩],
          later ⟨2021, 5, 2, by decide⟩ (multiple ⟨⟨false, 10, -1⟩⟩ (one .usd))⟩ := by
    decide +kernel
  obtain ⟨u, hu, paid, residual⟩ :=
    settle_tidy settled (by decide +kernel) (by decide +kernel)
  exact ⟨u, hu, paid, residual.trans (by decide +kernel)⟩

end TermSheet.Contract

import TermSheet.Proofs.Contract.Run
import TermSheet.Proofs.Contract.Worth

/-!
# Equal contracts behave alike

Two contracts are equal when they have one shape, with equal days and currencies and numerically
equal factors, however these are written. Settling them takes the same course: whether a builder
drops something and whether a product overflows depends on the numbers only, and exact products of
equal numbers are equal. So both settlements fail with faults of one kind, or both succeed with
equal payments and equal residuals. Products that are rounded are left out, because how much of a
product is kept depends on how its factors are written.

Results:
* `same_iff_matches`: equality of contracts, layer by layer.
* `same_scale`, `same_defer`, `same_reverse`, `same_join`: builders make equal contracts of equal
  ones.
* `Accord.bind`: computations side by side.
* `Payment.accord_mapM_scaledOrFault`: equal payments times equal factors.
* `Matches.settle_accord`: the settlements of equal contracts.
* `accord_of_same`: settlements and builders together.
-/

namespace TermSheet

variable {F : Type}

/-! ## Equality layer by layer -/

namespace Contract

variable {sameLeaf : F → F → Bool} {k l : Amount} {a b c d : Contract F}

/-- Two contracts with one shape and equal parts. -/
inductive Matches (sameLeaf : F → F → Bool) : Contract F → Contract F → Prop
  | zero : Matches sameLeaf zero zero
  | one (currency : Currency) : Matches sameLeaf (one currency) (one currency)
  | multiple {k l : Amount} {c d : Contract F} (factor : k.sameQuantity l = true)
      (inner : Matches sameLeaf c d) : Matches sameLeaf (multiple k c) (multiple l d)
  | later (date : Date) {c d : Contract F} (inner : Matches sameLeaf c d) :
      Matches sameLeaf (later date c) (later date d)
  | give {c d : Contract F} (inner : Matches sameLeaf c d) : Matches sameLeaf (give c) (give d)
  | both {a b c d : Contract F} (left : Matches sameLeaf a c) (right : Matches sameLeaf b d) :
      Matches sameLeaf (both a b) (both c d)
  | foreign {x y : F} (leaf : sameLeaf x y = true) : Matches sameLeaf (foreign x) (foreign y)

theorem Matches.same (h : Matches sameLeaf c d) : c.same sameLeaf d = true := by
  induction h with
  | zero => rfl
  | one currency => simp [Contract.same]
  | multiple factor _ ih => simp [Contract.same, factor, ih]
  | later date _ ih => simp [Contract.same, ih]
  | give _ ih => exact ih
  | both _ _ ihl ihr => simp [Contract.same, ihl, ihr]
  | foreign leaf => exact leaf

theorem same_iff_matches : c.same sameLeaf d = true ↔ Matches sameLeaf c d := by
  refine ⟨fun h => ?_, Matches.same⟩
  induction c generalizing d with
  | zero =>
    cases d <;> simp [same] at h
    exact .zero
  | one currency =>
    cases d <;> simp [same] at h
    subst h
    exact .one currency
  | multiple factor inner ih =>
    cases d <;> simp [same] at h
    exact .multiple h.1 (ih h.2)
  | later date inner ih =>
    cases d <;> simp [same] at h
    obtain ⟨rfl, h⟩ := h
    exact .later date (ih h)
  | give inner ih =>
    cases d <;> simp [same] at h
    exact .give (ih h)
  | both left right ihl ihr =>
    cases d <;> simp [same] at h
    exact .both (ihl h.1) (ihr h.2)
  | foreign leaf =>
    cases d <;> simp [same] at h
    exact .foreign h

/-! ## Builders -/

theorem isZero_eq_of_same (h : c.same sameLeaf d = true) : c.isZero = d.isZero := by
  cases same_iff_matches.mp h <;> rfl

theorem same_scale (factor : k.sameQuantity l = true) (h : c.same sameLeaf d = true) :
    (scale k c).same sameLeaf (scale l d) = true := by
  have quantity : k.toRat = l.toRat := Amount.sameQuantity_iff.mp factor
  have zero : k.isZero = l.isZero := by
    rw [Bool.eq_iff_iff, Amount.isZero_iff, Amount.isZero_iff, quantity]
  have one : k.isOne = l.isOne := by
    rw [Bool.eq_iff_iff, Amount.isOne_iff, Amount.isOne_iff, quantity]
  unfold scale
  rw [isZero_eq_of_same h, zero, one]
  split_ifs
  · rfl
  · exact h
  · exact (Matches.multiple factor (same_iff_matches.mp h)).same

theorem same_defer (date : Date) (h : c.same sameLeaf d = true) :
    (defer date c).same sameLeaf (defer date d) = true := by
  unfold defer
  rw [isZero_eq_of_same h]
  split_ifs
  · rfl
  · exact (Matches.later date (same_iff_matches.mp h)).same

theorem same_reverse (h : c.same sameLeaf d = true) :
    (reverse c).same sameLeaf (reverse d) = true := by
  unfold reverse
  rw [isZero_eq_of_same h]
  split_ifs
  · rfl
  · exact h

theorem same_join (left : a.same sameLeaf c = true) (right : b.same sameLeaf d = true) :
    (join a b).same sameLeaf (join c d) = true := by
  unfold join
  rw [isZero_eq_of_same left, isZero_eq_of_same right]
  split_ifs
  · exact right
  · exact left
  · exact (Matches.both (same_iff_matches.mp left) (same_iff_matches.mp right)).same

end Contract

/-! ## Computations side by side -/

/-- Two computations both fail with faults of one kind, or both succeed with related results. -/
inductive Accord {α β : Type} (R : α → β → Prop) :
    Except (SettlementFault F) α → Except (SettlementFault F) β → Prop
  | fault {f g : SettlementFault F} (kind : f.kind = g.kind) : Accord R (.error f) (.error g)
  | result {x : α} {y : β} (related : R x y) : Accord R (.ok x) (.ok y)

namespace Accord

variable {α β γ δ : Type} {R : α → β → Prop} {S : γ → δ → Prop}

/-- Two steps on each side. The second one is only looked at when the first one succeeds. -/
theorem bind {x : Except (SettlementFault F) α} {y : Except (SettlementFault F) β}
    (h : Accord R x y) {f : α → Except (SettlementFault F) γ} {g : β → Except (SettlementFault F) δ}
    (next : ∀ a b, x = .ok a → y = .ok b → R a b → Accord S (f a) (g b)) :
    Accord S (x >>= f) (y >>= g) := by
  cases h with
  | fault kind => exact .fault kind
  | result related => exact next _ _ rfl rfl related

end Accord

/-! ## Products of equal numbers -/

namespace Payment

variable {p q : Payment} {k l : Amount}

theorem scaledOrFault_of_none (h : k.mul? p.amount = none) :
    p.scaledOrFault (F := F) k = .error (.overflow k p.amount) := by
  rw [scaledOrFault, scaled?, h]
  rfl

theorem scaledOrFault_of_some {a : Amount} (h : k.mul? p.amount = some a) :
    p.scaledOrFault (F := F) k = .ok { p with amount := a } := by
  rw [scaledOrFault, scaled?, h]
  rfl

/-- Equal payments times equal factors: whether the product overflows depends on the numbers, and
    exact products are equal. -/
theorem accord_scaledOrFault (factor : k.sameQuantity l = true) (h : p.same q = true)
    (left : k.MulExact p.amount) (right : l.MulExact q.amount) :
    Accord (F := F) (fun p q => p.same q = true) (p.scaledOrFault k) (q.scaledOrFault l) := by
  have worth : p.worth = q.worth := same_iff_worth_eq.mp h
  have quantity : p.amount.toRat = q.amount.toRat := congrArg Worth.quantity worth
  have product : k.toRat * p.amount.toRat = l.toRat * q.amount.toRat := by
    rw [Amount.sameQuantity_iff.mp factor, quantity]
  have computed := Amount.isSome_mul?_congr product
  cases hp : k.mul? p.amount with
  | none =>
    have hq : l.mul? q.amount = none := by
      rw [← Option.not_isSome_iff_eq_none, ← computed, hp]
      simp
    rw [scaledOrFault_of_none hp, scaledOrFault_of_none hq]
    exact .fault rfl
  | some a =>
    obtain ⟨b, hq⟩ : ∃ b, l.mul? q.amount = some b := by
      rw [← Option.isSome_iff_exists, ← computed, hp]
      rfl
    rw [scaledOrFault_of_some hp, scaledOrFault_of_some hq]
    have equal : a.toRat = b.toRat := by
      rw [left a hp, right b hq, product]
    refine .result (same_iff_worth_eq.mpr ?_)
    exact congrArg₂ (fun (w : Worth) quantity => { w with quantity }) worth equal

/-- The induction is on the payments side by side. A product is only looked at when all products in
    front of it could be computed. -/
theorem accord_mapM_scaledOrFault (factor : k.sameQuantity l = true) {ps qs : List Payment}
    (h : List.Forall₂ (fun p q => p.same q = true) ps qs)
    (left : ∀ x ∈ scalings k ps, x.1.MulExact x.2)
    (right : ∀ x ∈ scalings l qs, x.1.MulExact x.2) :
    Accord (F := F) (List.Forall₂ fun p q => p.same q = true)
      (ps.mapM (scaledOrFault k)) (qs.mapM (scaledOrFault l)) := by
  induction h with
  | nil => exact .result .nil
  | @cons p q ps qs first rest ih =>
    rw [List.mapM_cons, List.mapM_cons]
    rw [scalings, List.forall_mem_cons] at left right
    refine (accord_scaledOrFault factor first left.1 right.1).bind fun p' q' hp hq same => ?_
    rw [scaledOrFault_eq_ok_iff] at hp hq
    rw [hp] at left
    rw [hq] at right
    refine (ih left.2 right.2).bind fun ps' qs' _ _ others => ?_
    exact .result (.cons same others)

end Payment

/-! ## Settlements -/

/-- Two settlements with equal payments in the same order and with equal residuals. -/
structure Settlement.Same (sameLeaf : F → F → Bool) (r s : Settlement F) : Prop where
  payments : List.Forall₂ (fun p q => p.same q = true) r.payments s.payments
  residual : r.residual.same sameLeaf s.residual = true

namespace Settlement

variable {sameLeaf : F → F → Bool} {k l : Amount} {r s u v : Settlement F}

theorem Same.accord_scaled (h : Same sameLeaf r s) (factor : k.sameQuantity l = true)
    (left : ∀ x ∈ scalings k r.payments, x.1.MulExact x.2)
    (right : ∀ x ∈ scalings l s.payments, x.1.MulExact x.2) :
    Accord (Same sameLeaf) (r.scaled k) (s.scaled l) := by
  refine (Payment.accord_mapM_scaledOrFault factor h.payments left right).bind
    fun ps qs _ _ payments => ?_
  exact .result ⟨payments, Contract.same_scale factor h.residual⟩

theorem Same.reversed (h : Same sameLeaf r s) : Same sameLeaf r.reversed s.reversed where
  payments := by
    show List.Forall₂ _ (r.payments.map Payment.inverted) (s.payments.map Payment.inverted)
    rw [List.forall₂_map_left_iff, List.forall₂_map_right_iff]
    refine h.payments.imp fun p q same => ?_
    rw [Payment.same_iff_worth_eq] at same ⊢
    rw [Payment.worth_inverted, Payment.worth_inverted, same]
  residual := Contract.same_reverse h.residual

theorem Same.joined (h : Same sameLeaf r s) (h' : Same sameLeaf u v) :
    Same sameLeaf (r.joined u) (s.joined v) where
  payments := List.rel_append h.payments h'.payments
  residual := Contract.same_join h.residual h'.residual

end Settlement

namespace Contract

variable {sameLeaf : F → F → Bool} {t : Date} {c d : Contract F}

/-- Equal contracts settle side by side. The induction is on their common shape. -/
theorem Matches.settle_accord (h : Matches sameLeaf c d) (left : c.IsExact t)
    (right : d.IsExact t) : Accord (Settlement.Same sameLeaf) (c.settle t) (d.settle t) := by
  induction h with
  | zero => exact .result ⟨.nil, rfl⟩
  | one currency =>
    exact .result ⟨.cons (Payment.same_refl _) .nil, rfl⟩
  | @multiple k l c d factor inner ih =>
    rw [settle_multiple, settle_multiple]
    refine (ih left.of_multiple right.of_multiple).bind fun r s hr hs same => ?_
    exact same.accord_scaled factor (left.scalings hr) (right.scalings hs)
  | @later date c d inner ih =>
    by_cases come : date ≤ t
    · rw [settle_later_of_le come, settle_later_of_le come]
      exact ih (left.of_later come) (right.of_later come)
    · rw [settle_later_of_lt come, settle_later_of_lt come]
      exact .result ⟨.nil, (Matches.later date inner).same⟩
  | @give c d inner ih =>
    rw [settle_give, settle_give]
    exact (ih left right).bind fun r s _ _ same => .result same.reversed
  | @both a b c d first second ihl ihr =>
    rw [settle_both, settle_both]
    refine (ihl left.of_both_left right.of_both_left).bind fun r s hr hs same => ?_
    refine (ihr (left.of_both_right hr) (right.of_both_right hs)).bind fun u v _ _ same' => ?_
    exact .result (same.joined same')
  | foreign leaf => exact .fault rfl

/-- **Equal contracts.** Let two contracts be equal: of one shape, with equal days and currencies
    and with numerically equal factors, in any spelling; their foreign leaves, if they have any, are
    compared by a test. When settling them on a day rounds no product, both fail with faults of one
    kind, or both succeed with equal payments in the same order and with equal residuals. Builders
    make equal contracts of equal ones. -/
theorem accord_of_same (sameLeaf : F → F → Bool) :
    (∀ (t : Date) (c d : Contract F), c.same sameLeaf d = true → c.IsExact t → d.IsExact t →
      Accord (Settlement.Same sameLeaf) (c.settle t) (d.settle t)) ∧
    (∀ (k l : Amount) (c d : Contract F), k.sameQuantity l = true → c.same sameLeaf d = true →
      (scale k c).same sameLeaf (scale l d) = true) ∧
    (∀ (date : Date) (c d : Contract F), c.same sameLeaf d = true →
      (defer date c).same sameLeaf (defer date d) = true) ∧
    (∀ c d : Contract F, c.same sameLeaf d = true →
      (reverse c).same sameLeaf (reverse d) = true) ∧
    ∀ a b c d : Contract F, a.same sameLeaf c = true → b.same sameLeaf d = true →
      (join a b).same sameLeaf (join c d) = true :=
  ⟨fun _ _ _ same left right => (same_iff_matches.mp same).settle_accord left right,
    fun _ _ _ _ => same_scale, fun date _ _ => same_defer date, fun _ _ => same_reverse,
    fun _ _ _ _ => same_join⟩

/-- Hundred in two spellings beside a pound that has to wait, a product that overflows in two
    spellings, and one in two spellings as a factor. -/
theorem accord_of_same_of_spellings :
    let c : Contract Empty :=
      both (multiple ⟨⟨false, 100, 0⟩⟩ (one .eur)) (later ⟨2021, 5, 2, by decide⟩ (one .gbp))
    let d : Contract Empty :=
      both (multiple ⟨⟨false, 10000, -2⟩⟩ (one .eur)) (later ⟨2021, 5, 2, by decide⟩ (one .gbp))
    let large : Contract Empty :=
      multiple ⟨⟨false, 1, 999999⟩⟩ (multiple ⟨⟨false, 10, 0⟩⟩ (one .usd))
    let great : Contract Empty :=
      multiple ⟨⟨false, 1000, 999996⟩⟩ (multiple ⟨⟨false, 1, 1⟩⟩ (one .usd))
    let t : Date := ⟨2021, 5, 1, by decide⟩
    c.same nofun d = true ∧ c.IsExact t ∧ d.IsExact t ∧
      (∃ r s, c.settle t = .ok r ∧ d.settle t = .ok s ∧ r.Same nofun s) ∧
      large.same nofun great = true ∧ large.IsExact t ∧ great.IsExact t ∧
      (∃ f g, large.settle t = .error f ∧ great.settle t = .error g ∧ f.kind = g.kind) ∧
      (scale ⟨⟨false, 100, -2⟩⟩ c).same nofun (scale ⟨⟨false, 10, -1⟩⟩ d) = true := by
  intro c d large great t
  obtain ⟨accord, scaled, -⟩ := accord_of_same (F := Empty) nofun
  have equal : c.same nofun d = true := by decide +kernel
  have equal' : large.same nofun great = true := by decide +kernel
  have exact₁ : c.IsExact t := by decide +kernel
  have exact₂ : d.IsExact t := by decide +kernel
  have exact₃ : large.IsExact t := by decide +kernel
  have exact₄ : great.IsExact t := by decide +kernel
  refine ⟨equal, exact₁, exact₂, ?_, equal', exact₃, exact₄, ?_,
    scaled _ _ c d (by decide +kernel) equal⟩
  · have settled : c.settle t = .ok ⟨[⟨.long, ⟨⟨false, 100, 0⟩⟩, .eur⟩],
        later ⟨2021, 5, 2, by decide⟩ (one .gbp)⟩ := by decide +kernel
    have beside := accord t c d equal exact₁ exact₂
    rw [settled] at beside
    cases other : d.settle t with
    | error fault =>
      rw [other] at beside
      cases beside
    | ok s =>
      rw [other] at beside
      cases beside with
      | result same => exact ⟨_, s, settled, rfl, same⟩
  · have settled : large.settle t = .error (.overflow ⟨⟨false, 1, 999999⟩⟩ ⟨⟨false, 10, 0⟩⟩) := by
      decide +kernel
    have beside := accord t large great equal' exact₃ exact₄
    rw [settled] at beside
    cases other : great.settle t with
    | error fault =>
      rw [other] at beside
      cases beside with
      | fault kind => exact ⟨_, fault, settled, rfl, kind⟩
    | ok s =>
      rw [other] at beside
      cases beside

end Contract

end TermSheet

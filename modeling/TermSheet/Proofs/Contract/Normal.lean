import TermSheet.Proofs.Contract.Outstanding
import TermSheet.Proofs.Decimal.Value

/-!
# Normal forms

A contract is normal when nothing in it is without effect: it is the empty contract, or no part of
it is empty and no factor denotes zero or one. Builders keep contracts normal, and so does settling
them, because residuals are put together with builders. Rebuilding a contract from its leaves up
with the builders makes any contract normal.

Results:
* `IsNormal.scale`, `IsNormal.defer`, `IsNormal.reverse`, `IsNormal.join`: builders keep normality.
* `IsNormal.outstanding`: what is outstanding of a normal contract is normal.
* `tidy_eq_self`, `isNormal_tidy`: rebuilding leaves normal contracts alone and makes all others
  normal.
* `Built.isNormal`, `Built.isWhole`: what the builders make is normal and has no foreign leaf.
* `produced_normal_and_normal_iff_tidy_eq`: every history of builders and settlements produces
  normal contracts only, and normality is invariance under rebuilding.
-/

namespace TermSheet.Contract

variable {F : Type}

/-- No part is empty, and no factor denotes zero or one. -/
def IsTight : Contract F → Prop
  | zero => False
  | one _ | foreign _ => True
  | multiple factor inner => factor.toRat ≠ 0 ∧ factor.toRat ≠ 1 ∧ inner.IsTight
  | later _ inner | give inner => inner.IsTight
  | both left right => left.IsTight ∧ right.IsTight

/-- The empty contract itself, or one without empty parts and without idle factors. -/
def IsNormal (c : Contract F) : Prop := c = zero ∨ c.IsTight

theorem IsTight.ne_zero {c : Contract F} (h : c.IsTight) : c ≠ zero := by
  rintro rfl
  exact h

theorem IsTight.isNormal {c : Contract F} (h : c.IsTight) : c.IsNormal := Or.inr h

theorem isNormal_zero : (zero : Contract F).IsNormal := Or.inl rfl

theorem isNormal_one (currency : Currency) : (one currency : Contract F).IsNormal :=
  Or.inr trivial

theorem IsNormal.isTight {c : Contract F} (h : c.IsNormal) (hz : c ≠ zero) : c.IsTight :=
  h.resolve_left hz

/-! ## Builders -/

theorem isTight_multiple_iff {k : Amount} {c : Contract F} :
    (multiple k c).IsTight ↔ k.isZero = false ∧ k.isOne = false ∧ c.IsTight := by
  rw [IsTight, ← Bool.not_eq_true, ← Bool.not_eq_true, Amount.isZero_iff, Amount.isOne_iff]

theorem IsNormal.scale {c : Contract F} (h : c.IsNormal) (k : Amount) : (scale k c).IsNormal := by
  refine scale_induction (P := IsNormal) isNormal_zero h fun hz ho hc => ?_
  exact (isTight_multiple_iff.mpr ⟨hz, ho, h.isTight hc⟩).isNormal

theorem IsNormal.defer {c : Contract F} (h : c.IsNormal) (d : Date) : (defer d c).IsNormal := by
  rcases defer_cases d c with rfl | ⟨hc, hd⟩
  · exact isNormal_zero
  · rw [hd]
    exact IsTight.isNormal (c := later d c) (h.isTight hc)

theorem IsNormal.reverse {c : Contract F} (h : c.IsNormal) : (reverse c).IsNormal := by
  rcases reverse_cases c with rfl | ⟨hc, hr⟩
  · exact isNormal_zero
  · rw [hr]
    exact IsTight.isNormal (c := give c) (h.isTight hc)

theorem IsNormal.join {a b : Contract F} (ha : a.IsNormal) (hb : b.IsNormal) :
    (join a b).IsNormal := by
  refine join_induction (P := IsNormal) ha hb fun hza hzb => ?_
  exact IsTight.isNormal (c := both a b) ⟨ha.isTight hza, hb.isTight hzb⟩

/-- A contract that is not due stays as it is, and all else is put together with builders. -/
theorem IsTight.outstanding {c : Contract F} (h : c.IsTight) (t : Date) :
    (c.outstanding t).IsNormal := by
  induction c with
  | zero => exact isNormal_zero
  | one currency => exact isNormal_zero
  | multiple factor inner ih => exact (ih h.2.2).scale factor
  | later date inner ih =>
    rw [Contract.outstanding]
    split
    · exact ih h
    · exact IsTight.isNormal h
  | give inner ih => exact (ih h).reverse
  | both left right ihl ihr => exact (ihl h.1).join (ihr h.2)
  | foreign leaf => exact IsTight.isNormal h

theorem IsNormal.outstanding {c : Contract F} (h : c.IsNormal) (t : Date) :
    (c.outstanding t).IsNormal := by
  rcases h with rfl | h
  · exact isNormal_zero
  · exact h.outstanding t

/-! ## Rebuilding -/

/-- A contract rebuilt with the builders, from its leaves up. -/
def tidy : Contract F → Contract F
  | zero => zero
  | one currency => one currency
  | multiple factor inner => scale factor inner.tidy
  | later date inner => defer date inner.tidy
  | give inner => reverse inner.tidy
  | both left right => join left.tidy right.tidy
  | foreign leaf => foreign leaf

theorem isNormal_tidy (c : Contract F) : c.tidy.IsNormal := by
  induction c with
  | zero => exact isNormal_zero
  | one currency => exact isNormal_one currency
  | multiple factor inner ih => exact ih.scale factor
  | later date inner ih => exact ih.defer date
  | give inner ih => exact ih.reverse
  | both left right ihl ihr => exact ihl.join ihr
  | foreign leaf => exact IsTight.isNormal trivial

theorem IsTight.tidy_eq_self {c : Contract F} (h : c.IsTight) : c.tidy = c := by
  induction c with
  | zero => rfl
  | one currency => rfl
  | multiple factor inner ih =>
    obtain ⟨hz, ho, hi⟩ := isTight_multiple_iff.mp h
    rw [tidy, ih hi, scale_eq_multiple hz ho hi.ne_zero]
  | later date inner ih =>
    have hi : inner.IsTight := h
    rw [tidy, ih hi, defer_eq_later date hi.ne_zero]
  | give inner ih =>
    have hi : inner.IsTight := h
    rw [tidy, ih hi, reverse_eq_give hi.ne_zero]
  | both left right ihl ihr =>
    rw [tidy, ihl h.1, ihr h.2, join_eq_both h.1.ne_zero h.2.ne_zero]
  | foreign leaf => rfl

theorem tidy_eq_self {c : Contract F} (h : c.IsNormal) : c.tidy = c := by
  rcases h with rfl | h
  · rfl
  · exact h.tidy_eq_self

theorem isNormal_iff_tidy_eq {c : Contract F} : c.IsNormal ↔ c.tidy = c :=
  ⟨tidy_eq_self, fun h => h ▸ isNormal_tidy c⟩

/-! ## What the builders make -/

/-- No foreign leaf: a contract over the six variants. -/
def IsWhole (c : Contract F) : Prop := c.firstForeign? = none

theorem isWhole_one (currency : Currency) : (one currency : Contract F).IsWhole := rfl

theorem isWhole_both_iff {a b : Contract F} : (both a b).IsWhole ↔ a.IsWhole ∧ b.IsWhole := by
  unfold IsWhole
  rw [firstForeign?, Option.or_eq_none_iff]

theorem IsWhole.scale {c : Contract F} (h : c.IsWhole) (k : Amount) : (scale k c).IsWhole :=
  scale_induction (P := IsWhole) rfl h fun _ _ _ => h

theorem IsWhole.defer {c : Contract F} (h : c.IsWhole) (d : Date) : (defer d c).IsWhole :=
  (apply_defer firstForeign? rfl c).trans h

theorem IsWhole.reverse {c : Contract F} (h : c.IsWhole) : (reverse c).IsWhole :=
  (apply_reverse firstForeign? rfl c).trans h

theorem IsWhole.join {a b : Contract F} (ha : a.IsWhole) (hb : b.IsWhole) :
    (join a b).IsWhole :=
  join_induction (P := IsWhole) ha hb fun _ _ => isWhole_both_iff.mpr ⟨ha, hb⟩

theorem IsWhole.outstanding {c : Contract F} (h : c.IsWhole) (t : Date) :
    (c.outstanding t).IsWhole := by
  induction c with
  | zero => rfl
  | one currency => rfl
  | multiple factor inner ih => exact (ih h).scale factor
  | later date inner ih =>
    rw [Contract.outstanding]
    split
    · exact ih h
    · exact h
  | give inner ih => exact (ih h).reverse
  | both left right ihl ihr =>
    obtain ⟨hl, hr⟩ := isWhole_both_iff.mp h
    exact (ihl hl).join (ihr hr)
  | foreign leaf => exact h

/-- The contracts that can be made with the builders alone. -/
inductive Built : Contract F → Prop
  | zero : Built zero
  | one (currency : Currency) : Built (one currency)
  | scale {c : Contract F} (factor : Amount) (h : Built c) : Built (scale factor c)
  | defer {c : Contract F} (date : Date) (h : Built c) : Built (defer date c)
  | reverse {c : Contract F} (h : Built c) : Built (reverse c)
  | join {a b : Contract F} (ha : Built a) (hb : Built b) : Built (join a b)
  | bond (date : Date) (amount : Amount) (currency : Currency) : Built (bond date amount currency)

theorem Built.isNormal {c : Contract F} (h : Built c) : c.IsNormal := by
  induction h with
  | zero => exact isNormal_zero
  | one currency => exact isNormal_one currency
  | scale factor _ ih => exact ih.scale factor
  | defer date _ ih => exact ih.defer date
  | reverse _ ih => exact ih.reverse
  | join _ _ iha ihb => exact iha.join ihb
  | bond date amount currency => exact ((isNormal_one currency).scale amount).defer date

theorem Built.isWhole {c : Contract F} (h : Built c) : c.IsWhole := by
  induction h with
  | zero => rfl
  | one currency => rfl
  | scale factor _ ih => exact ih.scale factor
  | defer date _ ih => exact ih.defer date
  | reverse _ ih => exact ih.reverse
  | join _ _ iha ihb => exact iha.join ihb
  | bond date amount currency => exact ((isWhole_one currency).scale amount).defer date

/-! ## Histories -/

/-- One use of a builder or of settling. Contracts are named by their places among those that were
    produced so far. -/
inductive Operation
  | zero
  | one (currency : Currency)
  | scale (factor : Amount) (place : Nat)
  | defer (date : Date) (place : Nat)
  | reverse (place : Nat)
  | join (left right : Nat)
  | bond (date : Date) (amount : Amount) (currency : Currency)
  | settle (asOf : Date) (place : Nat)

/-- What an operation produces: nothing when it names an empty place, and nothing when the contract
    cannot be settled. -/
def Operation.result? (produced : List (Contract F)) : Operation → Option (Contract F)
  | zero => some Contract.zero
  | one currency => some (Contract.one currency)
  | scale factor place => (produced[place]?).map (Contract.scale factor)
  | defer date place => (produced[place]?).map (Contract.defer date)
  | reverse place => (produced[place]?).map Contract.reverse
  | join left right => do return Contract.join (← produced[left]?) (← produced[right]?)
  | bond date amount currency => some (Contract.bond date amount currency)
  | settle asOf place => do
    let s ← ((← produced[place]?).settle asOf).toOption
    return s.residual

/-- All contracts that a history produces, after those that were there before. -/
def produce (produced : List (Contract F)) : List Operation → List (Contract F)
  | [] => produced
  | op :: history => produce (produced ++ (op.result? produced).toList) history

/-- One operation on normal contracts produces a normal contract. -/
theorem isNormal_result? {produced : List (Contract F)} (h : ∀ c ∈ produced, c.IsNormal)
    {op : Operation} {c : Contract F} (hc : op.result? produced = some c) : c.IsNormal := by
  have normal_at {place : Nat} {a : Contract F} (ha : produced[place]? = some a) : a.IsNormal :=
    h a (List.mem_of_getElem? ha)
  cases op with
  | zero =>
    cases hc
    exact isNormal_zero
  | one currency =>
    cases hc
    exact isNormal_one currency
  | scale factor place =>
    obtain ⟨a, ha, rfl⟩ := Option.map_eq_some_iff.mp hc
    exact (normal_at ha).scale factor
  | defer date place =>
    obtain ⟨a, ha, rfl⟩ := Option.map_eq_some_iff.mp hc
    exact (normal_at ha).defer date
  | reverse place =>
    obtain ⟨a, ha, rfl⟩ := Option.map_eq_some_iff.mp hc
    exact (normal_at ha).reverse
  | join left right =>
    obtain ⟨a, ha, rest⟩ := Option.bind_eq_some_iff.mp hc
    obtain ⟨b, hb, last⟩ := Option.bind_eq_some_iff.mp rest
    cases last
    exact (normal_at ha).join (normal_at hb)
  | bond date amount currency =>
    cases hc
    exact (Built.bond date amount currency).isNormal
  | settle asOf place =>
    obtain ⟨a, ha, rest⟩ := Option.bind_eq_some_iff.mp hc
    obtain ⟨s, hs, last⟩ := Option.bind_eq_some_iff.mp rest
    cases last
    cases settled : a.settle asOf with
    | error fault =>
      rw [settled] at hs
      cases hs
    | ok r =>
      rw [settled] at hs
      cases hs
      rw [residual_eq_outstanding settled]
      exact (normal_at ha).outstanding asOf

theorem isNormal_produce {produced : List (Contract F)} (h : ∀ c ∈ produced, c.IsNormal)
    (history : List Operation) : ∀ c ∈ produce produced history, c.IsNormal := by
  induction history generalizing produced with
  | nil => exact h
  | cons op history ih =>
    apply ih
    intro c hc
    rcases List.mem_append.mp hc with old | new
    · exact h c old
    · exact isNormal_result? h (Option.mem_toList.mp new)

/-- **Normal forms.** Whatever a history of builders and settlements produces from nothing is
    normal, and a contract is normal exactly when rebuilding it gives back the same contract. -/
theorem produced_normal_and_normal_iff_tidy_eq :
    (∀ (history : List Operation) (c : Contract F), c ∈ produce [] history → c.IsNormal) ∧
      ∀ c : Contract F, c.IsNormal ↔ c.tidy = c :=
  ⟨isNormal_produce (by simp), fun _ => isNormal_iff_tidy_eq⟩

/-- A history with ones and zeros in several spellings, settled in between. -/
theorem isNormal_of_history :
    (later ⟨2021, 5, 2, by decide⟩ (one .gbp) : Contract Empty) ∈
        produce [] [.one .eur, .scale ⟨⟨false, 10, -1⟩⟩ 0, .scale ⟨⟨true, 25, -1⟩⟩ 1, .one .gbp,
          .scale ⟨⟨true, 0, 5⟩⟩ 3, .defer ⟨2021, 5, 2, by decide⟩ 3, .join 2 5, .join 4 6,
          .settle ⟨2021, 5, 1, by decide⟩ 7] ∧
      (later ⟨2021, 5, 2, by decide⟩ (one .gbp) : Contract Empty).IsNormal := by
  refine (fun member => ⟨member, produced_normal_and_normal_iff_tidy_eq.1 _ _ member⟩) ?_
  decide +kernel

end TermSheet.Contract

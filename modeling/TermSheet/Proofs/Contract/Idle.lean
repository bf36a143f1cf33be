import TermSheet.Calendar.Schedule
import TermSheet.Contract.Schedule
import TermSheet.Proofs.Contract.Settlement

/-!
# Contracts that wait

A contract is idle on a day when settling it pays nothing and leaves it as it is. What the builders
make of idle contracts is idle again, because none of them drops anything more when it is applied a
second time. Therefore the residual of a settlement is idle on its day and on every day before: the
parts of it that still have something to pay stand under days that have not come.

Results:
* `IsIdle.scale`, `IsIdle.reverse`, `IsIdle.join`: builders keep contracts idle.
* `isIdle_residual`: a residual is idle up to the day of its settlement.
* `follow_of_idle`: a contract passes the days on which it is idle unchanged.
* `settle_residual_eq_self`: settling a residual again, once or along earlier days.
-/

namespace TermSheet.Contract

variable {F : Type} {c : Contract F} {s t : Date} {schedule : List Date}

/-- Settling the contract pays nothing and leaves the contract as it is. -/
def IsIdle (t : Date) (c : Contract F) : Prop := c.settle t = .ok ⟨[], c⟩

/-! ## Builders -/

theorem isIdle_zero (t : Date) : (zero : Contract F).IsIdle t := settle_zero t

theorem isIdle_later {d : Date} (h : ¬ d ≤ t) (c : Contract F) : (later d c).IsIdle t :=
  settle_later_of_lt h c

theorem isIdle_defer {d : Date} (h : ¬ d ≤ t) (c : Contract F) : (defer d c).IsIdle t := by
  rw [IsIdle, settle_defer, if_neg h]

theorem IsIdle.scale (h : c.IsIdle t) (k : Amount) : (scale k c).IsIdle t := by
  refine scale_induction (P := IsIdle t) (isIdle_zero t) h fun hz ho hc => ?_
  exact settle_multiple_eq_ok_iff.mpr ⟨⟨[], c⟩, h, rfl, (scale_eq_multiple hz ho hc).symm⟩

theorem IsIdle.reverse (h : c.IsIdle t) : (reverse c).IsIdle t := by
  rw [IsIdle, settle_reverse]
  exact settle_give_eq_ok_iff.mpr ⟨⟨[], c⟩, h, rfl⟩

theorem IsIdle.join {a b : Contract F} (ha : a.IsIdle t) (hb : b.IsIdle t) :
    (join a b).IsIdle t := by
  rw [IsIdle, settle_join]
  exact settle_both_eq_ok_iff.mpr ⟨⟨[], a⟩, ⟨[], b⟩, ha, hb, rfl⟩

/-! ## Residuals -/

/-- A residual holds nothing that is due, up to the day of its settlement. -/
theorem isIdle_residual (order : s ≤ t) {r : Settlement F} (hr : c.settle t = .ok r) :
    r.residual.IsIdle s := by
  induction c generalizing r with
  | zero =>
    cases hr
    exact isIdle_zero s
  | one currency =>
    cases hr
    exact isIdle_zero s
  | multiple factor inner ih =>
    obtain ⟨u, hu, -, residual⟩ := settle_multiple_eq_ok_iff.mp hr
    rw [residual]
    exact (ih hu).scale factor
  | later date inner ih =>
    by_cases due : date ≤ t
    · rw [settle_later_of_le due] at hr
      exact ih hr
    · -- What has not come on the day of the settlement has not come before.
      rw [settle_later_of_lt due] at hr
      cases hr
      exact isIdle_later (fun come => due (Date.le_trans come order)) inner
  | give inner ih =>
    obtain ⟨u, hu, rfl⟩ := settle_give_eq_ok_iff.mp hr
    exact (ih hu).reverse
  | both left right ihl ihr =>
    obtain ⟨u, v, hu, hv, rfl⟩ := settle_both_eq_ok_iff.mp hr
    exact (ihl hu).join (ihr hv)
  | foreign leaf => cases hr

/-! ## Runs -/

theorem follow_cons_of_settle {r : Settlement F} (h : c.settle t = .ok r) :
    c.follow (t :: schedule) =
      ⟨(t, r) :: (r.residual.follow schedule).stops, (r.residual.follow schedule).fault⟩ := by
  rw [follow, h]

theorem follow_cons_of_fault {fault : SettlementFault F} (h : c.settle t = .error fault) :
    c.follow (t :: schedule) = ⟨[], some fault⟩ := by
  rw [follow, h]

/-- A run depends on its contract only through the settlement on the first day. -/
theorem follow_cons_congr {a b : Contract F} (h : a.settle t = b.settle t) :
    a.follow (t :: schedule) = b.follow (t :: schedule) := by
  rw [follow, follow, h]

/-- A contract passes the days on which it is idle unchanged. -/
theorem follow_of_idle (idle : ∀ t ∈ schedule, c.IsIdle t) :
    c.follow schedule = ⟨schedule.map (·, ⟨[], c⟩), none⟩ := by
  induction schedule with
  | nil => rfl
  | cons day schedule ih =>
    have first : c.settle day = .ok ⟨[], c⟩ := idle day List.mem_cons_self
    rw [follow_cons_of_settle first, ih fun t ht => idle t (List.mem_cons_of_mem day ht)]
    rfl

/-- **Residuals are settled.** The residual of a settlement can be settled again on every day up to
    that of the settlement. It pays nothing then and stays as it is, and so it does on any number of
    such days in any order. -/
theorem settle_residual_eq_self {r : Settlement F} (hr : c.settle t = .ok r) :
    (∀ s, s ≤ t → r.residual.settle s = .ok ⟨[], r.residual⟩) ∧
      ∀ schedule : List Date, (∀ s ∈ schedule, s ≤ t) →
        r.residual.follow schedule = ⟨schedule.map (·, ⟨[], r.residual⟩), none⟩ :=
  ⟨fun _ order => isIdle_residual order hr,
    fun _ early => follow_of_idle fun s hs => isIdle_residual (early s hs) hr⟩

/-- A payment of nothing, a payment of one pound, and a foreign leaf that is never reached. -/
theorem settle_residual_eq_self_of_foreign_leaf :
    (both (multiple ⟨⟨true, 0, 5⟩⟩ (one .eur))
        (both (give (later ⟨2021, 5, 3, by decide⟩ (foreign ())))
          (multiple ⟨⟨false, 100, -2⟩⟩ (later ⟨2021, 5, 1, by decide⟩ (one .gbp))))).settle
            ⟨2021, 5, 2, by decide⟩ =
        .ok ⟨[⟨.long, ⟨⟨true, 0, 5⟩⟩, .eur⟩, ⟨.long, ⟨⟨false, 100, -2⟩⟩, .gbp⟩],
          give (later ⟨2021, 5, 3, by decide⟩ (foreign ()))⟩ ∧
      (give (later ⟨2021, 5, 3, by decide⟩ (foreign ()))).settle ⟨2021, 5, 1, by decide⟩ =
        .ok ⟨[], give (later ⟨2021, 5, 3, by decide⟩ (foreign ()))⟩ ∧
      (give (later ⟨2021, 5, 3, by decide⟩ (foreign ()))).follow
          [⟨2021, 5, 2, by decide⟩, ⟨2021, 5, 1, by decide⟩] =
        ⟨[(⟨2021, 5, 2, by decide⟩, ⟨[], give (later ⟨2021, 5, 3, by decide⟩ (foreign ()))⟩),
          (⟨2021, 5, 1, by decide⟩, ⟨[], give (later ⟨2021, 5, 3, by decide⟩ (foreign ()))⟩)],
          none⟩ := by
  have settled : (both (multiple ⟨⟨true, 0, 5⟩⟩ (one .eur))
      (both (give (later ⟨2021, 5, 3, by decide⟩ (foreign ())))
        (multiple ⟨⟨false, 100, -2⟩⟩ (later ⟨2021, 5, 1, by decide⟩ (one .gbp))))).settle
          ⟨2021, 5, 2, by decide⟩ =
      .ok ⟨[⟨.long, ⟨⟨true, 0, 5⟩⟩, .eur⟩, ⟨.long, ⟨⟨false, 100, -2⟩⟩, .gbp⟩],
        give (later ⟨2021, 5, 3, by decide⟩ (foreign ()))⟩ := by
    decide +kernel
  obtain ⟨again, along⟩ := settle_residual_eq_self settled
  exact ⟨settled, again _ (by decide), along [_, _] (by decide)⟩

end TermSheet.Contract

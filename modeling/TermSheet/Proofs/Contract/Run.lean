import TermSheet.Proofs.Calendar.Order
import TermSheet.Proofs.Contract.Idle
import TermSheet.Proofs.Decimal.Value

/-!
# Runs of composite contracts

A run of what a builder gives is made from the runs of its parts: two contracts at once run side by
side, a contract seen from the other side has every stop turned round, a scaled contract has every
stop multiplied, up to the first stop at which a product overflows, and a contract that is put off
waits and then runs like the contract inside. This holds for all contracts and for days in any
order, because a builder that drops something on the way still settles like the variant it stands
for.

Results:
* `follow_through`: a builder that acts on one settlement acts on every stop of a run.
* `follow_reverse`, `follow_scale`, `follow_join`, `follow_defer`: the runs of the builders.
* `follow_eq_follow_parts`: all four together.
-/

namespace TermSheet

variable {F : Type}

/-! ## Settlements of composite contracts -/

namespace Settlement

/-- The settlement of a contract seen from the other side. -/
def reversed (s : Settlement F) : Settlement F :=
  ⟨s.payments.map Payment.inverted, s.residual.reverse⟩

/-- The settlement of a scaled contract, or the first product that overflows. -/
def scaled (factor : Amount) (s : Settlement F) : Except (SettlementFault F) (Settlement F) := do
  return ⟨← s.payments.mapM (Payment.scaledOrFault factor), s.residual.scale factor⟩

/-- The settlement of two contracts at once. -/
def joined (s u : Settlement F) : Settlement F :=
  ⟨s.payments ++ u.payments, s.residual.join u.residual⟩

theorem residual_of_scaled {k : Amount} {s u : Settlement F} (h : s.scaled k = .ok u) :
    u.residual = s.residual.scale k := by
  obtain ⟨ps, -, hu⟩ := bind_eq_ok_iff.mp h
  cases hu
  rfl

end Settlement

namespace Contract

theorem settle_multiple (k : Amount) (c : Contract F) (t : Date) :
    (multiple k c).settle t = c.settle t >>= Settlement.scaled k := rfl

theorem settle_give (c : Contract F) (t : Date) :
    (give c).settle t = c.settle t >>= fun s => .ok s.reversed := rfl

theorem settle_both (a b : Contract F) (t : Date) :
    (both a b).settle t = a.settle t >>= fun s => b.settle t >>= fun u => .ok (s.joined u) := rfl

theorem settle_reverse_eq (c : Contract F) (t : Date) :
    (reverse c).settle t = c.settle t >>= fun s => .ok s.reversed := by
  rw [settle_reverse, settle_give]

theorem settle_scale_eq {k : Amount} (hz : k.isZero = false) (ho : k.isOne = false)
    (c : Contract F) (t : Date) : (scale k c).settle t = c.settle t >>= Settlement.scaled k := by
  rw [settle_scale hz ho, settle_multiple]

theorem settle_join_eq (a b : Contract F) (t : Date) :
    (join a b).settle t = a.settle t >>= fun s => b.settle t >>= fun u => .ok (s.joined u) := by
  rw [settle_join, settle_both]

end Contract

/-! ## Runs from runs -/

namespace Run

/-- A run of which every settlement goes through one more step. It ends early where the step
    fails. -/
def through (step : Settlement F → Except (SettlementFault F) (Settlement F)) (run : Run F) :
    Run F :=
  run.stops.foldr (fun (day, s) rest =>
    match step s with
    | .error fault => ⟨[], some fault⟩
    | .ok u => ⟨(day, u) :: rest.stops, rest.fault⟩) ⟨[], run.fault⟩

/-- Two runs side by side, up to the day on which one of them ends early. When both do, the fault is
    that of the first one. -/
def beside (r u : Run F) : Run F where
  stops := List.zipWith (fun x y => (x.1, x.2.joined y.2)) r.stops u.stops
  fault := if u.stops.length < r.stops.length then u.fault else r.fault

section Through

variable {step : Settlement F → Except (SettlementFault F) (Settlement F)} {day : Date}
  {s u : Settlement F} {stops : List (Date × Settlement F)} {ending : Option (SettlementFault F)}

theorem through_cons_of_ok (h : step s = .ok u) :
    (⟨(day, s) :: stops, ending⟩ : Run F).through step =
      ⟨(day, u) :: ((⟨stops, ending⟩ : Run F).through step).stops,
        ((⟨stops, ending⟩ : Run F).through step).fault⟩ := by
  rw [through, List.foldr_cons]
  simp only [h]
  rfl

theorem through_cons_of_error {fault : SettlementFault F} (h : step s = .error fault) :
    (⟨(day, s) :: stops, ending⟩ : Run F).through step = ⟨[], some fault⟩ := by
  rw [through, List.foldr_cons]
  simp only [h]

/-- A step that never fails changes the stops one by one. -/
theorem through_ok (f : Settlement F → Settlement F) (run : Run F) :
    run.through (fun s => .ok (f s)) =
      ⟨run.stops.map fun (day, s) => (day, f s), run.fault⟩ := by
  obtain ⟨stops, ending⟩ := run
  induction stops with
  | nil => rfl
  | cons stop stops ih =>
    obtain ⟨day, s⟩ := stop
    rw [through_cons_of_ok (s := s) (u := f s) rfl, ih]
    rfl

end Through

end Run

namespace Contract

/-! ## Runs of builders -/

/-- What a builder does to one settlement it does to every stop of a run. -/
theorem follow_through {build : Contract F → Contract F}
    {step : Settlement F → Except (SettlementFault F) (Settlement F)}
    (settles : ∀ c t, (build c).settle t = c.settle t >>= step)
    (leaves : ∀ {s u}, step s = .ok u → u.residual = build s.residual) (c : Contract F)
    (schedule : List Date) : (build c).follow schedule = (c.follow schedule).through step := by
  induction schedule generalizing c with
  | nil => rfl
  | cons day schedule ih =>
    have built := settles c day
    cases hc : c.settle day with
    | error fault =>
      rw [hc] at built
      rw [follow_cons_of_fault hc, follow_cons_of_fault built]
      rfl
    | ok s =>
      rw [hc] at built
      rw [follow_cons_of_settle hc]
      cases hs : step s with
      | error fault =>
        rw [follow_cons_of_fault (built.trans hs), Run.through_cons_of_error hs]
      | ok u =>
        rw [follow_cons_of_settle (built.trans hs), Run.through_cons_of_ok hs, leaves hs, ih]

theorem follow_reverse (c : Contract F) (schedule : List Date) :
    (reverse c).follow schedule =
      ⟨(c.follow schedule).stops.map fun (day, s) => (day, s.reversed),
        (c.follow schedule).fault⟩ := by
  have leaves {s u : Settlement F} (h : Except.ok (ε := SettlementFault F) s.reversed = .ok u) :
      u.residual = s.residual.reverse := by
    cases h
    rfl
  rw [follow_through settle_reverse_eq leaves, Run.through_ok]

theorem follow_scale {k : Amount} (hz : k.isZero = false) (ho : k.isOne = false)
    (c : Contract F) (schedule : List Date) :
    (scale k c).follow schedule = (c.follow schedule).through (Settlement.scaled k) :=
  follow_through (settle_scale_eq hz ho) Settlement.residual_of_scaled c schedule

theorem follow_join (a b : Contract F) (schedule : List Date) :
    (join a b).follow schedule = (a.follow schedule).beside (b.follow schedule) := by
  induction schedule generalizing a b with
  | nil => rfl
  | cons day schedule ih =>
    have joined := settle_join_eq a b day
    cases ha : a.settle day with
    | error fault =>
      rw [ha] at joined
      rw [follow_cons_of_fault joined, follow_cons_of_fault ha]
      rfl
    | ok s =>
      rw [ha] at joined
      cases hb : b.settle day with
      | error fault =>
        rw [hb] at joined
        rw [follow_cons_of_fault joined, follow_cons_of_settle ha, follow_cons_of_fault hb]
        rfl
      | ok u =>
        rw [hb] at joined
        have rest := ih s.residual u.residual
        rw [follow_cons_of_settle joined, follow_cons_of_settle ha, follow_cons_of_settle hb]
        simp only [Settlement.joined, rest, Run.beside, List.zipWith_cons_cons, List.length_cons,
          Nat.add_lt_add_iff_right]

/-- Up to its day a contract that is put off waits, and from then on it is the contract inside. -/
theorem follow_defer (d : Date) (c : Contract F) (schedule : List Date) :
    (defer d c).follow schedule =
      ⟨(schedule.takeWhile (· < d)).map (·, ⟨[], defer d c⟩) ++
          (c.follow (schedule.dropWhile (· < d))).stops,
        (c.follow (schedule.dropWhile (· < d))).fault⟩ := by
  induction schedule with
  | nil => rfl
  | cons day schedule ih =>
    by_cases early : day < d
    · have waits : (defer d c).settle day = .ok ⟨[], defer d c⟩ :=
        isIdle_defer (Date.not_le_iff_lt.mpr early) c
      rw [follow_cons_of_settle waits, List.takeWhile_cons_of_pos (by simpa using early),
        List.dropWhile_cons_of_pos (by simpa using early), ih]
      rfl
    · have wakes : (defer d c).settle day = c.settle day := by
        rw [settle_defer, if_pos (Date.le_of_not_lt early)]
      rw [follow_cons_congr wakes, List.takeWhile_cons_of_neg (by simpa using early),
        List.dropWhile_cons_of_neg (by simpa using early)]
      rfl

/-- **Runs of composite contracts.** Along any days, two contracts at once run side by side, and a
    contract seen from the other side runs like the contract with every stop turned round. A
    contract under a factor other than zero and one has every stop multiplied, and its run ends
    early only where that of the contract does or where a product overflows. A contract that is put
    off pays nothing and stays as it is up to the first day on which it is due, and then it runs
    like the contract inside. -/
theorem follow_eq_follow_parts (a b c : Contract F) (d : Date) {k : Amount} (hz : k.toRat ≠ 0)
    (ho : k.toRat ≠ 1) (schedule : List Date) :
    (join a b).follow schedule = (a.follow schedule).beside (b.follow schedule) ∧
      (reverse c).follow schedule =
        ⟨(c.follow schedule).stops.map fun (day, s) => (day, s.reversed),
          (c.follow schedule).fault⟩ ∧
      (scale k c).follow schedule = (c.follow schedule).through (Settlement.scaled k) ∧
      (defer d c).follow schedule =
        ⟨(schedule.takeWhile (· < d)).map (·, ⟨[], defer d c⟩) ++
            (c.follow (schedule.dropWhile (· < d))).stops,
          (c.follow (schedule.dropWhile (· < d))).fault⟩ := by
  have nonzero : k.isZero = false := by rwa [← Bool.not_eq_true, Amount.isZero_iff]
  have nonone : k.isOne = false := by rwa [← Bool.not_eq_true, Amount.isOne_iff]
  exact ⟨follow_join a b schedule, follow_reverse c schedule,
    follow_scale nonzero nonone c schedule, follow_defer d c schedule⟩

/-- Days that run backwards, a foreign leaf that becomes due, and a product that overflows after one
    that does not. -/
theorem follow_eq_follow_parts_of_faults :
    (⟨⟨false, 1, 999999⟩⟩ : Amount).toRat ≠ 0 ∧ (⟨⟨false, 1, 999999⟩⟩ : Amount).toRat ≠ 1 ∧
    (join (later ⟨2021, 5, 3, by decide⟩ (foreign ())) (one .eur)).follow
        [⟨2021, 5, 2, by decide⟩, ⟨2021, 5, 1, by decide⟩, ⟨2021, 5, 3, by decide⟩] =
      ⟨[(⟨2021, 5, 2, by decide⟩,
          ⟨[⟨.long, .unit, .eur⟩], later ⟨2021, 5, 3, by decide⟩ (foreign ())⟩),
        (⟨2021, 5, 1, by decide⟩, ⟨[], later ⟨2021, 5, 3, by decide⟩ (foreign ())⟩)],
        some (.foreign ())⟩ ∧
    (scale ⟨⟨false, 1, 999999⟩⟩ (both (one .gbp) (later ⟨2021, 5, 3, by decide⟩
        (multiple ⟨⟨false, 10, 0⟩⟩ (one .usd)))) : Contract Unit).follow
        [⟨2021, 5, 2, by decide⟩, ⟨2021, 5, 1, by decide⟩, ⟨2021, 5, 3, by decide⟩] =
      ⟨[(⟨2021, 5, 2, by decide⟩, ⟨[⟨.long, ⟨⟨false, 1, 999999⟩⟩, .gbp⟩],
          multiple ⟨⟨false, 1, 999999⟩⟩ (later ⟨2021, 5, 3, by decide⟩
            (multiple ⟨⟨false, 10, 0⟩⟩ (one .usd)))⟩),
        (⟨2021, 5, 1, by decide⟩, ⟨[],
          multiple ⟨⟨false, 1, 999999⟩⟩ (later ⟨2021, 5, 3, by decide⟩
            (multiple ⟨⟨false, 10, 0⟩⟩ (one .usd)))⟩)],
        some (.overflow ⟨⟨false, 1, 999999⟩⟩ ⟨⟨false, 10, 0⟩⟩)⟩ := by
  have hz : (⟨⟨false, 1, 999999⟩⟩ : Amount).toRat ≠ 0 := mt Amount.isZero_iff.mpr (by decide)
  have ho : (⟨⟨false, 1, 999999⟩⟩ : Amount).toRat ≠ 1 :=
    mt Amount.isOne_iff.mpr (by decide +kernel)
  obtain ⟨joined, -, scaled, -⟩ := follow_eq_follow_parts
    (later ⟨2021, 5, 3, by decide⟩ (foreign ())) (one .eur)
    (both (one .gbp) (later ⟨2021, 5, 3, by decide⟩ (multiple ⟨⟨false, 10, 0⟩⟩ (one .usd))))
    ⟨2021, 5, 3, by decide⟩ hz ho
    [⟨2021, 5, 2, by decide⟩, ⟨2021, 5, 1, by decide⟩, ⟨2021, 5, 3, by decide⟩]
  exact ⟨hz, ho, joined.trans (by decide +kernel), scaled.trans (by decide +kernel)⟩

end Contract

end TermSheet

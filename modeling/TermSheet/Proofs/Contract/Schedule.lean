import TermSheet.Proofs.Contract.Flow
import TermSheet.Proofs.Contract.Idle

/-!
# Looking at a contract again and again

How often a contract is settled between two days does not matter. A run along a schedule reaches its
end exactly when the contract can be settled on the last day at once; the last residual is then the
residual of that settlement, and the payments of all days are its payments in another order, in
which those of one day keep theirs.

Results:
* `exists_settle_iff_exists_settle_twice`, `interleaves_payments`: one day in between.
* `fault_follow_eq_none_iff`, `reaches_follow`: a whole schedule, by induction over its days.
* `follow_eq_settle_last`: both for the contracts that the builders make.
-/

namespace TermSheet

/-! ## Shuffles of lists -/

section Merging

variable {α β : Type}

/-- The third list is made of the first two, and the entries of each keep their order. -/
inductive Interleaves : List α → List α → List α → Prop
  | nil : Interleaves [] [] []
  | left (x : α) {xs ys zs : List α} : Interleaves xs ys zs → Interleaves (x :: xs) ys (x :: zs)
  | right (y : α) {xs ys zs : List α} : Interleaves xs ys zs → Interleaves xs (y :: ys) (y :: zs)

namespace Interleaves

theorem perm {xs ys zs : List α} (h : Interleaves xs ys zs) : (xs ++ ys).Perm zs := by
  induction h with
  | nil => exact .refl []
  | left x _ ih => exact ih.cons x
  | right y _ ih => exact List.perm_middle.trans (ih.cons y)

theorem mem_iff {xs ys zs : List α} (h : Interleaves xs ys zs) {x : α} :
    x ∈ zs ↔ x ∈ xs ∨ x ∈ ys := by
  rw [← h.perm.mem_iff, List.mem_append]

theorem filterMap {xs ys zs : List α} (h : Interleaves xs ys zs) (f : α → Option β) :
    Interleaves (xs.filterMap f) (ys.filterMap f) (zs.filterMap f) := by
  induction h with
  | nil => exact .nil
  | left x _ ih =>
    simp only [List.filterMap_cons]
    cases f x with
    | none => exact ih
    | some b => exact .left b ih
  | right y _ ih =>
    simp only [List.filterMap_cons]
    cases f y with
    | none => exact ih
    | some b => exact .right b ih

/-- A list with nothing is the list. -/
theorem refl_left (xs : List α) : Interleaves xs [] xs := by
  induction xs with
  | nil => exact .nil
  | cons x xs ih => exact .left x ih

/-- What passes a test and what does not are together the list. -/
theorem of_filter (p : α → Bool) (xs : List α) :
    Interleaves (xs.filter p) (xs.filter fun x => !p x) xs := by
  induction xs with
  | nil => exact .nil
  | cons x xs ih =>
    cases hx : p x with
    | true =>
      rw [List.filter_cons_of_pos hx, List.filter_cons_of_neg (by simp [hx])]
      exact .left x ih
    | false =>
      rw [List.filter_cons_of_neg (by simp [hx]), List.filter_cons_of_pos (by simp [hx])]
      exact .right x ih

end Interleaves

/-- The list is made of several parts, and the entries of each part keep their order. -/
inductive Shuffles : List (List α) → List α → Prop
  | nil : Shuffles [] []
  | cons {xs ys zs : List α} {parts : List (List α)} :
    Interleaves xs ys zs → Shuffles parts ys → Shuffles (xs :: parts) zs

namespace Shuffles

theorem perm {parts : List (List α)} {xs : List α} (h : Shuffles parts xs) :
    parts.flatten.Perm xs := by
  induction h with
  | nil => exact .refl []
  | @cons xs _ _ _ first _ ih => exact (ih.append_left xs).trans first.perm

theorem singleton (xs : List α) : Shuffles [xs] xs := .cons (.refl_left xs) .nil

end Shuffles

end Merging

namespace Contract

variable {F : Type} {c : Contract F} {d e last : Date} {schedule : List Date}

/-! ## One day in between -/

/-- What is due on a later day was due before or is due of what was outstanding. -/
theorem interleaves_dueFlows (h : c.IsNormal) (order : d ≤ e) :
    Interleaves (c.flowsWhere d true) ((c.outstanding d).flowsWhere e true)
      (c.flowsWhere e true) := by
  -- Split what is due on the later day by whether it was due on the earlier one.
  have early : (c.flowsWhere e true).filter (fun f => decide (f.IsDue d)) =
      c.flowsWhere d true := by
    rw [flowsWhere, List.filter_filter, flowsWhere]
    apply List.filter_congr
    intro f _
    have step : f.IsDue d → f.IsDue e := fun due => due.mono order
    by_cases due : f.IsDue d
    · simp [due, step due]
    · simp [due]
  have late : (c.flowsWhere e true).filter (fun f => !decide (f.IsDue d)) =
      (c.outstanding d).flowsWhere e true := by
    rw [flowsWhere, List.filter_filter, flowsWhere, flows_outstanding h, flowsWhere,
      List.filter_filter]
    apply List.filter_congr
    intro f _
    rw [Bool.and_comm, beq_false]
  rw [← early, ← late]
  exact .of_filter _ _

theorem exists_settle_iff_exists_settle_twice (hn : c.IsNormal) (hw : c.IsWhole) (order : d ≤ e) :
    (∃ s, c.settle e = .ok s) ↔ ∃ r, c.settle d = .ok r ∧ ∃ s, r.residual.settle e = .ok s := by
  have split : (∀ f ∈ c.flowsWhere e true, f.amount?.isSome) ↔
      (∀ f ∈ c.flowsWhere d true, f.amount?.isSome) ∧
        ∀ f ∈ (c.outstanding d).flowsWhere e true, f.amount?.isSome := by
    simp only [(interleaves_dueFlows hn order).mem_iff, or_imp, forall_and]
  rw [exists_settle_iff_flows hw, split, ← exists_settle_iff_flows hw,
    ← exists_settle_iff_flows (hw.outstanding d)]
  constructor
  · rintro ⟨⟨r, hr⟩, rest⟩
    exact ⟨r, hr, by rwa [residual_eq_outstanding hr]⟩
  · rintro ⟨r, hr, rest⟩
    exact ⟨⟨r, hr⟩, by rwa [residual_eq_outstanding hr] at rest⟩

/-- The payments of one settlement are those of an earlier one and those of its residual. -/
theorem interleaves_payments (hn : c.IsNormal) (hw : c.IsWhole) (order : d ≤ e)
    {r s u : Settlement F} (hr : c.settle d = .ok r) (hu : r.residual.settle e = .ok u)
    (hs : c.settle e = .ok s) : Interleaves r.payments u.payments s.payments := by
  rw [residual_eq_outstanding hr] at hu
  have first := eq_filterMap_of_map_some_eq ((settle_eq_ok_iff_flows hw).mp hr).1
  have second := eq_filterMap_of_map_some_eq
    ((settle_eq_ok_iff_flows (hw.outstanding d)).mp hu).1
  have atOnce := eq_filterMap_of_map_some_eq ((settle_eq_ok_iff_flows hw).mp hs).1
  rw [first, second, atOnce]
  exact (interleaves_dueFlows hn order).filterMap Flow.payment?

/-- The residual of one settlement is the residual of an earlier one's residual. -/
theorem residual_eq_of_settle_twice (order : d ≤ e) {r s u : Settlement F}
    (hr : c.settle d = .ok r) (hu : r.residual.settle e = .ok u) (hs : c.settle e = .ok s) :
    u.residual = s.residual := by
  rw [residual_eq_outstanding hu, residual_eq_outstanding hr, residual_eq_outstanding hs,
    outstanding_outstanding order]

/-! ## Runs -/

theorem fault_follow_cons_eq_none_iff :
    (c.follow (d :: schedule)).fault = none ↔
      ∃ s, c.settle d = .ok s ∧ (s.residual.follow schedule).fault = none := by
  rw [follow]
  cases c.settle d with
  | error fault => simp
  | ok s => simp

theorem IsNormal.residual (h : c.IsNormal) {s : Settlement F} (hs : c.settle d = .ok s) :
    s.residual.IsNormal := by
  rw [residual_eq_outstanding hs]
  exact h.outstanding d

theorem IsWhole.residual (h : c.IsWhole) {s : Settlement F} (hs : c.settle d = .ok s) :
    s.residual.IsWhole := by
  rw [residual_eq_outstanding hs]
  exact h.outstanding d

/-- A run reaches its end exactly when the contract can be settled on the last day at once. -/
theorem fault_follow_eq_none_iff (hn : c.IsNormal) (hw : c.IsWhole)
    (rising : schedule.Pairwise (· ≤ ·)) (ends : schedule.getLast? = some last) :
    (c.follow schedule).fault = none ↔ ∃ s, c.settle last = .ok s := by
  induction schedule generalizing c with
  | nil => cases ends
  | cons day rest ih =>
    rw [fault_follow_cons_eq_none_iff]
    cases rest with
    | nil =>
      cases ends
      exact exists_congr fun s => and_iff_left rfl
    | cons next rest =>
      -- The first day is one in between, and the others are a schedule for its residual.
      rw [List.getLast?_cons_cons] at ends
      rw [exists_settle_iff_exists_settle_twice hn hw (Date.le_of_getLast?_eq_some rising ends)]
      refine exists_congr fun r => and_congr_right fun hr => ?_
      exact ih (hn.residual hr) (hw.residual hr) rising.of_cons ends

/-- A run that pays what a settlement pays, on the days of the schedule, and leaves what it
    leaves. -/
structure Reaches (run : Run F) (schedule : List Date) (s : Settlement F) : Prop where
  days : run.stops.map (·.1) = schedule
  residual : run.stops.getLast?.map (·.2.residual) = some s.residual
  payments : Shuffles (run.stops.map (·.2.payments)) s.payments

/-- One more day in front of a run. -/
theorem Reaches.cons {r s u : Settlement F} {run : Run F} (h : Reaches run schedule u)
    (payments : Interleaves r.payments u.payments s.payments) (residual : u.residual = s.residual) :
    Reaches ⟨(d, r) :: run.stops, run.fault⟩ (d :: schedule) s := by
  refine ⟨congrArg (d :: ·) h.days, ?_, .cons payments h.payments⟩
  have nonempty : run.stops ≠ [] := by
    intro none
    have final := h.residual
    rw [none] at final
    cases final
  rw [List.getLast?_cons_of_ne_nil nonempty, h.residual, residual]

theorem reaches_follow (hn : c.IsNormal) (hw : c.IsWhole) (rising : schedule.Pairwise (· ≤ ·))
    (ends : schedule.getLast? = some last) {s : Settlement F} (hs : c.settle last = .ok s) :
    Reaches (c.follow schedule) schedule s := by
  induction schedule generalizing c s with
  | nil => cases ends
  | cons day rest ih =>
    cases rest with
    | nil =>
      obtain rfl : day = last := Option.some.inj ends
      rw [follow_cons_of_settle hs]
      exact ⟨rfl, rfl, .singleton s.payments⟩
    | cons next rest =>
      rw [List.getLast?_cons_cons] at ends
      have order := Date.le_of_getLast?_eq_some rising ends
      obtain ⟨r, hr, u, hu⟩ := (exists_settle_iff_exists_settle_twice hn hw order).mp ⟨s, hs⟩
      rw [follow_cons_of_settle hr]
      have later := ih (hn.residual hr) (hw.residual hr) rising.of_cons ends hu
      exact later.cons (interleaves_payments hn hw order hr hu hs)
        (residual_eq_of_settle_twice order hr hu hs)

/-- **Schedules.** Along days that do not run backwards, a contract made with the builders can be
    followed to the end exactly when it can be settled on the last day at once. Then there is a stop
    on every day, the last residual is the residual of that settlement, and its payments are those
    of all stops, the payments of each stop in their order. -/
theorem follow_eq_settle_last (h : Built c) (rising : schedule.Pairwise (· ≤ ·))
    (ends : schedule.getLast? = some last) :
    ((c.follow schedule).fault = none ↔ ∃ s, c.settle last = .ok s) ∧
      ∀ s, c.settle last = .ok s →
        (c.follow schedule).stops.map (·.1) = schedule ∧
        (c.follow schedule).stops.getLast?.map (·.2.residual) = some s.residual ∧
        ((c.follow schedule).stops.flatMap (·.2.payments)).Perm s.payments ∧
        Shuffles ((c.follow schedule).stops.map (·.2.payments)) s.payments := by
  refine ⟨fault_follow_eq_none_iff h.isNormal h.isWhole rising ends, fun s hs => ?_⟩
  obtain ⟨days, residual, payments⟩ := reaches_follow h.isNormal h.isWhole rising ends hs
  refine ⟨days, residual, ?_, payments⟩
  rw [List.flatMap_def]
  exact payments.perm

/-- A bond is paid on the last day, although it stands in front of what is paid on the first. -/
theorem follow_eq_settle_last_of_bond_and_unit :
    ((join (bond ⟨2021, 5, 3, by decide⟩ ⟨⟨false, 250, -2⟩⟩ .eur) (one .gbp) :
        Contract Empty).follow
          [⟨2021, 5, 1, by decide⟩, ⟨2021, 5, 1, by decide⟩, ⟨2021, 5, 3, by decide⟩]).fault =
        none ∧
      Shuffles (α := Payment) [[⟨.long, .unit, .gbp⟩], [], [⟨.long, ⟨⟨false, 250, -2⟩⟩, .eur⟩]]
        [⟨.long, ⟨⟨false, 250, -2⟩⟩, .eur⟩, ⟨.long, .unit, .gbp⟩] := by
  have built : Built (join (bond ⟨2021, 5, 3, by decide⟩ ⟨⟨false, 250, -2⟩⟩ .eur) (one .gbp) :
      Contract Empty) := .join (.bond _ _ _) (.one _)
  have rising : ([⟨2021, 5, 1, by decide⟩, ⟨2021, 5, 1, by decide⟩, ⟨2021, 5, 3, by decide⟩] :
      List Date).Pairwise (· ≤ ·) := by decide
  obtain ⟨ended, reached⟩ := follow_eq_settle_last built rising rfl
  have atOnce : (join (bond ⟨2021, 5, 3, by decide⟩ ⟨⟨false, 250, -2⟩⟩ .eur) (one .gbp) :
      Contract Empty).settle ⟨2021, 5, 3, by decide⟩ =
        .ok ⟨[⟨.long, ⟨⟨false, 250, -2⟩⟩, .eur⟩, ⟨.long, .unit, .gbp⟩], zero⟩ := by
    decide +kernel
  obtain ⟨-, -, -, payments⟩ := reached _ atOnce
  have stops : ((join (bond ⟨2021, 5, 3, by decide⟩ ⟨⟨false, 250, -2⟩⟩ .eur) (one .gbp) :
      Contract Empty).follow
        [⟨2021, 5, 1, by decide⟩, ⟨2021, 5, 1, by decide⟩, ⟨2021, 5, 3, by decide⟩]).stops.map
          (·.2.payments) =
      [[⟨.long, .unit, .gbp⟩], [], [⟨.long, ⟨⟨false, 250, -2⟩⟩, .eur⟩]] := by
    decide +kernel
  rw [stops] at payments
  exact ⟨ended.mpr ⟨_, atOnce⟩, payments⟩

end Contract

end TermSheet

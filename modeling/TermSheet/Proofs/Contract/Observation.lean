import TermSheet.Proofs.Contract.Run

/-!
# What can be seen of a contract

An observer who follows a contract along chosen days, in any order, sees what is paid on each day
and whether the run ends early. Two contracts that no observer can tell apart are observably equal.
They need not be the same term, and their residuals may keep different shapes for the whole run. To
show that they are observably equal it is enough to give a bisimulation: a relation between
contracts that settle alike on every day, with residuals that are related again.

Results:
* `observablyEqual_of_bisimulation`: related contracts are observably equal.
* `observablyEqual_of_settle_eq_or_idle`: contracts that settle to the same on every day, except
  for days on which neither of them does anything.
* `reverse_reverse`, `reverse_join`, `scale_join`, `reverse_scale`, `join_join`: builders pass
  through each other.
* `defer_join`, `defer_reverse`, `defer_scale`, `defer_defer`: a day passes through all builders.
* `builders_observablyEqual`: the laws together.
-/

namespace TermSheet

variable {F : Type}

/-! ## Products of payments -/

theorem Payment.scaledOrFault_inverted (k : Amount) (p : Payment) :
    p.inverted.scaledOrFault (F := F) k =
      p.scaledOrFault (F := F) k >>= fun q => .ok q.inverted := by
  have amount : p.inverted.amount = p.amount := rfl
  rw [scaledOrFault, scaledOrFault, scaled?, scaled?, amount]
  cases k.mul? p.amount <;> rfl

/-- Payments can be turned round before or after they are multiplied. -/
theorem Payment.mapM_scaledOrFault_inverted (k : Amount) (ps : List Payment) :
    (ps.map inverted).mapM (scaledOrFault (F := F) k) =
      ps.mapM (scaledOrFault (F := F) k) >>= fun qs => .ok (qs.map inverted) := by
  induction ps with
  | nil => rfl
  | cons p ps ih =>
    rw [List.map_cons, List.mapM_cons, List.mapM_cons, scaledOrFault_inverted, ih]
    simp only [bind_assoc, ok_bind]
    rfl

theorem Settlement.scaled_reversed (k : Amount) (s : Settlement F) :
    s.reversed.scaled k =
      s.payments.mapM (Payment.scaledOrFault k) >>= fun ps =>
        .ok ⟨ps.map Payment.inverted, s.residual.reverse.scale k⟩ := by
  rw [scaled, reversed, Payment.mapM_scaledOrFault_inverted, bind_assoc]
  rfl

/-- The payments on the left are multiplied first. -/
theorem Settlement.scaled_joined (k : Amount) (s u : Settlement F) :
    (s.joined u).scaled k =
      s.payments.mapM (Payment.scaledOrFault k) >>= fun ps =>
        u.payments.mapM (Payment.scaledOrFault k) >>= fun qs =>
          .ok ⟨ps ++ qs, (s.residual.join u.residual).scale k⟩ := by
  rw [scaled, joined, List.mapM_append]
  simp only [bind_assoc]
  rfl

/-! ## Observations -/

/-- What can be seen of a run: the payments of each stop, and whether it ended early. -/
def Run.seen (run : Run F) : List (Date × List Payment) × Bool :=
  (run.stops.map fun (day, s) => (day, s.payments), run.fault.isSome)

namespace Contract

variable {a b : Contract F} {R : Contract F → Contract F → Prop}

/-- On every list of days the same can be seen of the two contracts. -/
def ObservablyEqual (a b : Contract F) : Prop :=
  ∀ schedule : List Date, (a.follow schedule).seen = (b.follow schedule).seen

theorem ObservablyEqual.refl (c : Contract F) : c.ObservablyEqual c := fun _ => rfl

/-- Two attempts to settle a contract that cannot be told apart on the day and that leave related
    contracts. Faults are not compared. -/
inductive Alike (R : Contract F → Contract F → Prop) :
    Except (SettlementFault F) (Settlement F) → Except (SettlementFault F) (Settlement F) → Prop
  | settled {s u : Settlement F} (payments : s.payments = u.payments)
    (residual : R s.residual u.residual) : Alike R (.ok s) (.ok u)
  | failed (f g : SettlementFault F) : Alike R (.error f) (.error g)

theorem Alike.refl (related : ∀ c, R c c)
    (x : Except (SettlementFault F) (Settlement F)) : Alike R x x := by
  cases x with
  | error fault => exact .failed fault fault
  | ok s => exact .settled rfl (related s.residual)

/-- The same computation in front, whatever it computes. -/
theorem Alike.bind {α : Type} {x : Except (SettlementFault F) α}
    {f g : α → Except (SettlementFault F) (Settlement F)} (h : ∀ p, Alike R (f p) (g p)) :
    Alike R (x >>= f) (x >>= g) := by
  cases x with
  | error fault => exact .failed fault fault
  | ok p => exact h p

/-- Which of two computations comes first matters only for the fault that is met. -/
theorem Alike.bind_swap {α β : Type} {x : Except (SettlementFault F) α}
    {y : Except (SettlementFault F) β}
    {f g : α → β → Except (SettlementFault F) (Settlement F)}
    (h : ∀ p q, Alike R (f p q) (g p q)) :
    Alike R (x >>= fun p => y >>= f p) (y >>= fun q => x >>= fun p => g p q) := by
  cases x with
  | error fault =>
    cases y with
    | error other => exact .failed fault other
    | ok q => exact .failed fault fault
  | ok p => exact .bind (h p)

/-- Related contracts settle alike on every day. -/
def IsBisimulation (R : Contract F → Contract F → Prop) : Prop :=
  ∀ a b, R a b → ∀ t, Alike R (a.settle t) (b.settle t)

/-- By induction over the days: what is related stays related until the runs end. -/
theorem observablyEqual_of_bisimulation (bisimulation : IsBisimulation R) (related : R a b) :
    a.ObservablyEqual b := by
  intro schedule
  induction schedule generalizing a b with
  | nil => rfl
  | cons day schedule ih =>
    have alike := bisimulation a b related day
    generalize ha : a.settle day = x at alike
    generalize hb : b.settle day = y at alike
    cases alike with
    | failed f g =>
      rw [follow_cons_of_fault ha, follow_cons_of_fault hb]
      rfl
    | settled payments residual =>
      have rest := ih residual
      rw [follow_cons_of_settle ha, follow_cons_of_settle hb]
      simp only [Run.seen, Prod.mk.injEq] at rest ⊢
      simp only [List.map_cons, payments, rest.1, rest.2, and_self]

/-- Two families of contracts whose members with one index settle alike, and leave members with one
    index again. -/
theorem observablyEqual_of_families {ι : Type} (f g : ι → Contract F)
    (alike : ∀ i t, Alike (fun x y => ∃ j, x = f j ∧ y = g j) ((f i).settle t) ((g i).settle t))
    (i : ι) : (f i).ObservablyEqual (g i) := by
  have bisimulation : IsBisimulation fun x y => ∃ j, x = f j ∧ y = g j := by
    rintro x y ⟨j, rfl, rfl⟩ t
    exact alike j t
  exact observablyEqual_of_bisimulation bisimulation ⟨i, rfl, rfl⟩

/-- Contracts that settle to the same on every day, unless neither has anything to do. -/
theorem observablyEqual_of_settle_eq_or_idle
    (h : ∀ t, a.settle t = b.settle t ∨ a.IsIdle t ∧ b.IsIdle t) : a.ObservablyEqual b := by
  -- The two contracts stay what they are until they settle to the same; then the rest is the same.
  have bisimulation : IsBisimulation fun x y => x = a ∧ y = b ∨ x = y := by
    rintro x y (⟨rfl, rfl⟩ | rfl) t
    · rcases h t with same | ⟨hx, hy⟩
      · rw [same]
        exact .refl (fun _ => Or.inr rfl) _
      · rw [hx, hy]
        exact .settled rfl (Or.inl ⟨rfl, rfl⟩)
    · exact .refl (fun _ => Or.inr rfl) _
  exact observablyEqual_of_bisimulation bisimulation (Or.inl ⟨rfl, rfl⟩)

/-! ## Builders that pass through each other -/

/-- A factor drops every contract, keeps every contract, or is neither zero nor one. -/
theorem scale_trivial_or (k : Amount) :
    (∀ c : Contract F, scale k c = zero) ∨ (∀ c : Contract F, scale k c = c) ∨
      k.isZero = false ∧ k.isOne = false := by
  cases hz : k.isZero with
  | true => exact Or.inl (scale_of_isZero hz)
  | false =>
    cases ho : k.isOne with
    | true => exact Or.inr (Or.inl (scale_of_isOne ho))
    | false => exact Or.inr (Or.inr ⟨rfl, rfl⟩)

theorem reverse_reverse (c : Contract F) : (reverse (reverse c)).ObservablyEqual c := by
  refine observablyEqual_of_families (fun c => reverse (reverse c)) id (fun c t => ?_) c
  rw [settle_reverse_eq, settle_reverse_eq, bind_assoc, id]
  conv => rhs; rw [← bind_pure (c.settle t)]
  refine .bind fun s => .settled ?_ ⟨s.residual, rfl, rfl⟩
  simp [Settlement.reversed, Function.comp_def]

theorem reverse_join (a b : Contract F) :
    (reverse (join a b)).ObservablyEqual (join (reverse a) (reverse b)) := by
  refine observablyEqual_of_families (fun x => reverse (join x.1 x.2))
    (fun x => join (reverse x.1) (reverse x.2)) (fun (a, b) t => ?_) (a, b)
  rw [settle_reverse_eq, settle_join_eq, settle_join_eq, settle_reverse_eq, settle_reverse_eq]
  simp only [bind_assoc, ok_bind]
  exact .bind fun s => .bind fun u =>
    .settled List.map_append ⟨(s.residual, u.residual), rfl, rfl⟩

theorem join_join (a b c : Contract F) :
    (join (join a b) c).ObservablyEqual (join a (join b c)) := by
  refine observablyEqual_of_families (fun x => join (join x.1 x.2.1) x.2.2)
    (fun x => join x.1 (join x.2.1 x.2.2)) (fun (a, b, c) t => ?_) (a, b, c)
  rw [settle_join_eq, settle_join_eq, settle_join_eq, settle_join_eq]
  simp only [bind_assoc, ok_bind]
  exact .bind fun s => .bind fun u => .bind fun v =>
    .settled (List.append_assoc _ _ _) ⟨(s.residual, u.residual, v.residual), rfl, rfl⟩

theorem scale_join (k : Amount) (a b : Contract F) :
    (scale k (join a b)).ObservablyEqual (join (scale k a) (scale k b)) := by
  rcases scale_trivial_or (F := F) k with drops | keeps | ⟨hz, ho⟩
  · rw [drops, drops, drops]
    exact .refl zero
  · rw [keeps, keeps, keeps]
    exact .refl (join a b)
  · refine observablyEqual_of_families (fun x => scale k (join x.1 x.2))
      (fun x => join (scale k x.1) (scale k x.2)) (fun (a, b) t => ?_) (a, b)
    rw [settle_scale_eq hz ho, settle_join_eq, settle_join_eq, settle_scale_eq hz ho,
      settle_scale_eq hz ho]
    simp only [bind_assoc, ok_bind, Settlement.scaled_joined]
    simp only [Settlement.scaled, bind_assoc, pure_bind]
    -- A product on the left may overflow before a fault on the right is met.
    exact .bind fun s => .bind_swap fun u ps => .bind fun qs =>
      .settled rfl ⟨(s.residual, u.residual), rfl, rfl⟩

theorem reverse_scale (k : Amount) (c : Contract F) :
    (reverse (scale k c)).ObservablyEqual (scale k (reverse c)) := by
  rcases scale_trivial_or (F := F) k with drops | keeps | ⟨hz, ho⟩
  · rw [drops, drops]
    exact .refl zero
  · rw [keeps, keeps]
    exact .refl (reverse c)
  · refine observablyEqual_of_families (fun c => reverse (scale k c))
      (fun c => scale k (reverse c)) (fun c t => ?_) c
    rw [settle_reverse_eq, settle_scale_eq hz ho, settle_scale_eq hz ho, settle_reverse_eq]
    simp only [bind_assoc, ok_bind, Settlement.scaled_reversed]
    simp only [Settlement.scaled, bind_assoc, pure_bind]
    exact .bind fun s => .bind fun ps => .settled rfl ⟨s.residual, rfl, rfl⟩

/-! ## Days that pass through builders -/

theorem defer_join (d : Date) (a b : Contract F) :
    (defer d (join a b)).ObservablyEqual (join (defer d a) (defer d b)) := by
  refine observablyEqual_of_settle_eq_or_idle fun t => ?_
  by_cases due : d ≤ t
  · refine Or.inl ?_
    rw [settle_defer, if_pos due, settle_join_eq, settle_join_eq, settle_defer, settle_defer,
      if_pos due, if_pos due]
  · exact Or.inr ⟨isIdle_defer due _, (isIdle_defer due a).join (isIdle_defer due b)⟩

theorem defer_reverse (d : Date) (c : Contract F) :
    (defer d (reverse c)).ObservablyEqual (reverse (defer d c)) := by
  refine observablyEqual_of_settle_eq_or_idle fun t => ?_
  by_cases due : d ≤ t
  · refine Or.inl ?_
    rw [settle_defer, if_pos due, settle_reverse_eq, settle_reverse_eq, settle_defer, if_pos due]
  · exact Or.inr ⟨isIdle_defer due _, (isIdle_defer due c).reverse⟩

theorem defer_scale (d : Date) (k : Amount) (c : Contract F) :
    (defer d (scale k c)).ObservablyEqual (scale k (defer d c)) := by
  rcases scale_trivial_or (F := F) k with drops | keeps | ⟨hz, ho⟩
  · rw [drops, drops]
    exact .refl zero
  · rw [keeps, keeps]
    exact .refl (defer d c)
  · refine observablyEqual_of_settle_eq_or_idle fun t => ?_
    by_cases due : d ≤ t
    · refine Or.inl ?_
      rw [settle_defer, if_pos due, settle_scale_eq hz ho, settle_scale_eq hz ho, settle_defer,
        if_pos due]
    · exact Or.inr ⟨isIdle_defer due _, (isIdle_defer due c).scale k⟩

/-- When only the outer day has come, the inner one is the later of the two. -/
theorem defer_defer (d e : Date) (c : Contract F) :
    (defer d (defer e c)).ObservablyEqual (defer (max d e) c) := by
  refine observablyEqual_of_settle_eq_or_idle fun t => ?_
  by_cases outer : d ≤ t
  · refine Or.inl ?_
    rw [settle_defer, if_pos outer]
    by_cases inner : e ≤ t
    · rw [settle_defer, if_pos inner, settle_defer, if_pos (Date.max_le_iff.mpr ⟨outer, inner⟩)]
    · have order : d ≤ e :=
        Date.le_trans outer (Nat.le_of_lt (Date.not_le_iff_lt.mp inner))
      rw [Date.max_eq_right order]
  · exact Or.inr ⟨isIdle_defer outer _,
      isIdle_defer (fun come => outer (Date.max_le_iff.mp come).1) c⟩

/-- **Contract algebra.** Along no days can an observer tell these pairs apart: turning round twice
    does nothing; turning round, multiplying and putting off pass through two contracts at once and
    through each other; of two days the later one counts; and contracts held at once can be
    regrouped. -/
theorem builders_observablyEqual (a b c : Contract F) (d e : Date) (k : Amount) :
    (reverse (reverse c)).ObservablyEqual c ∧
      (reverse (join a b)).ObservablyEqual (join (reverse a) (reverse b)) ∧
      (scale k (join a b)).ObservablyEqual (join (scale k a) (scale k b)) ∧
      (reverse (scale k c)).ObservablyEqual (scale k (reverse c)) ∧
      (defer d (join a b)).ObservablyEqual (join (defer d a) (defer d b)) ∧
      (defer d (reverse c)).ObservablyEqual (reverse (defer d c)) ∧
      (defer d (scale k c)).ObservablyEqual (scale k (defer d c)) ∧
      (defer d (defer e c)).ObservablyEqual (defer (max d e) c) ∧
      (join (join a b) c).ObservablyEqual (join a (join b c)) :=
  ⟨reverse_reverse c, reverse_join a b, scale_join k a b, reverse_scale k c, defer_join d a b,
    defer_reverse d c, defer_scale d k c, defer_defer d e c, join_join a b c⟩

end Contract

end TermSheet

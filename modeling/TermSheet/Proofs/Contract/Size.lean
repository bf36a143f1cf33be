import TermSheet.Proofs.Contract.Idle
import TermSheet.Proofs.Contract.Outstanding

/-!
# Residuals shrink

A residual is the contract itself or smaller than it, with one exception: a unit of a currency
becomes the empty contract, and both have one node. The exception goes away when the empty contract
is not counted. In this measure a residual other than the contract always weighs less, so a run
along any days has at most as many changes as its contract has nodes.

Results:
* `weight_scale_le`, `weight_reverse_le`, `weight_join_le`: a builder adds one node at most.
* `outstanding_eq_self_or_weight_lt`: what is outstanding is the contract itself or weighs less.
* `changes_follow_le_weight`: every change along a run takes weight away.
* `size_residual_and_changes_le`: the same in numbers of nodes.
-/

namespace TermSheet

/-- How many entries of a list are not like the one before them, where a given entry comes before
    the first. -/
def changes {α : Type} (alike : α → α → Bool) : α → List α → Nat
  | _, [] => 0
  | last, next :: rest => (if alike next last then 0 else 1) + changes alike next rest

/-- The residuals along a run. -/
def Run.residuals {F : Type} (run : Run F) : List (Contract F) := run.stops.map (·.2.residual)

namespace Contract

variable {F : Type} {c : Contract F} {t : Date}

/-! ## Weight -/

/-- The number of nodes, where the empty contract alone counts for nothing. -/
def weight : Contract F → Nat
  | zero => 0
  | c => c.size

@[simp] theorem weight_zero : (zero : Contract F).weight = 0 := rfl

theorem weight_eq_size (h : c ≠ zero) : c.weight = c.size := by
  cases c with
  | zero => exact absurd rfl h
  | _ => rfl

theorem weight_multiple (k : Amount) (c : Contract F) : (multiple k c).weight = 1 + c.size := rfl

theorem weight_later (d : Date) (c : Contract F) : (later d c).weight = 1 + c.size := rfl

theorem weight_give (c : Contract F) : (give c).weight = 1 + c.size := rfl

theorem weight_both (a b : Contract F) : (both a b).weight = 1 + a.size + b.size := rfl

theorem weight_le_size (c : Contract F) : c.weight ≤ c.size := by
  by_cases empty : c = zero
  · rw [empty, weight_zero]
    exact Nat.zero_le _
  · exact Nat.le_of_eq (weight_eq_size empty)

/-! ## Builders -/

theorem weight_scale_le (k : Amount) (c : Contract F) : (scale k c).weight ≤ 1 + c.weight := by
  refine scale_induction (P := (·.weight ≤ 1 + c.weight)) (Nat.zero_le _) (Nat.le_add_left _ _) ?_
  intro _ _ hc
  exact Nat.le_of_eq (by rw [weight_multiple, weight_eq_size hc])

theorem weight_reverse_le (c : Contract F) : (reverse c).weight ≤ 1 + c.weight := by
  rcases reverse_cases c with rfl | ⟨hc, hr⟩
  · exact Nat.zero_le _
  · exact Nat.le_of_eq (by rw [hr, weight_give, weight_eq_size hc])

theorem weight_join_le (a b : Contract F) : (join a b).weight ≤ 1 + a.weight + b.weight := by
  refine join_induction (P := (·.weight ≤ 1 + a.weight + b.weight)) (by omega) (by omega) ?_
  intro ha hb
  exact Nat.le_of_eq (by rw [weight_both, weight_eq_size ha, weight_eq_size hb])

theorem weight_le_of_eq_or_lt {a b : Contract F} (h : a = b ∨ a.weight < b.weight) :
    a.weight ≤ b.weight := by
  rcases h with rfl | lighter
  · exact Nat.le_refl _
  · exact Nat.le_of_lt lighter

/-- A builder gives its variant or something lighter. -/
theorem scale_eq_multiple_or_weight_lt (k : Amount) (c : Contract F) :
    scale k c = multiple k c ∨ (scale k c).weight < (multiple k c).weight := by
  have inside := weight_le_size c
  rw [weight_multiple]
  refine scale_induction (P := fun r => r = multiple k c ∨ r.weight < 1 + c.size) (Or.inr ?_)
    (Or.inr (by omega)) fun _ _ _ => Or.inl rfl
  rw [weight_zero]
  omega

theorem reverse_eq_give_or_weight_lt (c : Contract F) :
    reverse c = give c ∨ (reverse c).weight < (give c).weight := by
  rcases reverse_cases c with rfl | ⟨-, hr⟩
  · exact Or.inr Nat.zero_lt_two
  · exact Or.inl hr

theorem join_eq_both_or_weight_lt (a b : Contract F) :
    join a b = both a b ∨ (join a b).weight < (both a b).weight := by
  have left := weight_le_size a
  have right := weight_le_size b
  rw [weight_both]
  exact join_induction (P := fun r => r = both a b ∨ r.weight < 1 + a.size + b.size)
    (Or.inr (by omega)) (Or.inr (by omega)) fun _ _ => Or.inl rfl

/-! ## What is outstanding -/

/-- What is outstanding on a day is the contract itself or weighs less. When a part weighs less, so
    does the whole, because the builder adds no more to the part than the variant did. -/
theorem outstanding_eq_self_or_weight_lt (t : Date) (c : Contract F) :
    c.outstanding t = c ∨ (c.outstanding t).weight < c.weight := by
  induction c with
  | zero => exact Or.inl rfl
  | one currency => exact Or.inr Nat.zero_lt_one
  | multiple factor inner ih =>
    rw [outstanding]
    rcases ih with same | lighter
    · rw [same]
      exact scale_eq_multiple_or_weight_lt factor inner
    · have built := weight_scale_le factor (inner.outstanding t)
      have part := weight_le_size inner
      exact Or.inr (by rw [weight_multiple]; omega)
  | later date inner ih =>
    rw [outstanding]
    split
    · -- Once its day has come, the variant itself is gone.
      have part := weight_le_size inner
      have kept := weight_le_of_eq_or_lt ih
      exact Or.inr (by rw [weight_later]; omega)
    · exact Or.inl rfl
  | give inner ih =>
    rw [outstanding]
    rcases ih with same | lighter
    · rw [same]
      exact reverse_eq_give_or_weight_lt inner
    · have built := weight_reverse_le (inner.outstanding t)
      have part := weight_le_size inner
      exact Or.inr (by rw [weight_give]; omega)
  | both left right ihl ihr =>
    rw [outstanding]
    have built := weight_join_le (left.outstanding t) (right.outstanding t)
    have partLeft := weight_le_size left
    have partRight := weight_le_size right
    rcases ihl with sameLeft | lighterLeft
    · rw [sameLeft] at built ⊢
      rcases ihr with sameRight | lighterRight
      · rw [sameRight]
        exact join_eq_both_or_weight_lt left right
      · exact Or.inr (by rw [weight_both]; omega)
    · have kept := weight_le_of_eq_or_lt ihr
      exact Or.inr (by rw [weight_both]; omega)
  | foreign leaf => exact Or.inl rfl

/-- Only the change from a unit of a currency to the empty contract leaves the number of nodes as it
    is. -/
theorem size_lt_or_eq_one {s : Settlement F} (h : c.settle t = .ok s)
    (lighter : s.residual.weight < c.weight) :
    s.residual.size < c.size ∨ ∃ currency, c = one currency ∧ s.residual = zero := by
  have part := weight_le_size c
  by_cases empty : s.residual = zero
  · cases c with
    | zero => exact absurd lighter (Nat.not_lt_zero _)
    | one currency => exact Or.inr ⟨currency, rfl, empty⟩
    | foreign leaf => cases h
    | multiple _ inner | later _ inner | give inner =>
      have := size_pos inner
      exact Or.inl (by rw [empty, size, size]; omega)
    | both left right =>
      have := size_pos left
      exact Or.inl (by rw [empty, size, size]; omega)
  · rw [weight_eq_size empty] at lighter
    exact Or.inl (by omega)

theorem residual_eq_self_or_weight_lt {s : Settlement F} (h : c.settle t = .ok s) :
    s.residual = c ∨ s.residual.weight < c.weight := by
  rw [residual_eq_outstanding h]
  exact outstanding_eq_self_or_weight_lt t c

/-! ## Runs -/

/-- Every change along a run takes weight away. -/
theorem changes_follow_le_weight {alike : Contract F → Contract F → Bool}
    (refl : ∀ c, alike c c = true) (c : Contract F) (schedule : List Date) :
    changes alike c (c.follow schedule).residuals ≤ c.weight := by
  induction schedule generalizing c with
  | nil => exact Nat.zero_le _
  | cons day schedule ih =>
    cases settled : c.settle day with
    | error fault =>
      rw [follow_cons_of_fault settled]
      exact Nat.zero_le _
    | ok s =>
      rw [follow_cons_of_settle settled]
      have rest := ih s.residual
      rcases residual_eq_self_or_weight_lt settled with same | lighter
      · rw [same] at rest ⊢
        simpa [changes, Run.residuals, same, refl c] using rest
      · have step : (if alike s.residual c then 0 else 1) ≤ 1 := by split <;> omega
        simp only [changes, Run.residuals, List.map_cons] at rest ⊢
        omega

/-- **Residuals shrink.** A residual never has more nodes than its contract. One that is not the
    contract itself, however contracts are compared, has fewer, unless the contract is a unit of a
    currency and nothing is left of it. Along any days the residual changes at most as often as the
    contract has nodes. -/
theorem size_residual_and_changes_le {alike : Contract F → Contract F → Bool}
    (refl : ∀ c, alike c c = true) (c : Contract F) :
    (∀ t s, c.settle t = .ok s → s.residual.size ≤ c.size ∧
      (alike s.residual c = false →
        s.residual.size < c.size ∨ ∃ currency, c = one currency ∧ s.residual = zero)) ∧
      ∀ schedule, changes alike c (c.follow schedule).residuals ≤ c.size := by
  refine ⟨fun t s settled => ?_, fun schedule => ?_⟩
  · rcases residual_eq_self_or_weight_lt settled with same | lighter
    · refine ⟨Nat.le_of_eq (by rw [same]), fun other => ?_⟩
      rw [same, refl] at other
      cases other
    · have smaller := size_lt_or_eq_one settled lighter
      refine ⟨?_, fun _ => smaller⟩
      rcases smaller with less | ⟨currency, rfl, nothing⟩
      · exact Nat.le_of_lt less
      · rw [nothing]
        exact Nat.le_refl _
  · exact Nat.le_trans (changes_follow_le_weight refl c schedule) (weight_le_size c)

/-- A factor of one in front of a unit that waits, and a unit. Along three days, of which the second
    comes before the first, the residual changes twice. -/
theorem size_residual_and_changes_le_of_unit_factor :
    let waiting : Contract Empty := later ⟨2021, 5, 3, by decide⟩ (one .eur)
    let c := both (multiple ⟨⟨false, 100, -2⟩⟩ waiting) (one .gbp)
    let days : List Date :=
      [⟨2021, 5, 2, by decide⟩, ⟨2021, 5, 1, by decide⟩, ⟨2021, 5, 3, by decide⟩]
    (∀ c : Contract Empty, c.same (fun _ _ => true) c = true) ∧
      c.settle ⟨2021, 5, 2, by decide⟩ = .ok ⟨[⟨.long, .unit, .gbp⟩], waiting⟩ ∧
      waiting.size < c.size ∧
      changes (same fun _ _ => true) c (c.follow days).residuals = 2 ∧ 2 ≤ c.size := by
  intro waiting c days
  have refl : ∀ c : Contract Empty, c.same (fun _ _ => true) c = true := same_refl fun _ => rfl
  have settled : c.settle ⟨2021, 5, 2, by decide⟩ = .ok ⟨[⟨.long, .unit, .gbp⟩], waiting⟩ := by
    decide +kernel
  have count : changes (same fun _ _ => true) c (c.follow days).residuals = 2 := by decide +kernel
  obtain ⟨once, along⟩ := size_residual_and_changes_le refl c
  have bound := along days
  rw [count] at bound
  rcases (once _ _ settled).2 rfl with smaller | ⟨_, single, _⟩
  · exact ⟨refl, settled, smaller, count, bound⟩
  · simp only [c, reduceCtorEq] at single

end Contract

end TermSheet

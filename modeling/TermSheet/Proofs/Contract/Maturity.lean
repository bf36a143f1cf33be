import TermSheet.Proofs.Contract.Normal

/-!
# When a contract is finished

A contract is finished when nothing is left of it. Once the last of its days has come, everything in
it is due, and builders make nothing out of nothing. Before that, a day that has not come keeps the
contract under it. Builders hand this on to the root: a factor other than zero, a change of sides
and a second contract leave something of what is not empty. In a normal contract every day stands
over something, so it is finished exactly when its last day has come.

Results:
* `scale_eq_zero_iff`, `reverse_eq_zero_iff`, `join_eq_zero_iff`: when a builder gives nothing.
* `outstanding_eq_zero_of_matured`: nothing is left of a whole contract after its last day.
* `IsTight.matured_of_outstanding_eq_zero`: something is left of a normal contract before.
* `residual_eq_zero_iff_matured`: both for the residual of a settlement.
-/

namespace TermSheet.Contract

variable {F : Type} {t : Date}

/-- The days on which anything in a contract is put off, from left to right. -/
def days : Contract F → List Date
  | zero | one _ | foreign _ => []
  | multiple _ inner | give inner => inner.days
  | later date inner => date :: inner.days
  | both left right => left.days ++ right.days

/-- The last day of a contract has come. -/
def IsMatured (t : Date) (c : Contract F) : Prop := ∀ d ∈ c.days, d ≤ t

instance (t : Date) (c : Contract F) : Decidable (c.IsMatured t) :=
  inferInstanceAs (Decidable (∀ d ∈ c.days, d ≤ t))

theorem isMatured_later_iff {d : Date} {c : Contract F} :
    (later d c).IsMatured t ↔ d ≤ t ∧ c.IsMatured t := by
  unfold IsMatured
  rw [days, List.forall_mem_cons]

theorem isMatured_both_iff {a b : Contract F} :
    (both a b).IsMatured t ↔ a.IsMatured t ∧ b.IsMatured t := by
  unfold IsMatured
  rw [days, List.forall_mem_append]

/-! ## When a builder gives nothing -/

theorem scale_eq_zero_iff {k : Amount} (hz : k.isZero = false) {c : Contract F} :
    scale k c = zero ↔ c = zero := by
  constructor
  · intro nothing
    rcases scale_cases k c with h | h | h | ⟨-, -, -, h⟩
    · rw [hz] at h
      cases h
    · rwa [scale_of_isOne h] at nothing
    · exact h
    · rw [h] at nothing
      cases nothing
  · rintro rfl
    exact scale_zero k

theorem reverse_eq_zero_iff {c : Contract F} : reverse c = zero ↔ c = zero := by
  constructor
  · intro nothing
    rcases reverse_cases c with h | ⟨-, h⟩
    · exact h
    · rw [h] at nothing
      cases nothing
  · rintro rfl
    exact reverse_zero

theorem join_eq_zero_iff {a b : Contract F} : join a b = zero ↔ a = zero ∧ b = zero := by
  constructor
  · intro nothing
    rcases join_cases a b with rfl | rfl | ⟨-, -, h⟩
    · exact ⟨rfl, nothing⟩
    · rw [join_zero] at nothing
      exact ⟨nothing, rfl⟩
    · rw [h] at nothing
      cases nothing
  · rintro ⟨rfl, rfl⟩
    exact zero_join zero

/-! ## What is outstanding -/

/-- Nothing is left of a contract without foreign leaves after its last day. -/
theorem outstanding_eq_zero_of_matured {c : Contract F} (whole : c.IsWhole)
    (matured : c.IsMatured t) : c.outstanding t = zero := by
  induction c with
  | zero => rfl
  | one currency => rfl
  | multiple factor inner ih => rw [outstanding, ih whole matured, scale_zero]
  | later date inner ih =>
    obtain ⟨come, inside⟩ := isMatured_later_iff.mp matured
    rw [outstanding, if_pos come, ih whole inside]
  | give inner ih => rw [outstanding, ih whole matured, reverse_zero]
  | both left right ihl ihr =>
    obtain ⟨hl, hr⟩ := isWhole_both_iff.mp whole
    obtain ⟨ml, mr⟩ := isMatured_both_iff.mp matured
    rw [outstanding, ihl hl ml, ihr hr mr, zero_join]
  | foreign leaf => cases whole

/-- The induction is on the contract. A day that has not come leaves the contract under it, and the
    layers above it drop nothing, because no factor is zero. -/
theorem IsTight.matured_of_outstanding_eq_zero {c : Contract F} (tight : c.IsTight)
    (nothing : c.outstanding t = zero) : c.IsMatured t := by
  induction c with
  | zero => exact absurd rfl tight.ne_zero
  | one currency =>
    intro d hd
    cases hd
  | multiple factor inner ih =>
    obtain ⟨hz, -, hi⟩ := isTight_multiple_iff.mp tight
    exact ih hi ((scale_eq_zero_iff hz).mp nothing)
  | later date inner ih =>
    rw [Contract.outstanding] at nothing
    by_cases come : date ≤ t
    · rw [if_pos come] at nothing
      exact isMatured_later_iff.mpr ⟨come, ih tight nothing⟩
    · rw [if_neg come] at nothing
      cases nothing
  | give inner ih => exact ih tight (reverse_eq_zero_iff.mp nothing)
  | both left right ihl ihr =>
    obtain ⟨hl, hr⟩ := join_eq_zero_iff.mp nothing
    exact isMatured_both_iff.mpr ⟨ihl tight.1 hl, ihr tight.2 hr⟩
  | foreign leaf => cases nothing

theorem IsNormal.matured_of_outstanding_eq_zero {c : Contract F} (normal : c.IsNormal)
    (nothing : c.outstanding t = zero) : c.IsMatured t := by
  rcases normal with rfl | tight
  · intro d hd
    cases hd
  · exact tight.matured_of_outstanding_eq_zero nothing

/-- **Maturity.** The residual of a contract made with the builders is empty exactly when all days
    in the contract have come. When they have, nothing is left of any other contract without foreign
    leaves either. -/
theorem residual_eq_zero_iff_matured {c : Contract F} {s : Settlement F}
    (settled : c.settle t = .ok s) :
    (Built c → (s.residual = zero ↔ c.IsMatured t)) ∧
      (c.IsWhole → c.IsMatured t → s.residual = zero) := by
  rw [residual_eq_outstanding settled]
  refine ⟨fun built => ⟨?_, ?_⟩, outstanding_eq_zero_of_matured⟩
  · exact built.isNormal.matured_of_outstanding_eq_zero
  · exact outstanding_eq_zero_of_matured built.isWhole

/-- Two bonds, of which the earlier one is turned round and put off: when it is paid, the other one
    is left. A contract that pays nothing is finished on its last day too. -/
theorem residual_eq_zero_iff_matured_of_two_bonds :
    let late : Contract Empty := bond ⟨2021, 5, 3, by decide⟩ ⟨⟨false, 250, -2⟩⟩ .eur
    let c : Contract Empty := join late
      (defer ⟨2021, 5, 2, by decide⟩ (reverse (bond ⟨2021, 5, 1, by decide⟩ ⟨⟨true, 3, 0⟩⟩ .gbp)))
    let raw : Contract Empty := multiple ⟨⟨true, 0, 5⟩⟩ (later ⟨2021, 5, 2, by decide⟩ (one .usd))
    Built c ∧
      c.settle ⟨2021, 5, 2, by decide⟩ = .ok ⟨[⟨.short, ⟨⟨true, 3, 0⟩⟩, .gbp⟩], late⟩ ∧
      ¬ c.IsMatured ⟨2021, 5, 2, by decide⟩ ∧ late ≠ zero ∧
      (∃ s, c.settle ⟨2021, 5, 3, by decide⟩ = .ok s ∧ s.residual = zero) ∧
      ∃ s, raw.settle ⟨2021, 5, 2, by decide⟩ = .ok s ∧ s.residual = zero := by
  intro late c raw
  have built : Built c := .join (.bond _ _ _) (.defer _ (.reverse (.bond _ _ _)))
  have first : c.settle ⟨2021, 5, 2, by decide⟩ =
      .ok ⟨[⟨.short, ⟨⟨true, 3, 0⟩⟩, .gbp⟩], late⟩ := by decide +kernel
  have second : c.settle ⟨2021, 5, 3, by decide⟩ =
      .ok ⟨[⟨.long, ⟨⟨false, 250, -2⟩⟩, .eur⟩, ⟨.short, ⟨⟨true, 3, 0⟩⟩, .gbp⟩], zero⟩ := by
    decide +kernel
  have free : raw.settle ⟨2021, 5, 2, by decide⟩ =
      .ok ⟨[⟨.long, ⟨⟨true, 0, 5⟩⟩, .usd⟩], zero⟩ := by decide +kernel
  have waiting : ¬ c.IsMatured ⟨2021, 5, 2, by decide⟩ := by decide +kernel
  exact ⟨built, first, waiting, mt ((residual_eq_zero_iff_matured first).1 built).mp waiting,
    ⟨_, second, ((residual_eq_zero_iff_matured second).1 built).mpr (by decide +kernel)⟩,
    ⟨_, free, (residual_eq_zero_iff_matured free).2 rfl (by decide +kernel)⟩⟩

end TermSheet.Contract

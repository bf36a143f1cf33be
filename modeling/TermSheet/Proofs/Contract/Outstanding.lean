import TermSheet.Calendar.Schedule
import TermSheet.Proofs.Contract.Settlement

/-!
# What is outstanding

The residual of a contract does not depend on whether its payments can be computed:
`Contract.outstanding` gives it for every contract and every day. It passes through all builders,
so looking at a contract twice leaves what looking at it once, on the later day, leaves.

Results:
* `residual_eq_outstanding`: the residual of a settlement is what is outstanding.
* `outstanding_scale`, `outstanding_defer`, `outstanding_reverse`, `outstanding_join`: the builders.
* `outstanding_outstanding`: an earlier look does not change what a later one leaves.
-/

namespace TermSheet.Contract

variable {F : Type}

/-- What is left of a contract on a day, its payments left aside. -/
def outstanding (t : Date) : Contract F → Contract F
  | zero | one _ => zero
  | multiple factor inner => scale factor (inner.outstanding t)
  | later date inner => if date ≤ t then inner.outstanding t else later date inner
  | give inner => reverse (inner.outstanding t)
  | both left right => join (left.outstanding t) (right.outstanding t)
  | foreign leaf => foreign leaf

@[simp] theorem outstanding_zero (t : Date) : (zero : Contract F).outstanding t = zero := rfl

theorem residual_eq_outstanding {t : Date} {c : Contract F} {s : Settlement F}
    (h : c.settle t = .ok s) : s.residual = c.outstanding t := by
  induction c generalizing s with
  | zero => cases h; rfl
  | one currency => cases h; rfl
  | multiple factor inner ih =>
    obtain ⟨r, hr, -, residual⟩ := settle_multiple_eq_ok_iff.mp h
    rw [residual, ih hr, outstanding]
  | later date inner ih =>
    by_cases due : date ≤ t
    · rw [settle_later_of_le due] at h
      rw [outstanding, if_pos due, ih h]
    · rw [settle_later_of_lt due] at h
      cases h
      rw [outstanding, if_neg due]
  | give inner ih =>
    obtain ⟨r, hr, rfl⟩ := settle_give_eq_ok_iff.mp h
    rw [outstanding, ih hr]
  | both left right ihl ihr =>
    obtain ⟨r, u, hr, hu, rfl⟩ := settle_both_eq_ok_iff.mp h
    rw [outstanding, ihl hr, ihr hu]
  | foreign leaf => cases h

/-! ## Builders -/

theorem outstanding_scale (t : Date) (k : Amount) (c : Contract F) :
    (scale k c).outstanding t = scale k (c.outstanding t) := by
  rcases scale_cases k c with h | h | rfl | ⟨-, -, -, h⟩
  · rw [scale_of_isZero h, scale_of_isZero h, outstanding_zero]
  · rw [scale_of_isOne h, scale_of_isOne h]
  · rfl
  · rw [h, outstanding]

theorem outstanding_defer (t d : Date) (c : Contract F) :
    (defer d c).outstanding t = if d ≤ t then c.outstanding t else defer d c := by
  rcases defer_cases d c with rfl | ⟨-, h⟩
  · rw [defer_zero, outstanding_zero, ite_self]
  · rw [h, outstanding]

theorem outstanding_reverse (t : Date) (c : Contract F) :
    (reverse c).outstanding t = reverse (c.outstanding t) :=
  apply_reverse (outstanding t) rfl c

theorem outstanding_join (t : Date) (a b : Contract F) :
    (join a b).outstanding t = join (a.outstanding t) (b.outstanding t) :=
  apply_join (outstanding t) (fun b => zero_join (b.outstanding t))
    (fun a => join_zero (a.outstanding t)) a b

/-! ## Looking twice -/

theorem outstanding_outstanding {s t : Date} (h : s ≤ t) (c : Contract F) :
    (c.outstanding s).outstanding t = c.outstanding t := by
  induction c with
  | zero => rfl
  | one currency => rfl
  | multiple factor inner ih => rw [outstanding, outstanding_scale, ih, outstanding]
  | later date inner ih =>
    -- A day that has come before the earlier look has come before the later one.
    by_cases due : date ≤ s
    · rw [outstanding, if_pos due, ih, outstanding, if_pos (Date.le_trans due h)]
    · rw [outstanding, if_neg due]
  | give inner ih => rw [outstanding, outstanding_reverse, ih, outstanding]
  | both left right ihl ihr => rw [outstanding, outstanding_join, ihl, ihr, outstanding]
  | foreign leaf => rfl

end TermSheet.Contract

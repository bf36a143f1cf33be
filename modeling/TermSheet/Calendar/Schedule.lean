import TermSheet.Calendar.Date

/-!
# Schedules

A schedule is a list of days on which contracts are looked at. Time never runs backwards in it.

Results:
- `firstDecrease?_eq_none_iff`: there is no decrease exactly when no day is after a later entry.
- `Schedule.of?_days`: the days of a schedule make that schedule.
-/

namespace TermSheet

/-- The first two neighbours of which the second day is the earlier one. -/
def firstDecrease? : List Date → Option (Date × Date)
  | first :: second :: rest =>
    if second < first then some (first, second) else firstDecrease? (second :: rest)
  | _ => none

/-- Of two days one is not after the other. -/
theorem Date.le_of_not_lt {a b : Date} (h : ¬ b < a) : a ≤ b := Nat.le_of_not_lt h

theorem Date.not_lt_of_le {a b : Date} (h : a ≤ b) : ¬ b < a := Nat.not_lt_of_le h

theorem Date.le_trans {a b c : Date} (h : a ≤ b) (k : b ≤ c) : a ≤ c := Nat.le_trans h k

theorem firstDecrease?_eq_none_iff (days : List Date) :
    firstDecrease? days = none ↔ days.Pairwise (· ≤ ·) := by
  fun_induction firstDecrease? days with
  | case1 first second rest decrease =>
    simp only [List.pairwise_cons, reduceCtorEq, false_iff]
    exact fun h => Date.not_lt_of_le (h.1 second (by simp)) decrease
  | case2 first second rest rising ih =>
    rw [ih, List.pairwise_cons (a := first)]
    refine ⟨fun h => ⟨fun day member => ?_, h⟩, fun h => h.2⟩
    have step := Date.le_of_not_lt rising
    rcases List.mem_cons.1 member with rfl | later
    · exact step
    · exact Date.le_trans step ((List.pairwise_cons.1 h).1 day later)
  | case3 days short =>
    match days with
    | [] => simp
    | [_] => simp
    | first :: second :: rest => exact absurd rfl (short first second rest)

/-- Days of which none is after a later entry. -/
structure Schedule where
  days : List Date
  rising : days.Pairwise (· ≤ ·) := by decide
  deriving DecidableEq

namespace Schedule

/-- The schedule of a list of days, or its first decrease. -/
def of? (days : List Date) : Except (Date × Date) Schedule :=
  match h : firstDecrease? days with
  | some decrease => .error decrease
  | none => .ok ⟨days, (firstDecrease?_eq_none_iff days).1 h⟩

theorem of?_days (s : Schedule) : of? s.days = .ok s := by
  unfold of?
  split
  · rename_i decrease h
    rw [(firstDecrease?_eq_none_iff s.days).2 s.rising] at h
    cases h
  · rfl

end Schedule

end TermSheet

import TermSheet.Calendar.Schedule

/-!
# The order of days

Days are ordered by the eight digits they are written with. No two days have the same digits, so
this is a linear order, and of two days one is the later one.

Results:
* `Date.key_injective`: a day is determined by its digits.
* `Date.max_le_iff`: the later of two days has come when both have.
* `Date.takeWhile_lt_and_dropWhile_lt`: a day cuts a rising schedule in two.
-/

namespace TermSheet

theorem monthLength_le (year month : Nat) : monthLength year month ≤ 31 := by
  unfold monthLength
  split
  · split <;> omega
  · omega
  · omega
  · omega
  · omega
  · omega

namespace Date

/-- A month takes two digits and a day of it takes two, so the three numbers can be read off. -/
theorem key_injective {a b : Date} (h : a.key = b.key) : a = b := by
  obtain ⟨-, ⟨-, hm⟩, -, hd⟩ := a.isDay
  obtain ⟨-, ⟨-, hm'⟩, -, hd'⟩ := b.isDay
  have bound := monthLength_le a.year a.month
  have bound' := monthLength_le b.year b.month
  simp only [key] at h
  have hy : a.year = b.year := by omega
  have hmonth : a.month = b.month := by omega
  have hday : a.day = b.day := by omega
  cases a
  cases b
  simp_all

theorem le_iff_key_le {a b : Date} : a ≤ b ↔ a.key ≤ b.key := Iff.rfl

theorem not_le_iff_lt {a b : Date} : ¬ a ≤ b ↔ b < a := Nat.not_le

instance : Std.IsLinearOrder Date where
  le_refl a := Nat.le_refl a.key
  le_trans _ _ _ h k := Date.le_trans h k
  le_antisymm _ _ h k := key_injective (Nat.le_antisymm h k)
  le_total a b := Nat.le_total a.key b.key

/-- The later of two days. -/
instance : Max Date := ⟨fun a b => if a ≤ b then b else a⟩

theorem max_def (a b : Date) : max a b = if a ≤ b then b else a := rfl

instance : Std.LawfulOrderMax Date where
  max_eq_or a b := by
    rw [max_def]
    split
    · exact Or.inr rfl
    · exact Or.inl rfl
  max_le_iff a b c := by
    rw [max_def]
    split <;> simp only [le_iff_key_le] at * <;> omega

/-- The later of two days has come when both have. -/
theorem max_le_iff {a b c : Date} : max a b ≤ c ↔ a ≤ c ∧ b ≤ c := Std.max_le_iff

theorem max_eq_right {a b : Date} (h : a ≤ b) : max a b = b := if_pos h

/-- No day of a rising schedule is after its last. -/
theorem le_of_getLast?_eq_some {schedule : List Date} {day last : Date}
    (rising : (day :: schedule).Pairwise (· ≤ ·)) (ends : schedule.getLast? = some last) :
    day ≤ last :=
  (List.pairwise_cons.mp rising).1 last (List.mem_of_getLast? ends)

/-- Along a rising schedule, the days before a day come first, and all the others follow. -/
theorem takeWhile_lt_and_dropWhile_lt {schedule : List Date} (rising : schedule.Pairwise (· ≤ ·))
    (d : Date) :
    schedule.takeWhile (· < d) = schedule.filter (· < d) ∧
      schedule.dropWhile (· < d) = schedule.filter (d ≤ ·) := by
  induction schedule with
  | nil => exact ⟨rfl, rfl⟩
  | cons day rest ih =>
    obtain ⟨after, rest_rising⟩ := List.pairwise_cons.mp rising
    by_cases early : day < d
    · obtain ⟨taken, dropped⟩ := ih rest_rising
      have notYet : ¬ d ≤ day := not_le_iff_lt.mpr early
      simp only [List.takeWhile_cons, List.dropWhile_cons, List.filter_cons, early, notYet, taken,
        dropped, decide_true, decide_false, if_true, Bool.false_eq_true, if_false, and_self]
    · have come : d ≤ day := le_of_not_lt early
      have all_come : ∀ t ∈ day :: rest, d ≤ t := by
        rintro t (_ | ⟨_, ht⟩)
        · exact come
        · exact Date.le_trans come (after t ht)
      have none_early : (day :: rest).filter (· < d) = [] := by
        rw [List.filter_eq_nil_iff]
        intro t ht
        simpa using not_lt_of_le (all_come t ht)
      have kept : (day :: rest).filter (d ≤ ·) = day :: rest := by
        rw [List.filter_eq_self]
        simpa using all_come
      rw [none_early, kept, List.takeWhile_cons_of_neg (by simpa using early),
        List.dropWhile_cons_of_neg (by simpa using early)]
      exact ⟨rfl, rfl⟩

end Date

end TermSheet

import Mathlib.Data.List.Basic
import TermSheet.Text.Uppercase

/-!
# Capitals of ASCII texts

The tables of capitals hold all letters of all scripts. The ASCII letters are the first run of one
of them, and nothing else in them is ASCII, so a text whose ASCII capitals are ASCII has no other
capitals.

Results:
* `upperChar_of_ascii`: one character.
* `upper_eq_toUpper`: a text.
-/

namespace TermSheet.Text

/-- Of the runs of letters only the first one is ASCII. -/
theorem capitalRuns_eq_cons : ∃ runs, capitalRuns = (0x61, 0x7a, 1, -32) :: runs ∧
    ∀ run ∈ runs, 0x80 ≤ run.1 :=
  ⟨capitalRuns.tail, rfl, by decide +kernel⟩

theorem lookup_longCapitals_of_ascii {code : Nat} (h : code < 0x80) :
    longCapitals.lookup code = none := by
  have above : ∀ letter ∈ longCapitals, 0x80 ≤ letter.1 := by decide +kernel
  rw [List.lookup_eq_none_iff]
  intro letter mem
  exact bne_iff_ne.mpr (Nat.ne_of_lt (Nat.lt_of_lt_of_le h (above letter mem)))

theorem toUpper_of_ascii {c : Char} (h : c.toNat < 0x80) :
    c.toUpper = if 0x61 ≤ c.toNat ∧ c.toNat ≤ 0x7a then Char.ofNat (c.toNat - 32) else c := by
  have each : ∀ code < 0x80, (Char.ofNat code).toUpper =
      if 0x61 ≤ code ∧ code ≤ 0x7a then Char.ofNat (code - 32) else Char.ofNat code := by
    decide +kernel
  have this := each c.toNat h
  rwa [Char.ofNat_toNat] at this

theorem upperChar_of_ascii {c : Char} (h : c.toNat < 0x80) : upperChar c = [c.toUpper] := by
  obtain ⟨runs, first, above⟩ := capitalRuns_eq_cons
  rw [upperChar, lookup_longCapitals_of_ascii h, first, List.find?_cons, toUpper_of_ascii h]
  by_cases letter : 0x61 ≤ c.toNat ∧ c.toNat ≤ 0x7a
  · have code : ((c.toNat : Int) + -32).toNat = c.toNat - 32 := by omega
    simp [letter, code, Nat.mod_one]
  · have out : (decide (0x61 ≤ c.toNat) && decide (c.toNat ≤ 0x7a)) = false := by
      rw [← Bool.decide_and, decide_eq_false letter]
    rw [if_neg letter]
    simp only [out, Bool.false_and]
    -- The other runs lie above the character.
    rw [List.find?_eq_none.mpr]
    intro run mem
    have := above run mem
    simp only [Bool.and_eq_true, decide_eq_true_eq]
    omega

/-- Only ASCII letters are changed, so what is ASCII afterwards was so before. -/
theorem ascii_of_toUpper {c : Char} (h : c.toUpper.toNat < 0x80) : c.toNat < 0x80 := by
  unfold Char.toUpper at h
  split at h
  next letter => exact Nat.lt_of_le_of_lt (UInt32.le_iff_toNat_le.mp letter.2) (by decide)
  next => exact h

theorem upper_eq_toUpper {s : String} (h : ∀ c ∈ s.toUpper.toList, c.toNat < 0x80) :
    upper s = s.toUpper := by
  rw [String.toUpper, String.toList_map, List.forall_mem_map] at h
  have each : ∀ c ∈ s.toList, upperChar c = [c.toUpper] :=
    fun c mem => upperChar_of_ascii (ascii_of_toUpper (h c mem))
  apply String.toList_injective
  rw [upper, String.toList_ofList, String.toUpper, String.toList_map, List.flatMap_congr each,
    List.map_eq_flatMap]

end TermSheet.Text

import TermSheet.Proofs.Json.RoundTrip
import TermSheet.Proofs.Value.Logged

/-!
# Values with finite numbers

JSON has no numbers that are not finite, and a form for the log writes them by name. It holds the
floating-point numbers that stand as values of their own, also inside lists, tuples and mappings;
as a key of a mapping such a number is a text. So the form is that of a JSON text exactly when all
numbers that stand as values are finite.

Results:
* `isFinite_of_logForm`: the numbers of a form for the log are those of the value.
-/

namespace TermSheet.Value

mutual

/-- The floating-point numbers that go into a JSON form as numbers. -/
def floats : Value → List Binary64
  | float x => [x]
  | list items => floatsOfList items
  | tuple items => floatsOfList items
  | dict entries => floatsOfEntries entries
  | settlement ⟨_, residual⟩ => floatsOfResidual residual
  | _ => []

/-- The same for the items of a list. -/
def floatsOfList : List Value → List Binary64
  | [] => []
  | item :: items => floats item ++ floatsOfList items

/-- The same for the entries of a mapping. Its keys are texts. -/
def floatsOfEntries : List (Value × Value) → List Binary64
  | [] => []
  | (_, item) :: entries => floats item ++ floatsOfEntries entries

/-- The same for a residual, which is a value itself when it is a foreign leaf. -/
def floatsOfResidual : Contract Value → List Binary64
  | .foreign leaf => floats leaf
  | _ => []

end

/-- A value that is described is described by a text. -/
theorem exists_text_of_describe {v : Value} {j : Json} (h : describe v = .ok j) :
    ∃ s, j = .text s := by
  have plain (h : (v.plain.map Json.text).mapError JsonFault.unshowable = .ok j) :
      ∃ s, j = .text s := by
    cases shown : v.plain with
    | error fault =>
      rw [shown] at h
      cases h
    | ok s =>
      rw [shown] at h
      cases h
      exact ⟨s, rfl⟩
  cases v with
  | date d => cases h; exact ⟨_, rfl⟩
  | dateTime t => cases h; exact ⟨_, rfl⟩
  | _ => exact plain h

theorem isFinite_of_other {v : Value} {j : Json} (h : logged.other v = .ok j) :
    j.isFinite = true := by
  have described : describe v = .ok j := h
  obtain ⟨s, rfl⟩ := exists_text_of_describe described
  rfl

theorem isFinite_of_intJson? {i : Int} {j : Json} (h : intJson? i = .ok j) :
    j.isFinite = true := by
  unfold intJson? at h
  cases shown : intText i with
  | error fault =>
    rw [shown] at h
    cases h
  | ok s =>
    rw [shown] at h
    cases h
    rfl

theorem isFinite_of_mapM_other {payments : List Payment} {js : List Json}
    (h : (payments.mapM fun p => logged.other (payment p)) = .ok js) :
    (Json.array js).isFinite = true := by
  rw [Json.isFinite_array_iff]
  intro j mem
  obtain ⟨p, -, made⟩ := exists_mem_of_forall₂ (mapM_eq_ok_iff.mp h).flip mem
  exact isFinite_of_other made

mutual

/-- The forms are made along the same parts as the list of numbers. -/
theorem isFinite_of_encode (v : Value) {j : Json} (h : encode logged v = .ok j) :
    j.isFinite = v.floats.all Binary64.isFinite := by
  cases v with
  | none => cases h; rfl
  | bool b => cases h; rfl
  | int i => exact isFinite_of_intJson? (by rwa [encode] at h)
  | float x =>
    cases h
    rw [floats, List.all_cons, List.all_nil, Bool.and_true]
    rfl
  | text s => cases h; rfl
  | currency c => cases h; rfl
  | direction d => cases h; rfl
  | list items =>
    obtain ⟨js, made, rfl⟩ := bind_pure_eq_ok_iff.mp (by rwa [encode] at h)
    exact areFinite_of_encodeList items made
  | tuple items =>
    obtain ⟨js, made, rfl⟩ := bind_pure_eq_ok_iff.mp (by rwa [encode] at h)
    exact areFinite_of_encodeList items made
  | dict entries =>
    obtain ⟨fields, made, rfl⟩ := bind_pure_eq_ok_iff.mp (by rwa [encode] at h)
    exact fieldsAreFinite_of_encodeEntries entries made
  | settlement s =>
    obtain ⟨payments, residual⟩ := s
    rw [encode] at h
    obtain ⟨ps, told, rest⟩ := bind_eq_ok_iff.mp h
    obtain ⟨left, made, rfl⟩ := bind_pure_eq_ok_iff.mp rest
    rw [Json.isFinite_array, List.all_cons, List.all_cons, List.all_nil, Bool.and_true,
      isFinite_of_mapM_other told, Bool.true_and, isFinite_of_encodeResidual residual made,
      floats]
  | _ =>
    simp only [encode] at h
    exact isFinite_of_other h
termination_by structural v

theorem areFinite_of_encodeList (items : List Value) {js : List Json}
    (h : encodeList logged items = .ok js) :
    Json.areFinite js = (floatsOfList items).all Binary64.isFinite := by
  cases items with
  | nil => cases h; rfl
  | cons item items =>
    rw [encodeList] at h
    obtain ⟨j, first, rest⟩ := bind_eq_ok_iff.mp h
    obtain ⟨others, made, rfl⟩ := bind_pure_eq_ok_iff.mp rest
    rw [Json.areFinite, isFinite_of_encode item first, areFinite_of_encodeList items made,
      floatsOfList, List.all_append]
termination_by structural items

theorem fieldsAreFinite_of_encodeEntries (entries : List (Value × Value))
    {fields : List (String × Json)} (h : encodeEntries logged entries = .ok fields) :
    Json.fieldsAreFinite fields = (floatsOfEntries entries).all Binary64.isFinite := by
  cases entries with
  | nil => cases h; rfl
  | cons entry entries =>
    obtain ⟨key, item⟩ := entry
    rw [encodeEntries] at h
    obtain ⟨name, -, h⟩ := bind_eq_ok_iff.mp h
    obtain ⟨j, first, rest⟩ := bind_eq_ok_iff.mp h
    obtain ⟨others, made, rfl⟩ := bind_pure_eq_ok_iff.mp rest
    rw [Json.fieldsAreFinite, isFinite_of_encode item first,
      fieldsAreFinite_of_encodeEntries entries made, floatsOfEntries, List.all_append]
termination_by structural entries

/-- A residual that is a foreign leaf is taken as the value that it holds. -/
theorem isFinite_of_encodeResidual (c : Contract Value) {j : Json}
    (h : encodeResidual logged c = .ok j) :
    j.isFinite = (floatsOfResidual c).all Binary64.isFinite := by
  cases c with
  | foreign leaf => exact isFinite_of_encode leaf h
  | _ =>
    simp only [encodeResidual] at h
    exact isFinite_of_other h
termination_by structural c

end

/-- The numbers of a form for the log are those of the value. -/
theorem isFinite_of_logForm {v : Value} {j : Json} (h : v.logForm = .ok j) :
    j.isFinite = v.floats.all Binary64.isFinite :=
  isFinite_of_encode v h

end TermSheet.Value

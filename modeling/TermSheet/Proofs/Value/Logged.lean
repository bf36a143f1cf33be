import TermSheet.Proofs.Failure
import TermSheet.Value.Amount
import TermSheet.Value.Json

/-!
# Which values can be logged

A value for the log that is not JSON itself is written in its plain form, wherever it stands as a
value. Where it stands as the key of a mapping there is no such way out: a key is a text, a number,
a truth value or no value, and any other key leaves the whole value without a JSON form. This is
the only obstacle for a value that has an exact form.

Results:
* `intText_of_lt`: a whole number of at most 4300 digits is written.
* `exists_logForm_iff`: a value that has an exact form can be logged exactly when its keys are keys
  of JSON.
* `Amount.exists_exact_of_illegal`: a value that is refused as an amount has an exact form.
-/

namespace TermSheet

/-! ## Whole numbers -/

/-- There are more numbers that can be written than digits that they may have. -/
theorem lt_digitLimit {n : Nat} (h : n < mostDigits) : n < digitLimit := by
  unfold digitLimit
  generalize mostDigits = m at h ⊢
  exact Nat.lt_trans h (Nat.lt_pow_self (by decide))

theorem intText_of_lt {i : Int} (h : i.natAbs < digitLimit) : intText i = .ok (toString i) := by
  unfold intText
  split
  · rfl
  · next large => exact absurd h large

namespace Value

theorem intJson?_of_lt {i : Int} (h : i.natAbs < digitLimit) : intJson? i = .ok (.int i) := by
  unfold intJson?
  rw [intText_of_lt h]

/-! ## Keys -/

mutual

/-- The keys of all mappings that a JSON form goes into. -/
def keys : Value → List Value
  | list items => keysOfList items
  | tuple items => keysOfList items
  | dict entries => keysOfEntries entries
  | settlement ⟨_, residual⟩ => keysOfResidual residual
  | _ => []

/-- The same for the items of a list. -/
def keysOfList : List Value → List Value
  | [] => []
  | item :: items => keys item ++ keysOfList items

/-- The same for the entries of a mapping, with their own keys. -/
def keysOfEntries : List (Value × Value) → List Value
  | [] => []
  | (key, item) :: entries => key :: (keys item ++ keysOfEntries entries)

/-- The same for a residual, which is a value itself when it is a foreign leaf. -/
def keysOfResidual : Contract Value → List Value
  | .foreign leaf => keys leaf
  | _ => []

end

/-- Whether a value can be the key of a JSON object. -/
def isKey : Value → Bool
  | none | bool _ | int _ | float _ | text _ | currency _ | direction _ => true
  | _ => false

/-- A value that has an exact form is a key of a mapping exactly when it can be one. -/
theorem exists_keyText?_iff {r : Rendering} {k : Value} (h : ∃ s, k.exact = .ok s) :
    (∃ name, keyText? r k = .ok name) ↔ k.isKey = true := by
  cases k with
  | int i =>
    simp only [exact] at h
    simp only [keyText?, exists_mapError_iff, isKey, h]
  | _ => simp [keyText?, isKey]

/-! ## Plain forms -/

/-- A value has a plain form of its own, and then an exact one as well, or both are the same. -/
theorem plain_cases (v : Value) :
    (∃ t u, v.plain = .ok t ∧ v.exact = .ok u) ∨ v.plain = v.exact := by
  cases v with
  | text s => exact Or.inl ⟨_, _, rfl, rfl⟩
  | decimal n => exact Or.inl ⟨_, _, rfl, rfl⟩
  | date d => exact Or.inl ⟨_, _, rfl, rfl⟩
  | dateTime t => exact Or.inl ⟨_, _, rfl, rfl⟩
  | amount a => exact Or.inl ⟨_, _, rfl, rfl⟩
  | currency c => exact Or.inl ⟨_, _, rfl, rfl⟩
  | direction d => exact Or.inl ⟨_, _, rfl, rfl⟩
  | payment p => exact Or.inl ⟨_, _, rfl, rfl⟩
  | _ => exact Or.inr (by simp only [plain])

theorem exists_plain_iff {v : Value} : (∃ t, v.plain = .ok t) ↔ ∃ s, v.exact = .ok s := by
  rcases plain_cases v with ⟨t, u, plain, exact⟩ | same
  · exact ⟨fun _ => ⟨u, exact⟩, fun _ => ⟨t, plain⟩⟩
  · rw [same]

theorem exists_describe {v : Value} (h : ∃ s, v.exact = .ok s) : ∃ j, describe v = .ok j := by
  obtain ⟨t, ht⟩ := exists_plain_iff.mpr h
  cases v with
  | date d => exact ⟨_, rfl⟩
  | dateTime t => exact ⟨_, rfl⟩
  | _ => exact ⟨.text t, by simp only [describe, ht]; rfl⟩

theorem exists_describe_contract {c : Contract Value} (h : ∃ s, exactContract c = .ok s) :
    ∃ j, describe (contract c) = .ok j := by
  refine exists_describe ?_
  simpa only [exact] using h

/-! ## Forms for the log -/

theorem exists_intJson?_iff {i : Int} : (∃ j, intJson? i = .ok j) ↔ ∃ s, intText i = .ok s := by
  unfold intJson?
  cases intText i <;> simp

mutual

/-- The forms for the log and the exact forms are made along the same parts, so the induction
    carries along that the exact form of each part exists. -/
theorem exists_encode_iff (v : Value) (h : ∃ s, v.exact = .ok s) :
    (∃ j, encode logged v = .ok j) ↔ ∀ k ∈ v.keys, k.isKey = true := by
  have described {v : Value} (h : ∃ s, v.exact = .ok s) (none : v.keys = []) :
      (∃ j, describe v = .ok j) ↔ ∀ k ∈ v.keys, k.isKey = true := by
    rw [none]
    exact iff_of_true (exists_describe h) (List.forall_mem_nil _)
  cases v with
  | none => exact iff_of_true ⟨_, rfl⟩ (List.forall_mem_nil _)
  | bool b => exact iff_of_true ⟨_, rfl⟩ (List.forall_mem_nil _)
  | int i =>
    simp only [exact, encode, exists_intJson?_iff] at h ⊢
    exact iff_of_true h (List.forall_mem_nil _)
  | float x => exact iff_of_true ⟨_, rfl⟩ (List.forall_mem_nil _)
  | text s => exact iff_of_true ⟨_, rfl⟩ (List.forall_mem_nil _)
  | currency c => exact iff_of_true ⟨_, rfl⟩ (List.forall_mem_nil _)
  | direction d => exact iff_of_true ⟨_, rfl⟩ (List.forall_mem_nil _)
  | list items =>
    simp only [exact, encode, exists_bind_iff, exists_pure_iff, and_true] at h ⊢
    exact exists_encodeList_iff items h
  | tuple items =>
    simp only [exact, encode, exists_bind_iff, exists_pure_iff, and_true] at h ⊢
    exact exists_encodeList_iff items h
  | dict entries =>
    simp only [exact, encode, exists_bind_iff, exists_pure_iff, and_true] at h ⊢
    exact exists_encodeEntries_iff entries h
  | settlement s =>
    obtain ⟨payments, residual⟩ := s
    simp only [exact, encode, exists_bind_iff, exists_pure_iff, and_true, exists_and_right] at h ⊢
    have all : ∃ js, payments.mapM (fun p => logged.other (payment p)) = .ok js :=
      exists_mapM fun p _ => ⟨_, rfl⟩
    rw [and_iff_right all]
    exact exists_encodeResidual_iff residual h
  | _ => exact described h rfl
termination_by structural v

theorem exists_encodeList_iff (items : List Value) (h : ∃ ss, exactList items = .ok ss) :
    (∃ js, encodeList logged items = .ok js) ↔ ∀ k ∈ keysOfList items, k.isKey = true := by
  cases items with
  | nil => exact iff_of_true ⟨_, rfl⟩ (List.forall_mem_nil _)
  | cons item items =>
    simp only [exactList, encodeList, exists_bind_iff, exists_pure_iff, and_true,
      exists_and_right] at h ⊢
    rw [exists_encode_iff item h.1, exists_encodeList_iff items h.2, keysOfList]
    simp only [List.mem_append, or_imp, forall_and]
termination_by structural items

theorem exists_encodeEntries_iff (entries : List (Value × Value))
    (h : ∃ ss, exactEntries entries = .ok ss) :
    (∃ fields, encodeEntries logged entries = .ok fields) ↔
      ∀ k ∈ keysOfEntries entries, k.isKey = true := by
  cases entries with
  | nil => exact iff_of_true ⟨_, rfl⟩ (List.forall_mem_nil _)
  | cons entry entries =>
    obtain ⟨key, item⟩ := entry
    simp only [exactEntries, encodeEntries, exists_bind_iff, exists_pure_iff, and_true,
      exists_and_right] at h ⊢
    rw [exists_keyText?_iff h.1, exists_encode_iff item h.2.1,
      exists_encodeEntries_iff entries h.2.2, keysOfEntries]
    simp only [List.mem_cons, List.mem_append, or_imp, forall_and, forall_eq]
termination_by structural entries

/-- A residual that is a foreign leaf is taken as the value that it holds. -/
theorem exists_encodeResidual_iff (c : Contract Value) (h : ∃ s, exactContract c = .ok s) :
    (∃ j, encodeResidual logged c = .ok j) ↔ ∀ k ∈ keysOfResidual c, k.isKey = true := by
  cases c with
  | foreign leaf => exact exists_encode_iff leaf h
  | _ => exact iff_of_true (exists_describe_contract h) (List.forall_mem_nil _)
termination_by structural c

end

/-- The keys of its mappings decide whether a value that has an exact form can be logged. -/
theorem exists_logForm_iff {v : Value} (h : ∃ s, v.exact = .ok s) :
    (∃ j, v.logForm = .ok j) ↔ ∀ k ∈ v.keys, k.isKey = true :=
  exists_encode_iff v h

end Value

/-! ## Refused amounts -/

/-- What a fault quotes was written, so the value that it holds has an exact form. -/
theorem Amount.exists_exact_of_illegal {v raw : Value} {shown : String}
    (h : Amount.ofValue? v = .error (.illegal raw shown)) : ∃ s, raw.exact = .ok s := by
  unfold Amount.ofValue? at h
  split at h
  · cases h
  · cases h
    exact ⟨_, rfl⟩
  · split at h
    · cases h
    · next plain =>
      split at h
      · cases h
      · cases h
        exact ⟨_, rfl⟩
      · cases h
        exact Value.exists_plain_iff.mp ⟨_, plain⟩

end TermSheet

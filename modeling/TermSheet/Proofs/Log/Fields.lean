import Mathlib.Data.List.Forall2
import Mathlib.Data.List.Nodup
import TermSheet.Log.Line
import TermSheet.Proofs.Failure

/-!
# Named values

Where no name is given twice, a value is found under its name. Fields that are put behind others
stay in their order as long as their names are new. Of several fields of one name that are put one
after the other, the last one is found.

Results:
* `lookup_eq_some_of_mem`, `mem_of_lookup_eq_some`: named values are found, and nothing else is.
* `map_fst_eq_of_forall₂`, `exists_lookup_of_forall₂`: named values and what they are shown as.
* `Fields.foldl_put`: fields with new names are put behind the others.
* `Fields.lookup_put`, `Fields.lookup_foldl_put`: what is found after fields are put.
* `Fields.Are.put`, `Fields.Are.foldl_put`: no name is ever given twice.
* `mapM_logForm_eq_ok_iff`: fields are logged as the forms of their values.
* `mapM_textFields`: fields that hold texts can be logged.
-/

namespace TermSheet

/-- The form of a value for the log. -/
def Value.HasForm (v : Value) (j : Json) : Prop := v.logForm = .ok j

namespace Log

section Lookup

variable {α : Type} {fields : List (String × α)} {name : String} {value : α}

theorem mem_of_lookup_eq_some (h : fields.lookup name = some value) : (name, value) ∈ fields := by
  obtain ⟨before, after, rfl, -⟩ := List.lookup_eq_some_iff.mp h
  exact List.mem_append_right before List.mem_cons_self

theorem lookup_eq_some_of_mem (distinct : (fields.map (·.1)).Nodup) (mem : (name, value) ∈ fields) :
    fields.lookup name = some value := by
  obtain ⟨before, after, rfl⟩ := List.append_of_mem mem
  refine List.lookup_eq_some_iff.mpr ⟨before, after, rfl, fun field early => ?_⟩
  rw [bne_iff_ne]
  rintro rfl
  rw [List.map_append, List.nodup_append] at distinct
  exact distinct.2.2 _ (List.mem_map_of_mem early) _ List.mem_cons_self rfl

theorem lookup_eq_none_of_not_mem (h : name ∉ fields.map (·.1)) : fields.lookup name = none := by
  refine List.lookup_eq_none_iff.mpr fun field mem => bne_iff_ne.mpr ?_
  rintro rfl
  exact h (List.mem_map_of_mem mem)

variable {β : Type} {R : α → β → Prop} {shown : List (String × β)}

/-- What is shown has the names of the fields in their order. -/
theorem map_fst_eq_of_forall₂
    (h : List.Forall₂ (fun field item => item.1 = field.1 ∧ R field.2 item.2) fields shown) :
    shown.map (·.1) = fields.map (·.1) := by
  induction h with
  | nil => rfl
  | cons first _ ih => rw [List.map_cons, List.map_cons, first.1, ih]

/-- What a value is shown as is found under the name of the value. -/
theorem exists_lookup_of_forall₂
    (h : List.Forall₂ (fun field item => item.1 = field.1 ∧ R field.2 item.2) fields shown)
    (found : fields.lookup name = some value) : ∃ b, R value b ∧ shown.lookup name = some b := by
  induction h with
  | nil => cases found
  | @cons field item fields shown first _ ih =>
    obtain ⟨_, b⟩ := item
    obtain ⟨rfl, related⟩ := first
    rw [List.lookup_cons] at found ⊢
    cases here : name == field.1 with
    | true =>
      rw [here] at found
      cases found
      exact ⟨b, related, rfl⟩
    | false =>
      rw [here] at found
      exact ih found

end Lookup

namespace Fields

theorem put_of_not_mem {fields : Fields} {name : String} (h : name ∉ fields.map (·.1))
    (value : Value) : fields.put name value = fields ++ [(name, value)] := by
  unfold put
  rw [if_neg]
  simpa using h

theorem put_of_mem {fields : Fields} {name : String} (h : name ∈ fields.map (·.1)) (value : Value) :
    fields.put name value =
      fields.map fun field => if field.1 == name then (name, value) else field := by
  unfold put
  rw [if_pos]
  simpa using h

/-- Fields with new names of their own are put behind the others, in their order. -/
theorem foldl_put {fields new : Fields} (h : ((fields ++ new).map (·.1)).Nodup) :
    new.foldl (fun fields (name, value) => fields.put name value) fields = fields ++ new := by
  induction new generalizing fields with
  | nil => rw [List.foldl_nil, List.append_nil]
  | cons field new ih =>
    obtain ⟨name, value⟩ := field
    have split : fields ++ (name, value) :: new = (fields ++ [(name, value)]) ++ new := by
      rw [List.append_assoc, List.singleton_append]
    have other : name ∉ fields.map (·.1) := by
      rw [List.map_append, List.nodup_append] at h
      exact fun mem => h.2.2 _ mem _ List.mem_cons_self rfl
    rw [List.foldl_cons]
    dsimp only
    rw [put_of_not_mem other, split]
    exact ih (by rwa [← split])

/-! ### What is found -/

/-- Replacing the value of a name replaces what is found there. -/
theorem lookup_map_replace (fields : Fields) (name : String) (value : Value) (key : String) :
    (fields.map fun field => if field.1 == name then (name, value) else field).lookup key =
      (fields.lookup key).map fun old => if key = name then value else old := by
  induction fields with
  | nil => rfl
  | cons field fields ih =>
    obtain ⟨first, old⟩ := field
    rw [List.map_cons]
    by_cases here : first = name
    · subst here
      rw [if_pos (beq_self_eq_true _), List.lookup_cons, List.lookup_cons, ih]
      cases same : key == first with
      | true => rw [Option.map_some, if_pos (beq_iff_eq.mp same)]
      | false => rfl
    · rw [if_neg (by simpa using here), List.lookup_cons, List.lookup_cons, ih]
      cases same : key == first with
      | true =>
        have other : key ≠ name := fun equal => here ((beq_iff_eq.mp same).symm.trans equal)
        rw [Option.map_some, if_neg other]
      | false => rfl

theorem lookup_singleton (key name : String) (value : Value) :
    [(name, value)].lookup key = if key = name then some value else none := by
  rw [List.lookup_cons, List.lookup_nil]
  by_cases same : key = name
  · rw [if_pos same, beq_iff_eq.mpr same]
  · rw [if_neg same, beq_eq_false_iff_ne.mpr same]

/-- A field that was put is found, and every other one is found as before. -/
theorem lookup_put (fields : Fields) (name : String) (value : Value) (key : String) :
    (fields.put name value).lookup key =
      if key = name then some value else fields.lookup key := by
  -- A name that is taken keeps its place, and a new one comes last.
  by_cases taken : name ∈ fields.map (·.1)
  · rw [put_of_mem taken, lookup_map_replace]
    by_cases same : key = name
    · subst same
      obtain ⟨field, mem, rfl⟩ := List.mem_map.mp taken
      have found : (fields.lookup field.1).isSome = true :=
        List.lookup_isSome_iff.mpr ⟨field, mem, beq_self_eq_true _⟩
      obtain ⟨old, found⟩ := Option.isSome_iff_exists.mp found
      rw [found, Option.map_some, if_pos rfl, if_pos rfl]
    · simp only [if_neg same, Option.map_id']
  · rw [put_of_not_mem taken, List.lookup_append, lookup_singleton]
    by_cases same : key = name
    · subst same
      rw [lookup_eq_none_of_not_mem taken, Option.none_or, if_pos rfl]
    · rw [if_neg same, if_neg same, Option.or_none]

/-- Of several fields that are put one after the other, the last one of a name is found. -/
theorem lookup_foldl_put (new fields : Fields) (key : String) :
    (new.foldl (fun fields (name, value) => fields.put name value) fields).lookup key =
      (new.reverse.lookup key).or (fields.lookup key) := by
  induction new generalizing fields with
  | nil => rfl
  | cons field new ih =>
    obtain ⟨name, value⟩ := field
    rw [List.foldl_cons, ih, lookup_put, List.reverse_cons, List.lookup_append, lookup_singleton,
      Option.or_assoc]
    by_cases same : key = name
    · rw [if_pos same, if_pos same, Option.some_or]
    · rw [if_neg same, if_neg same, Option.none_or]

/-- No name is given twice, and all values have a property. -/
structure Are (P : Value → Prop) (fields : Fields) : Prop where
  distinct : (fields.map (·.1)).Nodup
  each : ∀ field ∈ fields, P field.2

variable {P : Value → Prop} {fields : Fields}

theorem Are.put (h : fields.Are P) {value : Value} (holds : P value) (name : String) :
    (fields.put name value).Are P := by
  by_cases taken : name ∈ fields.map (·.1)
  · rw [put_of_mem taken]
    constructor
    · have names : (fields.map fun field => if field.1 == name then (name, value) else field).map
          (·.1) = fields.map (·.1) := by
        rw [List.map_map]
        refine List.map_congr_left fun field _ => ?_
        rw [Function.comp_apply]
        split
        · next same => exact (beq_iff_eq.mp same).symm
        · rfl
      rw [names]
      exact h.distinct
    · intro field mem
      obtain ⟨old, here, rfl⟩ := List.mem_map.mp mem
      split
      · exact holds
      · exact h.each old here
  · rw [put_of_not_mem taken]
    constructor
    · rw [List.map_append, List.nodup_append_comm]
      exact List.nodup_cons.mpr ⟨taken, h.distinct⟩
    · intro field mem
      rcases List.mem_append.mp mem with old | new
      · exact h.each field old
      · rw [List.mem_singleton.mp new]
        exact holds

theorem Are.foldl_put (h : fields.Are P) {new : Fields} (holds : ∀ field ∈ new, P field.2) :
    (new.foldl (fun fields (name, value) => fields.put name value) fields).Are P :=
  List.foldlRecOn new _ h fun _ are field mem => are.put (holds field mem) field.1

end Fields

/-! ## Fields in the log -/

theorem mapM_logForm_eq_ok_iff {fields : Fields} {items : List (String × Json)} :
    fields.mapM (fun (name, value) => do
        return (name, ← value.logForm.mapError LineFault.json)) = .ok items ↔
      List.Forall₂ (fun field item => item.1 = field.1 ∧ field.2.HasForm item.2) fields items := by
  have form (field : String × Value) (item : String × Json) :
      (do return (field.1, ← field.2.logForm.mapError LineFault.json) : Except _ _) = .ok item ↔
        item.1 = field.1 ∧ field.2.HasForm item.2 := by
    rw [bind_pure_eq_ok_iff]
    constructor
    · rintro ⟨j, made, rfl⟩
      exact ⟨rfl, mapError_eq_ok_iff.mp made⟩
    · rintro ⟨name, made⟩
      exact ⟨item.2, mapError_eq_ok_iff.mpr made, Prod.ext name rfl⟩
  simp only [mapM_eq_ok_iff, form]

/-- Fields that hold texts. -/
def textFields {α : Type} (text : String → α) (fields : List (String × String)) :
    List (String × α) :=
  fields.map fun (name, s) => (name, text s)

theorem map_fst_textFields {α : Type} (text : String → α) (fields : List (String × String)) :
    (textFields text fields).map (·.1) = fields.map (·.1) := List.map_map

/-- A text has itself as its form for the log. -/
theorem mapM_textFields (fields : List (String × String)) :
    (textFields Value.text fields).mapM (fun (name, value) => do
        return (name, ← value.logForm.mapError LineFault.json)) =
      .ok (textFields Json.text fields) := by
  rw [mapM_logForm_eq_ok_iff, textFields, textFields, List.forall₂_map_left_iff,
    List.forall₂_map_right_iff, List.forall₂_same]
  exact fun _ _ => ⟨rfl, rfl⟩

end Log

end TermSheet

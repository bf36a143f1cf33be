import TermSheet.Proofs.Json.RoundTrip
import TermSheet.Proofs.Value.Logged

/-!
# Forms for the log

Numbers, texts, days, and all that is built of them as lists, tuples and mappings with texts as keys
have a form for the log. `LogsAs` says which: lists and tuples are arrays, mappings are objects,
days and moments are written in ISO form, and all else that is not JSON is written in its plain
form.

Results:
* `IsLoggable.exists_logsAs`: every value of these kinds has a form.
* `LogsAs.logForm`: it is the form that the log gives.
* `LogsAs.isFinite`, `LogsAs.hasDistinctKeys`: all numbers in it are finite, and no object in it
  has a key twice.
-/

namespace TermSheet

/-- No object in a value has a key twice. -/
inductive Json.HasDistinctKeys : Json → Prop
  | null : HasDistinctKeys null
  | bool (b : Bool) : HasDistinctKeys (bool b)
  | int (i : Int) : HasDistinctKeys (int i)
  | float (x : Binary64) : HasDistinctKeys (float x)
  | text (s : String) : HasDistinctKeys (text s)
  | array {items : List Json} (h : ∀ item ∈ items, HasDistinctKeys item) :
    HasDistinctKeys (array items)
  | object {fields : List (String × Json)} (distinct : (fields.map (·.1)).Nodup)
    (h : ∀ field ∈ fields, HasDistinctKeys field.2) : HasDistinctKeys (object fields)

namespace Value

/-- A mapping with texts as keys. -/
def ofFields (fields : List (String × Value)) : Value :=
  dict (fields.map fun (name, v) => (text name, v))

/-- The values that fields of records are made of. -/
inductive IsLoggable : Value → Prop
  | none : IsLoggable none
  | bool (b : Bool) : IsLoggable (bool b)
  | int {i : Int} (h : i.natAbs < digitLimit) : IsLoggable (int i)
  | text (s : String) : IsLoggable (text s)
  | list {items : List Value} (h : ∀ item ∈ items, IsLoggable item) : IsLoggable (list items)
  | tuple {items : List Value} (h : ∀ item ∈ items, IsLoggable item) : IsLoggable (tuple items)
  | mapping {fields : List (String × Value)} (distinct : (fields.map (·.1)).Nodup)
    (h : ∀ field ∈ fields, IsLoggable field.2) : IsLoggable (ofFields fields)
  | decimal (n : Numeral) : IsLoggable (decimal n)
  | date (d : Date) : IsLoggable (date d)
  | dateTime (t : DateTime) : IsLoggable (dateTime t)
  | amount (a : Amount) : IsLoggable (amount a)
  | currency (c : Currency) : IsLoggable (currency c)
  | direction (d : Direction) : IsLoggable (direction d)
  | payment (p : Payment) : IsLoggable (payment p)

/-- What a value is logged as. -/
inductive LogsAs : Value → Json → Prop
  | none : LogsAs none .null
  | bool (b : Bool) : LogsAs (bool b) (.bool b)
  | int {i : Int} (h : i.natAbs < digitLimit) : LogsAs (int i) (.int i)
  | text (s : String) : LogsAs (text s) (.text s)
  | list {items : List Value} {shown : List Json} (same : items.length = shown.length)
    (h : ∀ v j, (v, j) ∈ items.zip shown → LogsAs v j) : LogsAs (list items) (.array shown)
  | tuple {items : List Value} {shown : List Json} (same : items.length = shown.length)
    (h : ∀ v j, (v, j) ∈ items.zip shown → LogsAs v j) : LogsAs (tuple items) (.array shown)
  | mapping {names : List String} {items : List Value} {shown : List Json}
    (distinct : names.Nodup) (count : names.length = items.length)
    (same : items.length = shown.length) (h : ∀ v j, (v, j) ∈ items.zip shown → LogsAs v j) :
    LogsAs (ofFields (names.zip items)) (.object (names.zip shown))
  | decimal (n : Numeral) : LogsAs (decimal n) (.text n.text)
  | date (d : Date) : LogsAs (date d) (.text d.text)
  | dateTime (t : DateTime) : LogsAs (dateTime t) (.text t.text)
  | amount (a : Amount) : LogsAs (amount a) (.text a.text)
  | currency (c : Currency) : LogsAs (currency c) (.text c.code)
  | direction (d : Direction) : LogsAs (direction d) (.text d.word)
  | payment (p : Payment) : LogsAs (payment p) (.text p.text)

theorem IsLoggable.exists_logsAs {v : Value} (h : v.IsLoggable) : ∃ j, LogsAs v j := by
  induction h with
  | none => exact ⟨_, .none⟩
  | bool b => exact ⟨_, .bool b⟩
  | int h => exact ⟨_, .int h⟩
  | text s => exact ⟨_, .text s⟩
  | list _ ih =>
    obtain ⟨shown, same, each⟩ := exists_zip ih
    exact ⟨_, .list same each⟩
  | tuple _ ih =>
    obtain ⟨shown, same, each⟩ := exists_zip ih
    exact ⟨_, .tuple same each⟩
  | @mapping fields distinct _ ih =>
    have items : ∀ item ∈ fields.map (·.2), ∃ j, LogsAs item j := by
      intro item mem
      obtain ⟨field, found, rfl⟩ := List.mem_map.mp mem
      exact ih field found
    obtain ⟨shown, same, each⟩ := exists_zip items
    have whole : (fields.map (·.1)).zip (fields.map (·.2)) = fields :=
      (List.zip_of_prod rfl rfl).symm
    have logs := LogsAs.mapping distinct (by rw [List.length_map, List.length_map]) same each
    rw [whole] at logs
    exact ⟨_, logs⟩
  | decimal n => exact ⟨_, .decimal n⟩
  | date d => exact ⟨_, .date d⟩
  | dateTime t => exact ⟨_, .dateTime t⟩
  | amount a => exact ⟨_, .amount a⟩
  | currency c => exact ⟨_, .currency c⟩
  | direction d => exact ⟨_, .direction d⟩
  | payment p => exact ⟨_, .payment p⟩

/-! ## The form that the log gives -/

theorem encodeList_eq_ok {r : Rendering} {items : List Value} {shown : List Json}
    (h : List.Forall₂ (fun v j => encode r v = .ok j) items shown) :
    encodeList r items = .ok shown := by
  induction h with
  | nil => rfl
  | cons first _ ih => rw [encodeList, first, ok_bind, ih, ok_bind]; rfl

theorem encodeEntries_eq_ok {r : Rendering} {names : List String} {items : List Value}
    {shown : List Json} (count : names.length = items.length)
    (h : List.Forall₂ (fun v j => encode r v = .ok j) items shown) :
    encodeEntries r ((names.zip items).map fun (name, v) => (text name, v)) =
      .ok (names.zip shown) := by
  induction h generalizing names with
  | nil => rw [List.zip_nil_right, List.zip_nil_right]; rfl
  | @cons item j items shown first _ ih =>
    cases names with
    | nil => cases count
    | cons name names =>
      rw [List.zip_cons_cons, List.zip_cons_cons, List.map_cons, encodeEntries, keyText?_text,
        ok_bind, first, ok_bind, ih (Nat.succ.inj count), ok_bind]
      rfl

theorem LogsAs.logForm {v : Value} {j : Json} (h : LogsAs v j) : v.logForm = .ok j := by
  unfold Value.logForm
  induction h with
  | none => rfl
  | bool b => rfl
  | int h => rw [encode, intJson?_of_lt h]
  | text s => rfl
  | list same _ ih =>
    rw [encode, encodeList_eq_ok (List.forall₂_iff_zip.mpr ⟨same, fun {v j} => ih v j⟩)]
    rfl
  | tuple same _ ih =>
    rw [encode, encodeList_eq_ok (List.forall₂_iff_zip.mpr ⟨same, fun {v j} => ih v j⟩)]
    rfl
  | mapping _ count same _ ih =>
    rw [ofFields, encode,
      encodeEntries_eq_ok count (List.forall₂_iff_zip.mpr ⟨same, fun {v j} => ih v j⟩)]
    rfl
  | decimal n => rfl
  | date d => rfl
  | dateTime t => rfl
  | amount a => rfl
  | currency c => rfl
  | direction d => rfl
  | payment p => rfl

/-! ## What it is made of -/

theorem LogsAs.isFinite {v : Value} {j : Json} (h : LogsAs v j) : j.isFinite = true := by
  induction h with
  | list same _ ih => exact Json.isFinite_array_iff.mpr (forall_of_zip_right same ih)
  | tuple same _ ih => exact Json.isFinite_array_iff.mpr (forall_of_zip_right same ih)
  | mapping _ _ same _ ih =>
    exact Json.isFinite_object_iff.mpr fun field mem =>
      forall_of_zip_right same ih _ (List.of_mem_zip mem).2
  | _ => rfl

theorem LogsAs.hasDistinctKeys {v : Value} {j : Json} (h : LogsAs v j) : j.HasDistinctKeys := by
  induction h with
  | none => exact .null
  | bool b => exact .bool b
  | int h => exact .int _
  | list same _ ih => exact .array (forall_of_zip_right same ih)
  | tuple same _ ih => exact .array (forall_of_zip_right same ih)
  | mapping distinct count same _ ih =>
    refine .object ?_ fun field mem => forall_of_zip_right same ih _ (List.of_mem_zip mem).2
    rwa [List.map_fst_zip (Nat.le_of_eq (count.trans same))]
  | _ => exact .text _

end Value

end TermSheet

import TermSheet.Config.File
import TermSheet.Proofs.Calendar.Text
import TermSheet.Proofs.Text.Uppercase
import TermSheet.Proofs.Value.Logged

/-!
# What a document sets

A document has three settings, each in a section of its own, and what it says besides does not
count. A level is given by its word in letters of any case, a schedule by a list of its days in any
of their forms, and a layout by its width. What is not set keeps its usual value, and a
configuration whose layout can be written has a checksum.

Results:
* `Config.severity?_text`, `Schedule.ofValue?_list`, `Config.layout?_setting`: the settings one by
  one.
* `Config.canonicalText_of_lt`, `Config.canonicalText_of_le`, `Config.exists_checksum`: checksums.
* `Config.ofText?_of_ok`, `Config.ofText?_of_isIn`: the configuration in a file.
-/

namespace TermSheet

/-! ## Levels -/

/-- A level is found by its word in letters of any case. -/
theorem Config.severity?_text {word : String} {severity : Log.Severity}
    (h : word.toUpper = severity.word) : severity? (.text word) = .ok severity := by
  have ascii : ∀ c ∈ word.toUpper.toList, c.toNat < 0x80 := by
    rw [h]
    cases severity <;> exact forall_mem_of_all (by decide)
  simp only [severity?, Value.plain, Text.upper_eq_toUpper ascii, h, Log.Severity.ofWord?_word]

/-! ## Days -/

/-- The values that stand for a day: the day, a moment on it, and its texts. -/
inductive Date.IsNamedBy (day : Date) : Value → Prop
  | date : IsNamedBy day (.date day)
  | dateTime {t : DateTime} (h : t.date = day) : IsNamedBy day (.dateTime t)
  | text {s : String} (h : Date.ofText? s = .ok day) : IsNamedBy day (.text s)

theorem Date.ofValue?_of_isNamedBy {day : Date} {v : Value} (h : day.IsNamedBy v) :
    ofValue? v = .ok day := by
  cases h with
  | date => rfl
  | dateTime h => exact congrArg Except.ok h
  | text h =>
    simp only [ofValue?, Value.exact, Value.toText?, ofShown?, h]
    rfl

theorem Schedule.ofValue?_list {schedule : Schedule} {items : List Value}
    (h : List.Forall₂ Date.IsNamedBy schedule.days items) :
    ofValue? (.list items) = .ok schedule := by
  have read : items.mapM Date.ofValue? = .ok schedule.days :=
    mapM_eq_ok_iff.mpr (h.imp fun _ _ => Date.ofValue?_of_isNamedBy).flip
  simp only [ofValue?, read, ofDays?, of?_days]
  rfl

/-! ## Layouts -/

/-- The value that sets a layout. -/
def Json.Layout.setting : Json.Layout → Value
  | none => .none
  | some width => .int width

theorem Config.layout?_setting (layout : Json.Layout) : layout? layout.setting = .ok layout := by
  cases layout <;> rfl

theorem noRoom_le_digitLimit : Text.noRoom ≤ digitLimit := by decide +kernel

theorem Json.Layout.lt_noRoom {layout : Json.Layout} (h : layout.fault? = none) :
    layout.getD 0 < Text.noRoom := by
  unfold fault? at h
  dsimp only at h
  split_ifs at h with _ large
  exact Nat.lt_of_not_le large

/-- The blanks of a layout that fit into memory are fewer than a number that is not written. -/
theorem Json.Layout.lt_digitLimit {layout : Json.Layout} (h : layout.fault? = none) :
    layout.getD 0 < digitLimit :=
  Nat.lt_of_lt_of_le (lt_noRoom h) noRoom_le_digitLimit

namespace Config

theorem canonicalText_of_lt (c : Config) (few : c.layout.getD 0 < digitLimit) :
    c.canonicalText = .ok (c.toJson.render none) := by
  have shown : intText (c.layout.getD 0) = .ok (toString (c.layout.getD 0 : Int)) := by
    apply intText_of_lt
    rw [Int.natAbs_natCast]
    exact few
  unfold canonicalText
  rw [shown]

/-- A width without a written form leaves a configuration without a canonical text. -/
theorem canonicalText_of_le (c : Config) (many : digitLimit ≤ c.layout.getD 0) :
    c.canonicalText = .error .tooManyDigits := by
  have large : ¬ (c.layout.getD 0 : Int).natAbs < digitLimit := by
    rw [Int.natAbs_natCast]
    exact Nat.not_lt_of_le many
  unfold canonicalText intText
  rw [if_neg large]

theorem exists_checksum (c : Config) (writable : c.layout.fault? = none) :
    ∃ checksum, c.checksum = .ok checksum := by
  rw [checksum, canonicalText_of_lt c (Json.Layout.lt_digitLimit writable)]
  exact ⟨_, rfl⟩

end Config

/-! ## Documents -/

namespace Config

/-- The settings of a document, each with its value if it is set. -/
structure Settings where
  level : Option Value := none
  days : Option Value := none
  indent : Option Value := none

/-- The setting of a section. The section may be missing or without a value when it sets nothing. -/
def Sets (entries : List (Value × Value)) (part name : String) (value : Option Value) : Prop :=
  ∃ fields, section? entries part = .ok fields ∧ Value.field? fields name = value

/-- The entries of a document have the settings. What else they say does not count. -/
structure Settings.IsIn (s : Settings) (entries : List (Value × Value)) : Prop where
  level : Sets entries "logging" "level" s.level
  days : Sets entries "evaluation" "as_of_dates" s.days
  indent : Sets entries "output" "json_indent" s.indent

theorem setting?_eq {α : Type} {fields : List (Value × Value)} {name : String}
    {value : Option Value} (h : Value.field? fields name = value) (usual : α)
    (read : Value → Except ConfigFault α) :
    setting? fields name usual read = value.elim (.ok usual) read := by
  rw [setting?, h]
  cases value <;> rfl

/-- Settings give a configuration: each part is what the value of its setting stands for, or the
    usual one where that is not set. -/
structure Settings.Gives (s : Settings) (c : Config) : Prop where
  severity : s.level.elim (.ok Log.Severity.info) severity? = .ok c.severity
  schedule : s.days.elim (.ok usualSchedule)
    (fun v => (Schedule.ofValue? v).mapError ConfigFault.schedule) = .ok c.schedule
  layout : s.indent.elim (.ok (some 2)) layout? = .ok c.layout

/-- A mapping stands for what its settings give. -/
theorem ofValue?_of_isIn {s : Settings} {entries : List (Value × Value)} {c : Config}
    (h : s.IsIn entries) (gives : s.Gives c) : ofValue? (.dict entries) = .ok c := by
  obtain ⟨logging, hl, level⟩ := h.level
  obtain ⟨evaluation, he, days⟩ := h.days
  obtain ⟨output, ho, indent⟩ := h.indent
  simp only [ofValue?, hl, he, ho, ok_bind, setting?_eq level, setting?_eq days,
    setting?_eq indent, gives.severity, gives.schedule, gives.layout]
  rfl

/-- A document that is a mapping stands for the same as the mapping, even if it is empty. -/
theorem ofDocument?_dict (entries : List (Value × Value)) :
    ofDocument? (.dict entries) = ofValue? (.dict entries) := by
  cases entries <;> rfl

section

variable {ε : Type} {read : String → Except ε Value} {text : String}

/-- A configuration that was read has a checksum unless its layout has no written form. -/
theorem ofText?_of_ok {v : Value} {c : Config} (document : read text = .ok v)
    (made : ofDocument? v = .ok c) :
    (c.layout.getD 0 < digitLimit → ofText? read text = .ok c) ∧
      (digitLimit ≤ c.layout.getD 0 → ofText? read text = .error (.unshowable .tooManyDigits)) := by
  constructor
  · intro few
    simp only [ofText?, document, Except.mapError, ok_bind, made, canonicalText_of_lt c few]
    rfl
  · intro many
    simp only [ofText?, document, Except.mapError, ok_bind, made, canonicalText_of_le c many]
    rfl

/-- A file whose document has the settings of a configuration stands for it. -/
theorem ofText?_of_isIn {entries : List (Value × Value)} {s : Settings} {c : Config}
    (document : read text = .ok (.dict entries)) (h : s.IsIn entries) (gives : s.Gives c)
    (writable : c.layout.fault? = none) : ofText? read text = .ok c := by
  have made : ofDocument? (.dict entries) = .ok c :=
    (ofDocument?_dict entries).trans (ofValue?_of_isIn h gives)
  exact (ofText?_of_ok document made).1 (Json.Layout.lt_digitLimit writable)

end

end Config

end TermSheet

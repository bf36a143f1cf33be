import TermSheet.Proofs.Config.Validity
import TermSheet.Proofs.Json.RoundTrip

/-!
# The identity of a configuration

A configuration is given back by its settings, however these are spelt, and it is told from every
other one by its canonical text. The text is read back as the object of the configuration. In it the
level stands as its word, every day in its written form and the layout as a number or as nothing.
Each of these is found again from what is written.

Results:
* `ofValue?_of_settings`: the settings of a configuration.
* `toJson_injective`, `canonicalText_eq_iff`: the object and the text of a configuration.
* `settings_and_text_determine`: both.
-/

namespace TermSheet

theorem Log.Severity.word_injective {a b : Severity} (h : a.word = b.word) : a = b := by
  have found := ofWord?_word a
  rw [h, ofWord?_word] at found
  exact (Option.some.inj found).symm

theorem Date.isNamedBy_text (day : Date) : day.IsNamedBy (.text day.text) :=
  .text day.ofText?_text

namespace Config

variable {c d : Config}

/-! ## Settings -/

/-- A mapping that sets the level, the days and the layout of a configuration stands for it. -/
theorem ofValue?_of_settings {word : String} {items : List Value} {entries : List (Value × Value)}
    (level : word.toUpper = c.severity.word)
    (days : List.Forall₂ Date.IsNamedBy c.schedule.days items)
    (sets : Settings.IsIn ⟨some (.text word), some (.list items), some c.layout.setting⟩ entries) :
    ofValue? (.dict entries) = .ok c := by
  have listed : (Schedule.ofValue? (.list items)).mapError ConfigFault.schedule =
      .ok c.schedule := by
    rw [Schedule.ofValue?_list days]
    rfl
  exact ofValue?_of_isIn sets ⟨severity?_text level, listed, layout?_setting c.layout⟩

/-! ## The canonical text -/

theorem isFinite_toJson (c : Config) : c.toJson.isFinite = true := by
  have days : (Json.array (c.schedule.days.map fun day => .text day.text)).isFinite = true := by
    simp
  rw [toJson, Json.isFinite_object_iff]
  simp only [List.forall_mem_cons]
  refine ⟨days, ?_, rfl, List.forall_mem_nil _⟩
  cases c.layout <;> rfl

theorem toJson_injective (h : c.toJson = d.toJson) : c = d := by
  obtain ⟨severity, ⟨days, rising⟩, layout⟩ := c
  obtain ⟨severity', ⟨days', rising'⟩, layout'⟩ := d
  simp only [toJson, Json.object.injEq, List.cons.injEq, Prod.mk.injEq, true_and, and_true,
    Json.array.injEq, Json.text.injEq] at h
  obtain ⟨sameDays, sameLayout, sameWord⟩ := h
  obtain rfl := Log.Severity.word_injective sameWord
  obtain rfl : days = days' :=
    List.map_injective_iff.mpr (fun a b same => Date.text_injective (Json.text.inj same)) sameDays
  obtain rfl : layout = layout' := by
    cases layout <;> cases layout' <;> simp_all
  rfl

/-- The canonical texts of two configurations are the same exactly when the configurations are. -/
theorem canonicalText_eq_iff (few : c.layout.getD 0 < digitLimit)
    (few' : d.layout.getD 0 < digitLimit) : c.canonicalText = d.canonicalText ↔ c = d := by
  rw [canonicalText_of_lt c few, canonicalText_of_lt d few', Except.ok.injEq]
  constructor
  · intro same
    exact toJson_injective (Json.eq_of_render_eq c.isFinite_toJson d.isFinite_toJson same)
  · rintro rfl
    rfl

/-- **Settings and texts determine configurations.** A mapping that sets the level of a
    configuration in letters of any case, its days, each of them as the day, as a moment of that day
    or as a text of the day, and its layout, stands for the configuration, whatever else it says and
    in whatever order. Two configurations whose layouts have a width that can be written both have
    canonical texts, and these are the same exactly when the configurations are. -/
theorem settings_and_text_determine (c d : Config) :
    (∀ {word : String} {items : List Value} {entries : List (Value × Value)},
      word.toUpper = c.severity.word → List.Forall₂ Date.IsNamedBy c.schedule.days items →
      Settings.IsIn ⟨some (.text word), some (.list items), some c.layout.setting⟩ entries →
      ofValue? (.dict entries) = .ok c) ∧
    (c.layout.getD 0 < digitLimit → d.layout.getD 0 < digitLimit →
      ∃ s t, c.canonicalText = .ok s ∧ d.canonicalText = .ok t ∧ (s = t ↔ c = d)) := by
  refine ⟨ofValue?_of_settings, fun few few' => ?_⟩
  have same := canonicalText_eq_iff few few'
  rw [canonicalText_of_lt c few, canonicalText_of_lt d few', Except.ok.injEq] at same
  exact ⟨_, _, canonicalText_of_lt c few, canonicalText_of_lt d few', same⟩

/-- A configuration that is set in another order, with days in three forms, beside a section of
    another name, and one that differs from it in its layout. -/
theorem settings_and_text_determine_of_three_forms :
    let first : Date := ⟨2020, 12, 24, by decide⟩
    let last : Date := ⟨9999, 12, 31, by decide⟩
    let c : Config := ⟨.warning, ⟨[first, first, last], by decide⟩, none⟩
    let d : Config := { c with layout := some 0 }
    ofValue? (.dict [(.text "output", .dict [(.text "json_indent", .none)]),
      (.text "other", .int 1), (.text "evaluation", .dict [(.text "as_of_dates",
        .list [.date first, .dateTime ⟨first, 23, 59, 0, 0, none⟩, .text last.text])]),
      (.text "logging", .dict [(.text "level", .text "wArNing")])]) = .ok c ∧
    ∃ s t, c.canonicalText = .ok s ∧ d.canonicalText = .ok t ∧ s ≠ t := by
  intro first last c d
  have level : "wArNing".toUpper = c.severity.word := by
    apply String.toList_injective
    rw [String.toUpper, String.toList_map]
    decide
  have days : List.Forall₂ Date.IsNamedBy c.schedule.days
      [.date first, .dateTime ⟨first, 23, 59, 0, 0, none⟩, .text last.text] :=
    .cons .date (.cons (.dateTime rfl) (.cons last.isNamedBy_text .nil))
  have few : (0 : Nat) < digitLimit := lt_digitLimit (by decide)
  obtain ⟨s, t, hs, ht, same⟩ := (settings_and_text_determine c d).2 few few
  refine ⟨(settings_and_text_determine c d).1 level days
    ⟨⟨_, rfl, rfl⟩, ⟨_, rfl, rfl⟩, ⟨_, rfl, rfl⟩⟩, s, t, hs, ht, fun equal => ?_⟩
  exact absurd (same.mp equal) (by decide)

end Config

end TermSheet

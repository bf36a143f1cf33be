import TermSheet.Proofs.Config.Settings
import TermSheet.Yaml.Document

/-!
# Which documents are configurations

A configuration file should hold a mapping or nothing at all. Whatever the reader of documents is,
every mapping that it gives stands for what it sets, and most other values are refused, but those
that say nothing are taken for an empty mapping: falsehood, zero, and the empty texts and lists.

Results:
* `Value.isVacant_iff`: the values that say nothing.
* `Config.ofText?_of_document`: the configuration in a file, for every reader and document.
* `Config.ofText?_false`: a file that says `false`.
-/

namespace TermSheet

/-! ## Values that say nothing -/

/-- The values that say nothing and are neither null nor mappings. -/
inductive Value.IsHollow : Value → Prop
  | false : IsHollow (.bool false)
  | zero : IsHollow (.int 0)
  | zeroFloat (negative : Bool) : IsHollow (.float (.zero negative))
  | zeroDecimal {d : Decimal} (h : d.isZero = true) : IsHollow (.decimal (.finite d))
  | text : IsHollow (.text "")
  | bytes : IsHollow (.bytes [])
  | list : IsHollow (.list [])
  | tuple : IsHollow (.tuple [])

/-- The only floating-point numbers without a significand are the two zeros. -/
theorem Binary64.finite_eq_zero {negative : Bool} {significand : Nat} {exponent : Int}
    {fits : Fits significand exponent} (h : significand = 0) :
    finite negative significand exponent fits = zero negative := by
  subst h
  obtain ⟨-, -, -, least | large⟩ := fits
  · subst least
    rfl
  · exact absurd large (by decide)

theorem Value.isVacant_iff {v : Value} :
    v.isVacant = true ↔ v = .none ∨ v = .dict [] ∨ v.IsHollow := by
  constructor
  · intro h
    unfold isVacant at h
    split at h
    · exact Or.inl rfl
    · exact Or.inr (Or.inr .false)
    · exact Or.inr (Or.inr .text)
    · exact Or.inr (Or.inr .bytes)
    · exact Or.inr (Or.inr .list)
    · exact Or.inr (Or.inr .tuple)
    · exact Or.inr (Or.inl rfl)
    · next i =>
      obtain rfl : i = 0 := beq_iff_eq.mp h
      exact Or.inr (Or.inr .zero)
    · next negative significand exponent fits =>
      rw [Binary64.finite_eq_zero (beq_iff_eq.mp h)]
      exact Or.inr (Or.inr (.zeroFloat negative))
    · exact Or.inr (Or.inr (.zeroDecimal h))
    · cases h
  · rintro (rfl | rfl | hollow)
    · rfl
    · rfl
    · cases hollow with
      | zeroDecimal h => exact h
      | _ => rfl

namespace Config

/-- Only mappings are configurations. -/
theorem ofValue?_of_noMapping {v : Value} (noMapping : ∀ entries, v ≠ .dict entries) :
    ∃ fault, ofValue? v = .error fault ∧
      ∀ shown, v.exact = .ok shown → fault = .noMapping shown := by
  unfold ofValue?
  split
  · next entries => exact absurd rfl (noMapping entries)
  · unfold quoting
    cases form : v.exact with
    | ok shown => exact ⟨.noMapping shown, rfl, fun _ same => by cases same; rfl⟩
    | error cannot => exact ⟨.unshowable cannot, rfl, nofun⟩

variable {ε : Type} {read : String → Except ε Value} {text : String} {v : Value}

theorem ofText?_of_error (document : read text = .ok v) {fault : ConfigFault}
    (refused : ofDocument? v = .error fault) : ofText? read text = .error (.config fault) := by
  simp only [ofText?, document, Except.mapError, ok_bind, refused]
  rfl

/-- A document that says nothing is taken for an empty one. -/
theorem ofText?_of_isVacant (document : read text = .ok v) (vacant : v.isVacant = true) :
    ofText? read text = .ok {} := by
  have usual : ofDocument? v = .ok {} := if_pos vacant
  exact (ofText?_of_ok document usual).1 (lt_digitLimit (by decide))

/-- **Which documents are configurations.** Let a reader of documents decode the text of a file.
    Null stands for the usual configuration. A mapping stands for the configuration that it is as a
    value, and is refused for the reason for which the value is, except that a layout too wide for a
    written form is refused as well. Of the other values, those that say nothing are taken for an
    empty mapping, and all others are refused: they are no mapping. -/
theorem ofText?_of_document (document : read text = .ok v) :
    (v = .none → ofText? read text = .ok {}) ∧
    (∀ entries, v = .dict entries →
      (∀ fault, ofValue? v = .error fault → ofText? read text = .error (.config fault)) ∧
      ∀ c, ofValue? v = .ok c →
        (c.layout.getD 0 < digitLimit → ofText? read text = .ok c) ∧
        (digitLimit ≤ c.layout.getD 0 →
          ofText? read text = .error (.unshowable .tooManyDigits))) ∧
    (v.IsHollow → ofText? read text = .ok {}) ∧
    (v ≠ .none → (∀ entries, v ≠ .dict entries) → ¬ v.IsHollow →
      ∃ fault, ofText? read text = .error (.config fault) ∧
        ∀ shown, v.exact = .ok shown → fault = .noMapping shown) := by
  refine ⟨?_, ?_, ?_, ?_⟩
  · rintro rfl
    exact ofText?_of_isVacant document rfl
  · rintro entries rfl
    rw [← ofDocument?_dict]
    exact ⟨fun fault => ofText?_of_error document, fun c => ofText?_of_ok document⟩
  · intro hollow
    exact ofText?_of_isVacant document (Value.isVacant_iff.mpr (Or.inr (Or.inr hollow)))
  · intro present noMapping full
    have occupied : ¬ v.isVacant = true := by
      rw [Value.isVacant_iff]
      rintro (none | empty | hollow)
      · exact present none
      · exact noMapping [] empty
      · exact full hollow
    obtain ⟨fault, refused, quoted⟩ := ofValue?_of_noMapping noMapping
    have told : ofDocument? v = .error fault := (if_neg occupied).trans refused
    exact ⟨fault, ofText?_of_error document told, quoted⟩

end Config

/-! ## Three documents -/

namespace Yaml.Document

theorem read?_mapping :
    read? "logging: x\n" = .ok (.dict [(.text "logging", .text "x")]) := by
  have scanned : (tokens (unifyBreaks "logging: x\n".toList)).toOption =
      some [.blockMappingStart, .key, .scalar "logging" true, .value, .scalar "x" true,
        .blockEnd] := by decide +kernel
  exact read?_of_node (by decide +kernel) scanned rfl rfl

theorem read?_list : read? "- x\n" = .ok (.list [.text "x"]) := by
  have scanned : (tokens (unifyBreaks "- x\n".toList)).toOption =
      some [.blockSequenceStart, .blockEntry, .scalar "x" true, .blockEnd] := by decide +kernel
  exact read?_of_node (by decide +kernel) scanned rfl rfl

theorem read?_false : read? "false\n" = .ok (.bool false) := by
  have scanned : (tokens (unifyBreaks "false\n".toList)).toOption =
      some [.scalar "false" true] := by decide +kernel
  exact read?_of_node (by decide +kernel) scanned rfl rfl

end Yaml.Document

namespace Config

/-- A text without a document, a mapping with a section that is none, and a list. -/
theorem ofText?_of_document_of_three_texts :
    ofText? Yaml.Document.read? "" = .ok {} ∧
    ofText? Yaml.Document.read? "logging: x\n" =
      .error (.config (.noSection "logging" "'x'")) ∧
    ofText? Yaml.Document.read? "- x\n" = .error (.config (.noMapping "['x']")) := by
  refine ⟨?_, ?_, ?_⟩
  · exact (ofText?_of_document Yaml.Document.read?_nil).1 rfl
  · exact ((ofText?_of_document Yaml.Document.read?_mapping).2.1 _ rfl).1 _ rfl
  · obtain ⟨fault, refused, quoted⟩ :=
      (ofText?_of_document Yaml.Document.read?_list).2.2.2 nofun nofun nofun
    rw [refused, quoted "['x']" rfl]

/-- A file that says `false` stands for the usual configuration. -/
theorem ofText?_false :
    Yaml.Document.read? "false\n" = .ok (.bool false) ∧
      ofText? Yaml.Document.read? "false\n" = .ok {} :=
  ⟨Yaml.Document.read?_false, ofText?_of_isVacant Yaml.Document.read?_false rfl⟩

end Config

end TermSheet

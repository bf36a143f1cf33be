import TermSheet.Log.Logger
import TermSheet.Proofs.Json.Plain
import TermSheet.Proofs.Log.Fields
import TermSheet.Proofs.Value.Finite

/-!
# Refused amounts in the log

The error that a value is no amount holds the value, and a line that reports the error shows it in
a field of its own. The line exists exactly when the value has a JSON form for the log. Mappings
with a key that is no key of JSON have none, at any depth, and a record that cannot be written is
dropped: such a value is refused without a trace in the log. Where there is a line, it is a JSON
text unless a floating-point number in the value is not finite; such a number is written by a name
that JSON does not have.

Results:
* `Refusal.fields_entry`: the fields of the line.
* `Refusal.log_entry`: what is written, in terms of the JSON form of the value.
* `refused_amount_logged_iff`: the line is there exactly when all keys are keys of JSON, and it is a
  JSON text exactly when all numbers are finite.
* `refusals_without_object`: values whose refusal leaves no JSON object in the log.
-/

namespace TermSheet.Log

/-- A refused amount that is reported: by whom and in which words, with the trace of the error, the
    value and its plain form. -/
structure Refusal where
  logger : String
  template : String
  trace : String
  raw : Value
  shown : String

namespace Refusal

/-- The entry that reports a refused amount. -/
def entry (r : Refusal) : Entry where
  logger := r.logger
  level := Level.error
  template := r.template
  problem := some (.illegalAmount r.raw r.shown)
  trace := r.trace

/-- What a line says in front of the problem. -/
def envelopePart (r : Refusal) (context : Context) (time : String) : List (String × String) :=
  [("ts", time), ("level", "ERROR"), ("logger", r.logger), ("message", r.template)] ++
    (context.map fun portfolio => (portfolioField, portfolio)).toList

/-- What a line says of a refused amount in front of the value. -/
def errorPart (r : Refusal) : List (String × String) :=
  [("exc_type", "InvalidAmountError"), ("exc_message", "Illegal amount: '" ++ r.shown ++ "'"),
    ("exc_code", "INVALID_AMOUNT")]

/-- What a line says of a refused amount, where texts and values have forms of some type. -/
def errorFields {α : Type} (r : Refusal) (text : String → α) (value : α) : List (String × α) :=
  textFields text r.errorPart ++ [("exc_value", value), ("traceback", text r.trace)]

/-- The fields of a line that reports a refused amount. -/
def fields {α : Type} (r : Refusal) (text : String → α) (context : Context) (time : String)
    (value : α) : List (String × α) :=
  textFields text (r.envelopePart context time) ++ r.errorFields text value

variable {context : Context} {now : Binary64} {moment : DateTime} (r : Refusal)

/-! ## Fields -/

/-- What is said of a refused amount is put one after the other. -/
theorem withProblem_illegalAmount (fields : Fields) :
    Record.withProblem fields (.illegalAmount r.raw r.shown) r.trace =
      .ok ((r.errorFields .text r.raw).foldl
        (fun fields (name, value) => fields.put name value) fields) := rfl

theorem fields_entry (clock : DateTime.ofSeconds? (.float now) = .ok moment) :
    (r.entry.record now).fields context = .ok (r.fields .text context moment.text r.raw) := by
  have envelope : (r.entry.record now).envelope context moment.text r.template =
      textFields .text (r.envelopePart context moment.text) := by
    cases context <;> rfl
  have names : ((r.fields Value.text context moment.text r.raw).map (·.1)).Nodup := by
    cases context with
    | none =>
      show ["ts", "level", "logger", "message", "exc_type", "exc_message", "exc_code", "exc_value",
        "traceback"].Nodup
      decide
    | some portfolio =>
      show ["ts", "level", "logger", "message", "portfolio_id", "exc_type", "exc_message",
        "exc_code", "exc_value", "traceback"].Nodup
      decide
  have message : (r.entry.record now).message = .ok r.template := rfl
  have created : (r.entry.record now).created = .float now := rfl
  have caught : (r.entry.record now).problem? = .ok (some (.illegalAmount r.raw r.shown)) := rfl
  have trace : (r.entry.record now).trace = r.trace := rfl
  rw [Record.fields, created, clock]
  simp only [Except.mapError, ok_bind, message, envelope, caught, trace]
  rw [withProblem_illegalAmount, Fields.foldl_put names, Refusal.fields]

/-! ## Lines -/

/-- All fields but one hold texts, and the one that holds the value decides. -/
theorem json_entry (clock : DateTime.ofSeconds? (.float now) = .ok moment) :
    (r.entry.record now).json context =
      (r.raw.logForm.mapError LineFault.json).map fun j =>
        .object (r.fields .text context moment.text j) := by
  rw [Record.json, fields_entry r clock, ok_bind, fields, errorFields, List.mapM_append,
    List.mapM_append, mapM_textFields, mapM_textFields, ok_bind, ok_bind, List.mapM_cons,
    List.mapM_cons, List.mapM_nil]
  dsimp only
  cases r.raw.logForm <;> rfl

/-- What is written of a refused amount where logging has a destination at the level of errors or
    below: one line, if the value has a form for the log. -/
theorem log_entry {s : State} {destination : Destination}
    (configured : s.destination = some destination) (level : s.level ≤ Level.error)
    (clock : DateTime.ofSeconds? (.float s.now) = .ok moment) :
    s.log r.entry = .ok (r.raw.logForm.toOption.map fun j => (destination,
      (Json.object (r.fields .text s.context moment.text j)).render none ++ "\n")) := by
  have enabled : s.enabled Level.error = true := by
    have effective : s.effectiveLevel ≤ Level.error := by
      unfold State.effectiveLevel
      split
      · decide
      · exact level
    simp only [State.enabled, Bool.and_eq_true, decide_eq_true_eq]
    exact ⟨by decide, effective⟩
  have written : s.written r.entry = r.raw.logForm.toOption.map fun j => (destination,
      (Json.object (r.fields .text s.context moment.text j)).render none ++ "\n") := by
    rw [State.written, configured]
    simp only [Record.line, json_entry r clock]
    cases r.raw.logForm <;> rfl
  rw [State.log, show r.entry.level = Level.error from rfl, if_pos enabled, written]
  rfl

/-! ## Which refusals are logged -/

theorem lookup_fields {α : Type} (text : String → α) (context : Context) (time : String)
    (value : α) :
    (r.fields text context time value).lookup "exc_type" = some (text "InvalidAmountError") ∧
      (r.fields text context time value).lookup "exc_code" = some (text "INVALID_AMOUNT") ∧
      (r.fields text context time value).lookup "exc_value" = some value := by
  cases context with
  | none => exact ⟨rfl, rfl, rfl⟩
  | some portfolio => exact ⟨rfl, rfl, rfl⟩

/-- All numbers of a line are in the value. -/
theorem isFinite_fields (context : Context) (time : String) (j : Json) :
    (Json.object (r.fields .text context time j)).isFinite = j.isFinite := by
  have texts (pairs : List (String × String)) :
      (textFields Json.text pairs).all (fun field => field.2.isFinite) = true := by
    rw [List.all_eq_true]
    intro field mem
    obtain ⟨pair, -, rfl⟩ := List.mem_map.mp mem
    rfl
  rw [Json.isFinite_object, fields, errorFields, List.all_append, List.all_append, texts, texts,
    List.all_cons, List.all_cons, List.all_nil, Json.isFinite_text]
  simp only [Bool.true_and, Bool.and_true]

/-- A value that JSON has no keys for is refused without a line. -/
theorem log_entry_eq_none {s : State} {destination : Destination}
    (configured : s.destination = some destination) (level : s.level ≤ Level.error)
    (clock : DateTime.ofSeconds? (.float s.now) = .ok moment) (written : ∃ t, r.raw.exact = .ok t)
    (key : ∃ k ∈ r.raw.keys, k.isKey = false) : s.log r.entry = .ok none := by
  have noForm : ¬∃ j, r.raw.logForm = .ok j := by
    rw [Value.exists_logForm_iff written]
    obtain ⟨k, mem, notKey⟩ := key
    intro all
    rw [all k mem] at notKey
    cases notKey
  rw [log_entry r configured level clock]
  cases form : r.raw.logForm with
  | error fault => rfl
  | ok j => exact absurd ⟨j, form⟩ noForm

/-- The line of a value with a form, and whether it is a JSON text. -/
theorem exists_line_of_logForm {s : State} {destination : Destination}
    (configured : s.destination = some destination) (level : s.level ≤ Level.error)
    (clock : DateTime.ofSeconds? (.float s.now) = .ok moment) {j : Json}
    (form : r.raw.logForm = .ok j) :
    ∃ line, s.log r.entry = .ok (some (destination, line ++ "\n")) ∧
      line = (Json.object (r.fields .text s.context moment.text j)).render none ∧
      Json.ofText? line = if r.raw.floats.all Binary64.isFinite then
        some (.object (r.fields .text s.context moment.text j)) else none := by
  refine ⟨_, ?_, rfl, ?_⟩
  · rw [log_entry r configured level clock, form]
    rfl
  · rw [Json.ofText?_render_eq, isFinite_fields, Value.isFinite_of_logForm form]

end Refusal

open Refusal

/-- A refused amount is reported on exactly one line, with the type of the error, its code and the
    value in a form for the log, when all keys in the value are keys of JSON. Otherwise nothing is
    written. The line is the text of a JSON object when all floating-point numbers in the value are
    finite, and otherwise it is no JSON text. -/
theorem refused_amount_logged_iff {s : State} {destination : Destination}
    (configured : s.destination = some destination) (level : s.level ≤ Level.error)
    {moment : DateTime} (clock : DateTime.ofSeconds? (.float s.now) = .ok moment) {v : Value}
    (r : Refusal) (refused : Amount.ofValue? v = .error (.illegal r.raw r.shown)) :
    ((∀ k ∈ r.raw.keys, k.isKey = true) → ∃ line fields j,
      s.log r.entry = .ok (some (destination, line ++ "\n")) ∧
        '\n' ∉ line.toList ∧ line = (Json.object fields).render none ∧
        ((∀ x ∈ r.raw.floats, x.isFinite = true) → Json.ofText? line = some (.object fields)) ∧
        ((∃ x ∈ r.raw.floats, x.isFinite = false) → Json.ofText? line = none) ∧
        fields.lookup "exc_type" = some (.text "InvalidAmountError") ∧
        fields.lookup "exc_code" = some (.text "INVALID_AMOUNT") ∧
        r.raw.logForm = .ok j ∧ fields.lookup "exc_value" = some j) ∧
    ((∃ k ∈ r.raw.keys, k.isKey = false) → s.log r.entry = .ok none) := by
  have written := Amount.exists_exact_of_illegal refused
  refine ⟨fun keys => ?_, log_entry_eq_none r configured level clock written⟩
  obtain ⟨j, form⟩ := (Value.exists_logForm_iff written).mpr keys
  obtain ⟨line, logged, shape, read⟩ := exists_line_of_logForm r configured level clock form
  obtain ⟨type, code, value⟩ := lookup_fields r Json.text s.context moment.text j
  refine ⟨line, _, j, logged, ?_, shape, fun finite => ?_, fun ⟨x, mem, infinite⟩ => ?_, type, code,
    form, value⟩
  · rw [shape]
    exact Json.newline_not_mem_render _
  · rw [read, if_pos (List.all_eq_true.mpr finite)]
  · rw [read, if_neg]
    intro all
    rw [List.all_eq_true.mp all x mem] at infinite
    cases infinite

/-! ## Refusals with and without a JSON object -/

/-- Logging at the usual level with one stream, at the start of the clock. -/
def streamState : State := State.start.configure Level.info (.stream 0)

theorem exists_clock : ∃ moment, DateTime.ofSeconds? (.float streamState.now) = .ok moment := by
  have known : (DateTime.ofSeconds? (.float streamState.now)).toOption.isSome = true := by
    decide +kernel
  cases clock : DateTime.ofSeconds? (.float streamState.now) with
  | error fault =>
    rw [clock] at known
    cases known
  | ok moment => exact ⟨moment, rfl⟩

/-- A refusal with a plain form, as a test reports it. -/
def refusalOf (raw : Value) (shown : String) : Refusal where
  logger := "finance_contracts.test"
  template := "amount_error"
  trace := "Traceback"
  raw
  shown

/-- A value whose plain form is no number is refused with it. -/
theorem ofValue?_of_plain {items : List Value} {shown : String}
    (plain : (Value.list items).plain = .ok shown) (unread : Numeral.ofText? shown = none) :
    Amount.ofValue? (.list items) = .error (.illegal (.list items) shown) := by
  simp only [Amount.ofValue?, plain, unread]

/-- A text and a number in a list. -/
def mixedList : Value := .list [.text "EUR", .float (.zero false)]

theorem refused_mixedList :
    Amount.ofValue? mixedList = .error (.illegal mixedList "['EUR', 0.0]") :=
  ofValue?_of_plain rfl (by decide)

/-- A list with a value that is no number. -/
def nanList : Value := .list [.float .nan]

theorem refused_nanList : Amount.ofValue? nanList = .error (.illegal nanList "[nan]") :=
  ofValue?_of_plain rfl (by decide)

/-- The number three under the pair of one and two. -/
def pairMapping : Value := .dict [(.tuple [.int 1, .int 2], .int 3)]

theorem refused_pairMapping :
    Amount.ofValue? pairMapping = .error (.illegal pairMapping "\x7b(1, 2): 3\x7d") := by
  have unread : Numeral.ofText? "\x7b(1, 2): 3\x7d" = none := by decide
  have written {i : Int} (h : i.natAbs < mostDigits) : intText i = .ok (toString i) :=
    intText_of_lt (lt_digitLimit h)
  have one : intText 1 = .ok "1" := written (by decide)
  have two : intText 2 = .ok "2" := written (by decide)
  have three : intText 3 = .ok "3" := written (by decide)
  have plain : pairMapping.plain = .ok "\x7b(1, 2): 3\x7d" := by
    simp only [pairMapping, Value.plain, Value.exact, Value.exactEntries, Value.exactList, one, two,
      three, ok_bind]
    rfl
  simp only [pairMapping] at plain ⊢
  simp only [Amount.ofValue?, plain, unread]

/-- A list is refused and reported as an object, one with a value that is no number is reported on a
    line that is no JSON, and a mapping whose key is a pair is only refused. -/
theorem refused_amount_logged_iff_of_three_values :
    (∃ line fields, streamState.log (refusalOf mixedList "['EUR', 0.0]").entry =
        .ok (some (.stream 0, line ++ "\n")) ∧ Json.ofText? line = some (.object fields) ∧
        fields.lookup "exc_value" = some (.array [.text "EUR", .float (.zero false)])) ∧
    (∃ line, streamState.log (refusalOf nanList "[nan]").entry =
        .ok (some (.stream 0, line ++ "\n")) ∧ Json.ofText? line = none) ∧
    streamState.log (refusalOf pairMapping "\x7b(1, 2): 3\x7d").entry = .ok none := by
  obtain ⟨moment, clock⟩ := exists_clock
  have level : streamState.level ≤ Level.error := by decide
  obtain ⟨object, -⟩ := refused_amount_logged_iff rfl level clock
    (refusalOf mixedList "['EUR', 0.0]") refused_mixedList
  obtain ⟨named, -⟩ := refused_amount_logged_iff rfl level clock
    (refusalOf nanList "[nan]") refused_nanList
  obtain ⟨-, dropped⟩ := refused_amount_logged_iff rfl level clock
    (refusalOf pairMapping "\x7b(1, 2): 3\x7d") refused_pairMapping
  refine ⟨?_, ?_, dropped ⟨_, List.mem_cons_self, rfl⟩⟩
  · obtain ⟨line, fields, j, written, -, -, read, -, -, -, form, value⟩ := object nofun
    have shown : mixedList.logForm = .ok (.array [.text "EUR", .float (.zero false)]) := rfl
    have same : mixedList.logForm = .ok j := form
    rw [shown] at same
    cases same
    refine ⟨line, fields, written, read fun x mem => ?_, value⟩
    rw [List.mem_singleton.mp mem]
    rfl
  · obtain ⟨line, fields, j, written, -, -, -, unread, -⟩ := named nofun
    exact ⟨line, written, unread ⟨.nan, List.mem_cons_self, rfl⟩⟩

/-- A mapping whose key is a pair is refused as an amount, and the refusal leaves no line. A list
    with a value that is no number is refused, and the line is no JSON text. -/
theorem refusals_without_object :
    (Amount.ofValue? pairMapping = .error (.illegal pairMapping "\x7b(1, 2): 3\x7d") ∧
      streamState.log (refusalOf pairMapping "\x7b(1, 2): 3\x7d").entry = .ok none) ∧
    Amount.ofValue? nanList = .error (.illegal nanList "[nan]") ∧
      ∃ line, streamState.log (refusalOf nanList "[nan]").entry =
        .ok (some (.stream 0, line ++ "\n")) ∧ Json.ofText? line = none := by
  obtain ⟨moment, clock⟩ := exists_clock
  have level : streamState.level ≤ Level.error := by decide
  have form : nanList.logForm = .ok (.array [.float .nan]) := rfl
  obtain ⟨line, logged, -, read⟩ :=
    exists_line_of_logForm (refusalOf nanList "[nan]") rfl level clock form
  exact ⟨⟨refused_pairMapping, log_entry_eq_none _ rfl level clock
    (Amount.exists_exact_of_illegal refused_pairMapping) ⟨_, List.mem_cons_self, rfl⟩⟩,
    refused_nanList, line, logged, read⟩

end TermSheet.Log

import TermSheet.Proofs.Json.Plain
import TermSheet.Proofs.Log.History
import TermSheet.Proofs.Log.Rejection
import TermSheet.Proofs.Value.LogForm

/-!
# Lines cannot be forged

The line of a record without a problem is one object on one line of ASCII. In front stand the time,
the level, the logger, the message and the portfolio in the context, and no field of the record can
take their place, hide them or break the line, whatever its name and whatever texts it holds. Every
other field stands behind them under its own name, and nothing else does.

Results:
* `Fields.foldl_keep`: fields are put behind others unless their names are hidden or taken.
* `fields_record`: the fields of a line.
* `json_record`, `json_record_of_logsAs`: the object of a line.
* `line_shows_record`: the line is read back as what the record and the context say.
-/

namespace TermSheet.Log

namespace Fields

theorem has_iff {fields : Fields} {name : String} :
    fields.has name = true ↔ name ∈ fields.map (·.1) := by
  simp [has]

/-- Fields with names of their own are put behind the others, in their order, except where their
    names are hidden or taken. -/
theorem foldl_keep (hidden : List String) {fields new : Fields}
    (distinct : (new.map (·.1)).Nodup) :
    new.foldl (fun fields (name, value) =>
      if hidden.contains name || fields.has name then fields else fields.put name value) fields =
      fields ++ new.filter fun field => !(hidden.contains field.1 || fields.has field.1) := by
  induction new generalizing fields with
  | nil => rw [List.foldl_nil, List.filter_nil, List.append_nil]
  | cons field new ih =>
    obtain ⟨name, value⟩ := field
    rw [List.map_cons, List.nodup_cons] at distinct
    rw [List.foldl_cons, List.filter_cons]
    dsimp only
    cases skipped : hidden.contains name || fields.has name with
    | true =>
      rw [if_pos rfl, ih distinct.2]
      rfl
    | false =>
      have free : name ∉ fields.map (·.1) := by
        rw [← has_iff, (Bool.or_eq_false_iff.mp skipped).2]
        exact Bool.false_ne_true
      -- No later field has this name, so it makes no difference to them that it is taken now.
      have same : ∀ field ∈ new, (!(hidden.contains field.1 ||
          Fields.has (fields ++ [(name, value)]) field.1)) =
          !(hidden.contains field.1 || fields.has field.1) := by
        intro field mem
        have other : (name == field.1) = false :=
          beq_eq_false_iff_ne.mpr fun same => distinct.1 (List.mem_map.mpr ⟨field, mem, same.symm⟩)
        simp only [has, List.any_append, List.any_cons, List.any_nil, other, Bool.or_false]
      rw [if_neg Bool.false_ne_true, if_pos (by rfl), put_of_not_mem free, ih distinct.2,
        List.filter_congr same, List.append_assoc, List.singleton_append]

end Fields

/-! ## The fields of a line -/

/-- What stands in front of the fields of a record. -/
def heading (context : Context) (time level logger message : String) : List (String × String) :=
  [("ts", time), ("level", level), ("logger", logger), ("message", message)] ++
    (context.map fun portfolio => (portfolioField, portfolio)).toList

/-- The names in front of the fields of a record. -/
def headingNames (context : Context) : List String :=
  ["ts", "level", "logger", "message"] ++ (context.map fun _ => portfolioField).toList

theorem map_fst_heading (context : Context) (time level logger message : String) :
    (heading context time level logger message).map (·.1) = headingNames context := by
  cases context <;> rfl

theorem nodup_headingNames (context : Context) : (headingNames context).Nodup := by
  cases context with
  | none => exact (by decide : ["ts", "level", "logger", "message"].Nodup)
  | some portfolio =>
    exact (by decide : ["ts", "level", "logger", "message", "portfolio_id"].Nodup)

/-- The fields of an entry that are shown: no name in front is used twice, and the name of a task is
    left out. -/
def Entry.shownExtras (context : Context) (e : Entry) : Fields :=
  e.extras.filter fun field => field.1 ≠ "taskName" ∧ field.1 ∉ headingNames context

/-- Of the names that are never shown, only the name of a task is admitted. -/
theorem mem_hiddenNames_iff {name : String} (h : name ∉ reservedNames) :
    name ∈ Record.hiddenNames ↔ name = "taskName" := by
  simp only [reservedNames, Record.hiddenNames, List.mem_cons, not_or] at h ⊢
  obtain ⟨message, -, own⟩ := h
  simp only [message, own, or_false, false_or]

section Line

variable {e : Entry} {context : Context} {now : Binary64} {moment : DateTime} {message : String}

theorem envelope_record (admitted : e.IsAdmitted) (distinct : (e.extras.map (·.1)).Nodup)
    (time : String) :
    (e.record now).envelope context time message =
      textFields .text (heading context time e.level.name e.logger message) ++
        e.shownExtras context := by
  have shown (fields : Fields) (names : fields.map (·.1) = headingNames context) :
      (e.extras.filter fun field =>
        !(Record.hiddenNames.contains field.1 || fields.has field.1)) = e.shownExtras context := by
    refine List.filter_congr fun field mem => ?_
    have hidden := mem_hiddenNames_iff (admitted field mem)
    have taken : fields.has field.1 = true ↔ field.1 ∈ headingNames context := by
      rw [Fields.has_iff, names]
    rw [Bool.eq_iff_iff, Bool.not_eq_true', ← Bool.not_eq_true, Bool.or_eq_true,
      List.contains_iff_mem, hidden, taken, not_or, decide_eq_true_eq]
  unfold Record.envelope
  cases context with
  | none =>
    exact (Fields.foldl_keep _ distinct).trans (congrArg _ (shown _ rfl))
  | some portfolio =>
    exact (Fields.foldl_keep _ distinct).trans (congrArg _ (shown _ rfl))

theorem fields_record (clock : DateTime.ofSeconds? (.float now) = .ok moment)
    (sound : e.problem = none) (formats : (e.record now).message = .ok message)
    (admitted : e.IsAdmitted) (distinct : (e.extras.map (·.1)).Nodup) :
    (e.record now).fields context =
      .ok (textFields .text (heading context moment.text e.level.name e.logger message) ++
        e.shownExtras context) := by
  have created : (e.record now).created = .float now := rfl
  have none : (e.record now).problem? = .ok none := by
    rw [Entry.record, sound]
    rfl
  rw [Record.fields, created, clock]
  simp only [Except.mapError, ok_bind, formats, none, envelope_record admitted distinct]
  rfl

theorem json_record_of_logsAs {shown : List (String × Json)}
    (clock : DateTime.ofSeconds? (.float now) = .ok moment)
    (sound : e.problem = none) (formats : (e.record now).message = .ok message)
    (admitted : e.IsAdmitted) (distinct : (e.extras.map (·.1)).Nodup)
    (each : List.Forall₂ (fun field j => j.1 = field.1 ∧ field.2.LogsAs j.2)
      (e.shownExtras context) shown) :
    (e.record now).json context = .ok (.object (textFields .text
      (heading context moment.text e.level.name e.logger message) ++ shown)) := by
  have made : (e.shownExtras context).mapM (fun (name, value) => do
      return (name, ← value.logForm.mapError LineFault.json)) = .ok shown :=
    mapM_logForm_eq_ok_iff.mpr (each.imp fun _ _ same => ⟨same.1, same.2.logForm⟩)
  rw [Record.json, fields_record clock sound formats admitted distinct, ok_bind,
    List.mapM_append, mapM_textFields, ok_bind, made]
  rfl

/-- Every field of an entry that is shown has its own name and the form of its value. -/
theorem json_record (context : Context) (clock : DateTime.ofSeconds? (.float now) = .ok moment)
    (sound : e.problem = none) (formats : (e.record now).message = .ok message)
    (admitted : e.IsAdmitted) (distinct : (e.extras.map (·.1)).Nodup)
    (loggable : ∀ field ∈ e.extras, field.2.IsLoggable) :
    ∃ shown : List (String × Json),
      List.Forall₂ (fun field j => j.1 = field.1 ∧ field.2.LogsAs j.2) (e.shownExtras context)
        shown ∧
      (e.record now).json context = .ok (.object (textFields .text
        (heading context moment.text e.level.name e.logger message) ++ shown)) := by
  have forms : ∀ field ∈ e.shownExtras context,
      ∃ j : String × Json, j.1 = field.1 ∧ field.2.LogsAs j.2 := by
    intro field mem
    obtain ⟨j, logs⟩ := (loggable field (List.mem_filter.mp mem).1).exists_logsAs
    exact ⟨(field.1, j), rfl, logs⟩
  obtain ⟨shown, each⟩ := exists_forall₂ forms
  exact ⟨shown, each, json_record_of_logsAs clock sound formats admitted distinct each⟩

end Line

/-! ## Lines -/

theorem nodup_shownExtras {e : Entry} (distinct : (e.extras.map (·.1)).Nodup) (context : Context) :
    (headingNames context ++ (e.shownExtras context).map (·.1)).Nodup := by
  refine List.nodup_append.mpr ⟨nodup_headingNames context,
    distinct.sublist (List.filter_sublist.map _), ?_⟩
  rintro name taken _ mem rfl
  obtain ⟨field, found, rfl⟩ := List.mem_map.mp mem
  exact (of_decide_eq_true (List.mem_filter.mp found).2).2 taken

/-- Every field of a line holds the form of a value, those in front the form of a text. -/
theorem exists_logsAs_of_mem {fields : Fields} {shown : List (String × Json)}
    (h : List.Forall₂ (fun field j => j.1 = field.1 ∧ field.2.LogsAs j.2) fields shown)
    (texts : List (String × String)) :
    ∀ field ∈ textFields Json.text texts ++ shown, ∃ v : Value, v.LogsAs field.2 := by
  intro field mem
  rcases List.mem_append.mp mem with front | behind
  · obtain ⟨pair, -, rfl⟩ := List.mem_map.mp front
    exact ⟨.text pair.2, .text pair.2⟩
  · obtain ⟨source, -, -, logs⟩ := exists_mem_of_forall₂ h.flip behind
    exact ⟨source.2, logs⟩

theorem lookup_heading (context : Context) (time level logger message : String)
    (shown : List (String × Json)) :
    let fields := textFields Json.text (heading context time level logger message) ++ shown
    fields.lookup "ts" = some (.text time) ∧ fields.lookup "level" = some (.text level) ∧
      fields.lookup "logger" = some (.text logger) ∧
      fields.lookup "message" = some (.text message) ∧
      ∀ portfolio, context = some portfolio →
        fields.lookup portfolioField = some (.text portfolio) := by
  cases context with
  | none => exact ⟨rfl, rfl, rfl, rfl, fun _ h => by cases h⟩
  | some portfolio => exact ⟨rfl, rfl, rfl, rfl, fun _ h => by cases h; rfl⟩

/-- **Lines cannot be forged.** An entry without a problem whose message can be made and whose
    fields are admitted has a line. The line is ASCII, has no line break, and is read back as an
    object without a key that occurs twice. In it, the time, the level, the logger and the message
    are those of the record, the portfolio is the one in the context if there is one, and every
    field of the entry but the name of a task and the names of these stands under its own name.
    There are no further keys. -/
theorem line_shows_record {s : State} {e : Entry} {moment : DateTime} {message : String}
    (clock : DateTime.ofSeconds? (.float s.now) = .ok moment) (sound : e.problem = none)
    (formats : (e.record s.now).message = .ok message) (admitted : e.IsAdmitted)
    (distinct : (e.extras.map (·.1)).Nodup) (loggable : ∀ field ∈ e.extras, field.2.IsLoggable) :
    ∃ line fields,
      (e.record s.now).line s.context = .ok line ∧
      (∀ destination, s.destination = some destination → s.enabled e.level = true →
        s.log e = .ok (some (destination, line ++ "\n"))) ∧
      '\n' ∉ line.toList ∧ (∀ c ∈ line.toList, c.toNat < 0x80) ∧
      Json.ofText? line = some (.object fields) ∧ (Json.object fields).HasDistinctKeys ∧
      fields.lookup "ts" = some (.text moment.text) ∧
      fields.lookup "level" = some (.text e.level.name) ∧
      fields.lookup "logger" = some (.text e.logger) ∧
      fields.lookup "message" = some (.text message) ∧
      (∀ portfolio, s.context = some portfolio →
        fields.lookup portfolioField = some (.text portfolio)) ∧
      (∀ name v, (name, v) ∈ e.extras → name ≠ "taskName" → name ∉ headingNames s.context →
        ∃ j, v.LogsAs j ∧ fields.lookup name = some j) ∧
      fields.map (·.1) = headingNames s.context ++ (e.extras.map (·.1)).filter fun name =>
        name ≠ "taskName" ∧ name ∉ headingNames s.context := by
  obtain ⟨shown, each, object⟩ :=
    json_record s.context clock sound formats admitted distinct loggable
  obtain ⟨ts, level, logger, text, portfolio⟩ :=
    lookup_heading s.context moment.text e.level.name e.logger message shown
  have parts := exists_logsAs_of_mem each
    (heading s.context moment.text e.level.name e.logger message)
  generalize made : textFields Json.text
    (heading s.context moment.text e.level.name e.logger message) ++ shown = fields at *
  have names : fields.map (·.1) =
      headingNames s.context ++ (e.shownExtras s.context).map (·.1) := by
    rw [← made, List.map_append, map_fst_textFields, map_fst_heading, map_fst_eq_of_forall₂ each]
  have once : (fields.map (·.1)).Nodup := by
    rw [names]
    exact nodup_shownExtras distinct s.context
  have line : (e.record s.now).line s.context = .ok ((Json.object fields).render none) := by
    rw [Record.line, object]
    rfl
  have finite : (Json.object fields).isFinite = true := by
    refine Json.isFinite_object_iff.mpr fun field mem => ?_
    obtain ⟨v, logs⟩ := parts field mem
    exact logs.isFinite
  have keys : (Json.object fields).HasDistinctKeys := by
    refine .object once fun field mem => ?_
    obtain ⟨v, logs⟩ := parts field mem
    exact logs.hasDistinctKeys
  refine ⟨_, fields, line, fun destination configured enabled => ?_,
    Json.newline_not_mem_render _, Json.ascii_of_mem_render _ none, Json.ofText?_render finite none,
    keys, ts, level, logger, text, portfolio, fun name v mem task free => ?_, ?_⟩
  · rw [State.log_of_admitted enabled admitted, State.written, configured]
    simp only [line]
    rfl
  · have kept : (name, v) ∈ e.shownExtras s.context :=
      List.mem_filter.mpr ⟨mem, decide_eq_true ⟨task, free⟩⟩
    obtain ⟨⟨_, j⟩, found, rfl, logs⟩ := exists_mem_of_forall₂ each kept
    refine ⟨j, logs, lookup_eq_some_of_mem once ?_⟩
    rw [← made]
    exact List.mem_append_right _ found
  · rw [names, List.filter_map]
    rfl

/-- An entry whose fields have the names of the fields in front, and whose texts have line breaks
    and quotes. -/
def forgery : Entry where
  logger := loggerName "test"
  level := Level.info
  template := "first\nsecond"
  extras := [("ts", .text "never"), ("level", .int 99), ("portfolio_id", .text "other"),
    ("taskName", .none), ("as_of", .date ⟨2022, 2, 28, by decide⟩),
    ("note", .list [.text "\"\n", .decimal (.finite ⟨false, 10050, -2⟩)])]

/-- The fields of an entry cannot take the place of what stands in front of them. -/
theorem line_shows_record_of_forgery :
    let s : State := { streamState with context := some "portfolio" }
    ∃ line fields, s.log forgery = .ok (some (.stream 0, line ++ "\n")) ∧ '\n' ∉ line.toList ∧
      Json.ofText? line = some (.object fields) ∧
      fields.lookup "level" = some (.text "INFO") ∧
      fields.lookup "message" = some (.text "first\nsecond") ∧
      fields.lookup "portfolio_id" = some (.text "portfolio") ∧
      fields.lookup "as_of" = some (.text "2022-02-28") ∧
      fields.map (·.1) =
        ["ts", "level", "logger", "message", "portfolio_id", "as_of", "note"] := by
  intro s
  obtain ⟨moment, clock⟩ := exists_clock
  have loggable : ∀ field ∈ forgery.extras, field.2.IsLoggable := by
    have items : ∀ item ∈ [Value.text "\"\n", .decimal (.finite ⟨false, 10050, -2⟩)],
        item.IsLoggable := by
      simp only [List.forall_mem_cons]
      exact ⟨.text _, .decimal _, nofun⟩
    simp only [forgery, List.forall_mem_cons]
    exact ⟨.text _, .int (lt_digitLimit (by decide)), .text _, .none, .date _, .list items, nofun⟩
  obtain ⟨line, fields, -, written, flat, -, read, -, -, level, -, message, portfolio, others,
    names⟩ := line_shows_record (s := s) (e := forgery) clock rfl rfl (by decide) (by decide)
      loggable
  refine ⟨line, fields, written _ rfl (by decide), flat, read, level, message, portfolio _ rfl, ?_,
    names⟩
  obtain ⟨j, logs, found⟩ := others "as_of" (.date ⟨2022, 2, 28, by decide⟩)
    (by simp [forgery]) (by decide) (by decide)
  cases logs
  exact found

end TermSheet.Log

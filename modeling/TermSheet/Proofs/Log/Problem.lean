import TermSheet.Proofs.Log.Rejection

/-!
# Problems in the log

What a line says of a problem is put over the fields of the record, so no field of the record can
hide it: first the type, the message and the code, then the attributes, each under its name behind
the same few letters. The attributes have names of their own, but those can be the names of the type
and of the message, and then the attributes take their places. The code is kept, for an attribute of
its name is the code.

Results:
* `withProblem_eq`: all that is said of a problem, one after the other.
* `line_eq_ok_iff_of_problem`: the fields of a line, and the form of each.
* `line_identifies_problem`: the line shows all of it, except where an attribute takes a place.
* `line_loses_identity`: a problem whose attributes take both places.
-/

namespace TermSheet.Log

namespace Problem

/-- The attributes that are shown: none whose name starts with a low line, and neither the arguments
    nor the code. -/
def shows (name : String) : Bool :=
  name.toList.head? != some '_' && name != "args" && name != "code"

/-- What is said of a problem besides its attributes. -/
def identity (p : Problem) (text : String) : Fields :=
  [("type", .text p.typeName), ("message", .text text)] ++
    (p.code?.map fun code => ("code", code)).toList

/-- All that is said of a problem. -/
def said (p : Problem) (text : String) (attributes : Fields) : Fields :=
  p.identity text ++ attributes.filter fun field => shows field.1

/-- A field with the name that it has in a line. -/
def prefixed (field : String × Value) : String × Value := ("exc_" ++ field.1, field.2)

variable {p : Problem} {text : String} {attributes : Fields} {name : String} {v : Value}

theorem shows_iff :
    shows name = true ↔ name.toList.head? ≠ some '_' ∧ name ≠ "args" ∧ name ≠ "code" := by
  simp only [shows, Bool.and_eq_true, bne_iff_ne, and_assoc]

theorem nodup_identity (p : Problem) (text : String) : ((p.identity text).map (·.1)).Nodup := by
  unfold identity
  cases p.code? with
  | none => exact (by decide : ["type", "message"].Nodup)
  | some code => exact (by decide : ["type", "message", "code"].Nodup)

theorem lookup_prefixed (fields : Fields) (name : String) :
    (fields.map prefixed).lookup ("exc_" ++ name) = fields.lookup name := by
  induction fields with
  | nil => rfl
  | cons field fields ih =>
    have same : ("exc_" ++ name == "exc_" ++ field.1) = (name == field.1) := by
      rw [Bool.eq_iff_iff, beq_iff_eq, beq_iff_eq, String.append_right_inj]
    rw [List.map_cons, prefixed, List.lookup_cons, List.lookup_cons, same, ih]

/-- The last field of a name is that of an attribute, if there is one that is shown. -/
theorem lookup_said_of_mem (distinct : (attributes.map (·.1)).Nodup) (mem : (name, v) ∈ attributes)
    (shown : shows name = true) : (p.said text attributes).reverse.lookup name = some v := by
  have last : (attributes.filter fun field => shows field.1).reverse.lookup name = some v := by
    apply lookup_eq_some_of_mem
    · rw [List.map_reverse, List.nodup_reverse]
      exact distinct.sublist (List.filter_sublist.map _)
    · exact List.mem_reverse.mpr (List.mem_filter.mpr ⟨mem, shown⟩)
  rw [said, List.reverse_append, List.lookup_append, last, Option.some_or]

/-- Otherwise it is that of the problem itself. -/
theorem lookup_said_of_free (own : (name, v) ∈ p.identity text)
    (free : ∀ v, (name, v) ∈ attributes → shows name = false) :
    (p.said text attributes).reverse.lookup name = some v := by
  have none : (attributes.filter fun field => shows field.1).reverse.lookup name = none := by
    apply lookup_eq_none_of_not_mem
    intro mem
    obtain ⟨⟨_, v⟩, here, rfl⟩ := List.mem_map.mp mem
    obtain ⟨found, shown⟩ := List.mem_filter.mp (List.mem_reverse.mp here)
    rw [free v found] at shown
    cases shown
  have first : (p.identity text).reverse.lookup name = some v := by
    apply lookup_eq_some_of_mem
    · rw [List.map_reverse, List.nodup_reverse]
      exact nodup_identity p text
    · exact List.mem_reverse.mpr own
  rw [said, List.reverse_append, List.lookup_append, none, Option.none_or, first]

end Problem

/-! ## The fields of a line -/

namespace Record

variable {r : Record} {p : Problem} {text : String} {attributes : Fields} {context : Context}

/-- The fields with what is said of a problem over them, and its trace. -/
def overlay (fields said : Fields) (trace : String) : Fields :=
  ((said.map Problem.prefixed).foldl (fun fields (name, value) => fields.put name value)
    fields).put "traceback" (.text trace)

theorem withProblem_eq (worded : p.message = .ok text) (has : p.attributes = some attributes)
    (fields : Fields) (trace : String) :
    withProblem fields p trace = .ok (overlay fields (p.said text attributes) trace) := by
  unfold withProblem overlay Problem.said Problem.identity
  rw [worded, has, List.foldl_map]
  cases p.code? <;> rfl

/-- The trace stands under a name of its own. -/
theorem lookup_overlay (fields said : Fields) (trace name : String) :
    (overlay fields said trace).lookup ("exc_" ++ name) =
      (said.reverse.lookup name).or (fields.lookup ("exc_" ++ name)) := by
  have other : "exc_" ++ name ≠ "traceback" := by
    intro same
    have first := congrArg (·.toList.head?) same
    simp at first
  rw [overlay, Fields.lookup_put, if_neg other, Fields.lookup_foldl_put, ← List.map_reverse,
    Problem.lookup_prefixed]

variable {P : Value → Prop}

theorem are_envelope (texts : ∀ s, P (.text s)) (level : P r.levelName) (logger : P r.logger)
    (extras : ∀ field ∈ r.extras, P field.2) (context : Context) (time message : String) :
    (r.envelope context time message).Are P := by
  have head : Fields.Are P [("ts", .text time), ("level", r.levelName), ("logger", r.logger),
      ("message", .text message)] := by
    constructor
    · exact (by decide : ["ts", "level", "logger", "message"].Nodup)
    · simp only [List.forall_mem_cons]
      exact ⟨texts _, level, logger, texts _, List.forall_mem_nil _⟩
  refine List.foldlRecOn r.extras _ ?_ fun fields are field mem => ?_
  · cases context with
    | none => exact head
    | some portfolio => exact head.put (texts portfolio) portfolioField
  · dsimp only
    split
    · exact are
    · exact are.put (extras field mem) field.1

theorem are_overlay (texts : ∀ s, P (.text s)) {fields said : Fields} (are : fields.Are P)
    (holds : ∀ field ∈ said, P field.2) (trace : String) : (overlay fields said trace).Are P := by
  refine Fields.Are.put (are.foldl_put fun field mem => ?_) (texts trace) _
  obtain ⟨source, here, rfl⟩ := List.mem_map.mp mem
  exact holds source here

/-- All that is said of a problem has a property that texts and its attributes have. -/
theorem forall_said (texts : ∀ s, P (.text s)) (holds : ∀ field ∈ attributes, P field.2)
    (has : p.attributes = some attributes) : ∀ field ∈ p.said text attributes, P field.2 := by
  have code : ∀ v, p.code? = some v → P v := by
    intro v found
    rw [Problem.code?, has, Option.getD_some, Option.or_eq_some_iff] at found
    rcases found with here | ⟨-, ofType⟩
    · exact holds _ (mem_of_lookup_eq_some here)
    · obtain ⟨s, -, rfl⟩ := Option.map_eq_some_iff.mp ofType
      exact texts s
  intro field mem
  rcases List.mem_append.mp mem with own | here
  · rcases List.mem_append.mp own with front | last
    · simp only [List.mem_cons, List.not_mem_nil, or_false] at front
      rcases front with rfl | rfl <;> exact texts _
    · obtain ⟨v, found, rfl⟩ := Option.map_eq_some_iff.mp (Option.mem_toList.mp last)
      exact code v found
  · exact holds field (List.mem_filter.mp here).1

/-- The object of a record with a problem has every field under its name, with the form of its
    value. -/
theorem line_eq_ok_iff_of_problem (carries : r.problem? = .ok (some p))
    (worded : p.message = .ok text) (has : p.attributes = some attributes) {line : String} :
    r.line context = .ok line ↔ ∃ moment message items,
      DateTime.ofSeconds? r.created = .ok moment ∧ r.message = .ok message ∧
        List.Forall₂ (fun field item => item.1 = field.1 ∧ field.2.HasForm item.2)
          (overlay (r.envelope context moment.text message) (p.said text attributes) r.trace)
          items ∧
        line = (Json.object items).render none := by
  simp only [line_eq_ok_iff, json, fields, carries, ok_bind, bind_eq_ok_iff, mapError_eq_ok_iff,
    mapM_logForm_eq_ok_iff]
  constructor
  · rintro ⟨_, ⟨all, ⟨moment, clock, message, formats, put⟩, items, each, made⟩, rfl⟩
    rw [withProblem_eq worded has] at put
    cases put
    cases made
    exact ⟨moment, message, items, clock, formats, each, rfl⟩
  · rintro ⟨moment, message, items, clock, formats, each, rfl⟩
    exact ⟨_, ⟨_, ⟨moment, clock, message, formats, withProblem_eq worded has _ _⟩, items, each,
      rfl⟩, rfl⟩

variable {moment : DateTime} {message line : String}

/-- A record with a problem has a line when its message can be made and everything in it has a form
    for the log. -/
theorem exists_line_of_problem (carries : r.problem? = .ok (some p)) (worded : p.message = .ok text)
    (has : p.attributes = some attributes) (clock : DateTime.ofSeconds? r.created = .ok moment)
    (formats : r.message = .ok message) (level : ∃ j, r.levelName.HasForm j)
    (logger : ∃ j, r.logger.HasForm j) (extras : ∀ field ∈ r.extras, ∃ j, field.2.HasForm j)
    (shown : ∀ field ∈ attributes, ∃ j, field.2.HasForm j) (context : Context) :
    ∃ line, r.line context = .ok line := by
  have texts (s : String) : ∃ j, (Value.text s).HasForm j := ⟨_, rfl⟩
  have said : ∀ field ∈ p.said text attributes, ∃ j, field.2.HasForm j :=
    forall_said (P := fun v => ∃ j, v.HasForm j) texts shown has
  have all : (overlay (r.envelope context moment.text message) (p.said text attributes)
      r.trace).Are fun v => ∃ j, v.HasForm j :=
    are_overlay texts (are_envelope texts level logger extras context _ _) said _
  have forms : ∀ field ∈ overlay (r.envelope context moment.text message)
      (p.said text attributes) r.trace,
      ∃ item : String × Json, item.1 = field.1 ∧ field.2.HasForm item.2 := by
    intro field mem
    obtain ⟨j, form⟩ := all.each field mem
    exact ⟨(field.1, j), rfl, form⟩
  obtain ⟨items, each⟩ := exists_forall₂ forms
  exact ⟨_, (line_eq_ok_iff_of_problem carries worded has).mpr
    ⟨moment, message, items, clock, formats, each, rfl⟩⟩

/-- A line shows no key twice, and what is said last of each is shown. -/
theorem exists_items_of_line (carries : r.problem? = .ok (some p)) (worded : p.message = .ok text)
    (has : p.attributes = some attributes) (written : r.line context = .ok line) :
    ∃ items, line = (Json.object items).render none ∧ (items.map (·.1)).Nodup ∧
      ∀ name v, (p.said text attributes).reverse.lookup name = some v →
        ∃ j, v.HasForm j ∧ items.lookup ("exc_" ++ name) = some j := by
  obtain ⟨moment, message, items, -, -, each, rfl⟩ :=
    (line_eq_ok_iff_of_problem carries worded has).mp written
  have all : (overlay (r.envelope context moment.text message) (p.said text attributes)
      r.trace).Are fun _ => True :=
    are_overlay (fun _ => trivial)
      (are_envelope (fun _ => trivial) trivial trivial (fun _ _ => trivial) context _ _)
      (fun _ _ => trivial) _
  refine ⟨items, rfl, ?_, fun name v found => ?_⟩
  · rw [map_fst_eq_of_forall₂ each]
    exact all.distinct
  · refine exists_lookup_of_forall₂ each ?_
    rw [lookup_overlay, found, Option.some_or]

/-- What a problem is known by is shown, unless an attribute of the same name has another form. -/
theorem lookup_identity_iff {items : List (String × Json)} {name own : String}
    (shows : ∀ name v, (p.said text attributes).reverse.lookup name = some v →
      ∃ j, v.HasForm j ∧ items.lookup ("exc_" ++ name) = some j)
    (distinct : (attributes.map (·.1)).Nodup) (identity : (name, .text own) ∈ p.identity text)
    (shown : Problem.shows name = true) :
    items.lookup ("exc_" ++ name) = some (.text own) ↔
      ∀ v, (name, v) ∈ attributes → v.HasForm (.text own) := by
  constructor
  · intro found v mem
    obtain ⟨j, form, here⟩ := shows name v (Problem.lookup_said_of_mem distinct mem shown)
    rw [found] at here
    cases here
    exact form
  · intro same
    -- An attribute of the name is shown in place of the problem's own field, in the same form.
    by_cases taken : ∃ v, (name, v) ∈ attributes
    · obtain ⟨v, mem⟩ := taken
      obtain ⟨j, form, here⟩ := shows name v (Problem.lookup_said_of_mem distinct mem shown)
      have : (.ok j : Except JsonFault Json) = .ok (.text own) := form.symm.trans (same v mem)
      cases this
      exact here
    · obtain ⟨j, form, here⟩ := shows name _
        (Problem.lookup_said_of_free identity fun v mem => absurd ⟨v, mem⟩ taken)
      cases form
      exact here

/-- **A line identifies its problem.** The line of a record with a problem is one object without a
    key that occurs twice, a JSON text unless a number in it is not finite, and no field of the
    record hides what is said of the problem. Every attribute is shown, unless its name starts with
    a low line or is that of the arguments or the code, and so is the code. The type of the problem
    is shown exactly when no attribute has its name and another form, and the message likewise.
    There is such a line when the message of the record can be made and everything in the record has
    a form for the log. -/
theorem line_identifies_problem (carries : r.problem? = .ok (some p))
    (worded : p.message = .ok text) (has : p.attributes = some attributes)
    (distinct : (attributes.map (·.1)).Nodup) (context : Context) :
    (∀ line, r.line context = .ok line →
      ∃ items, line = (Json.object items).render none ∧ '\n' ∉ line.toList ∧
        (Json.ofText? line = if (Json.object items).isFinite then some (.object items) else none) ∧
        (items.map (·.1)).Nodup ∧
        (items.lookup "exc_type" = some (.text p.typeName) ↔
          ∀ v, ("type", v) ∈ attributes → v.HasForm (.text p.typeName)) ∧
        (items.lookup "exc_message" = some (.text text) ↔
          ∀ v, ("message", v) ∈ attributes → v.HasForm (.text text)) ∧
        (∀ v, p.code? = some v → ∃ j, v.HasForm j ∧ items.lookup "exc_code" = some j) ∧
        ∀ name v, (name, v) ∈ attributes → name.toList.head? ≠ some '_' → name ≠ "args" →
          name ≠ "code" → ∃ j, v.HasForm j ∧ items.lookup ("exc_" ++ name) = some j) ∧
    ((∃ moment, DateTime.ofSeconds? r.created = .ok moment) → (∃ message, r.message = .ok message) →
      (∃ j, r.levelName.HasForm j) → (∃ j, r.logger.HasForm j) →
      (∀ field ∈ r.extras, ∃ j, field.2.HasForm j) →
      (∀ field ∈ attributes, ∃ j, field.2.HasForm j) → ∃ line, r.line context = .ok line) := by
  constructor
  · intro line written
    obtain ⟨items, rfl, once, shows⟩ := exists_items_of_line carries worded has written
    have type : ("type", .text p.typeName) ∈ p.identity text :=
      List.mem_append_left _ List.mem_cons_self
    have message : ("message", .text text) ∈ p.identity text :=
      List.mem_append_left _ (List.mem_cons_of_mem _ List.mem_cons_self)
    refine ⟨items, rfl, Json.newline_not_mem_render _, Json.ofText?_render_eq _ none, once,
      lookup_identity_iff shows distinct type rfl,
      lookup_identity_iff shows distinct message rfl, fun v code => ?_,
      fun name v mem visible args code => ?_⟩
    · have own : ("code", v) ∈ p.identity text := by
        refine List.mem_append_right _ (Option.mem_toList.mpr ?_)
        rw [code]
        rfl
      exact shows "code" v (Problem.lookup_said_of_free own fun _ _ => rfl)
    · exact shows name v
        (Problem.lookup_said_of_mem distinct mem (Problem.shows_iff.mpr ⟨visible, args, code⟩))
  · rintro ⟨moment, clock⟩ ⟨message, formats⟩ level logger extras shown
    exact exists_line_of_problem carries worded has clock formats level logger extras shown context

/-- A record of an error that was caught, with attributes, and with fields of the record that have
    the names of what is said of the error. -/
def caughtRecord (attributes : Fields) : Record :=
  Entry.record streamState.now
    { logger := loggerName "test"
      level := Level.error
      template := "failed"
      extras := [("exc_type", .text "other"), ("exc_value", .none)]
      problem := some ⟨"ValueError", .ok "boom", none, some attributes⟩ }

theorem forms_caughtRecord (attributes : Fields) :
    ∀ field ∈ (caughtRecord attributes).extras, ∃ j, field.2.HasForm j := by
  simp only [caughtRecord, Entry.record, List.forall_mem_cons]
  exact ⟨⟨_, rfl⟩, ⟨_, rfl⟩, List.forall_mem_nil _⟩

/-- The attributes of an error that has a code and hides nothing. -/
def openAttributes : Fields :=
  [("type", .text "ValueError"), ("_note", .none), ("value", .list [.text "EUR"]),
    ("code", .text "E7")]

/-- An attribute that says the same as the type is no harm, and neither are fields of the record. -/
theorem line_identifies_problem_of_open_attributes :
    ∃ line items, (caughtRecord openAttributes).line none = .ok line ∧
      line = (Json.object items).render none ∧
      items.lookup "exc_type" = some (.text "ValueError") ∧
      items.lookup "exc_message" = some (.text "boom") ∧
      items.lookup "exc_code" = some (.text "E7") ∧
      items.lookup "exc_value" = some (.array [.text "EUR"]) := by
  obtain ⟨told, formed⟩ := line_identifies_problem (r := caughtRecord openAttributes) rfl rfl rfl
    (by decide) none
  have attributes : ∀ field ∈ openAttributes, ∃ j, field.2.HasForm j := by
    simp only [openAttributes, List.forall_mem_cons]
    exact ⟨⟨_, rfl⟩, ⟨_, rfl⟩, ⟨_, rfl⟩, ⟨_, rfl⟩, List.forall_mem_nil _⟩
  obtain ⟨line, written⟩ := formed exists_clock ⟨_, rfl⟩ ⟨_, rfl⟩ ⟨_, rfl⟩
    (forms_caughtRecord _) attributes
  obtain ⟨items, shape, -, -, -, type, message, code, shown⟩ := told line written
  refine ⟨line, items, written, shape, type.mpr fun v mem => ?_, message.mpr fun v mem => ?_, ?_,
    ?_⟩
  · obtain rfl : v = .text "ValueError" := by simpa [openAttributes] using mem
    rfl
  · simp [openAttributes] at mem
  · obtain ⟨j, form, found⟩ := code (.text "E7") rfl
    cases form
    exact found
  · obtain ⟨j, form, found⟩ := shown "value" (.list [.text "EUR"]) (by simp [openAttributes])
      (by decide) (by decide) (by decide)
    cases form
    exact found

/-- Attributes with the names of the type and of the message take their places. -/
theorem line_loses_identity :
    ∃ line items,
      (caughtRecord [("type", .text "shadow"), ("message", .none)]).line none = .ok line ∧
      line = (Json.object items).render none ∧ (items.map (·.1)).Nodup ∧
      items.lookup "exc_type" = some (.text "shadow") ∧
      items.lookup "exc_message" = some .null := by
  obtain ⟨moment, clock⟩ := exists_clock
  have attributes : ∀ field ∈ [("type", Value.text "shadow"), ("message", .none)],
      ∃ j, field.2.HasForm j := by
    simp only [List.forall_mem_cons]
    exact ⟨⟨_, rfl⟩, ⟨_, rfl⟩, List.forall_mem_nil _⟩
  obtain ⟨line, written⟩ := exists_line_of_problem
    (r := caughtRecord [("type", .text "shadow"), ("message", .none)]) rfl rfl rfl clock rfl
    ⟨_, rfl⟩ ⟨_, rfl⟩ (forms_caughtRecord _) attributes none
  obtain ⟨items, shape, once, shows⟩ := exists_items_of_line rfl rfl rfl written
  refine ⟨line, items, written, shape, once, ?_, ?_⟩
  · obtain ⟨j, form, found⟩ := shows "type" (.text "shadow")
      (Problem.lookup_said_of_mem (by decide) List.mem_cons_self rfl)
    cases form
    exact found
  · obtain ⟨j, form, found⟩ := shows "message" .none
      (Problem.lookup_said_of_mem (by decide) (List.mem_cons_of_mem _ List.mem_cons_self) rfl)
    cases form
    exact found

end Record

end TermSheet.Log

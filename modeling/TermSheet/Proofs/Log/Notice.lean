import TermSheet.Proofs.Log.Line

/-!
# Notices

A notice is what a line is meant to say: its level, its logger, its message and its own fields. An
entry without a problem and without arguments logs a notice when its fields have the values of the
notice. Where a portfolio is bound, each such entry whose level is enabled writes one line, which is
read back as the notice with the time and the portfolio, and the lines stand in the order of the
entries.

Results:
* `Entry.Logs.json`: the object of an entry.
* `Entry.Logs.exists_written`: the line of an entry.
* `forall₂_logAll`: the lines of several entries.
-/

namespace TermSheet.Log

/-- What a line says besides its time and the portfolio. -/
structure Notice where
  level : Level
  logger : String
  message : String
  fields : List (String × Json)

namespace Notice

/-- A notice with a time and a portfolio, as an object. -/
def toJson (n : Notice) (time portfolioId : String) : Json :=
  .object ([("ts", .text time), ("level", .text n.level.name), ("logger", .text n.logger),
    ("message", .text n.message), (portfolioField, .text portfolioId)] ++ n.fields)

/-- One line on standard error that is read back as the notice. -/
def IsWritten (time portfolioId : String) (n : Notice) (output : Output) : Prop :=
  ∃ line, output = (.standardError, line ++ "\n") ∧ '\n' ∉ line.toList ∧
    Json.ofText? line = some (n.toJson time portfolioId)

end Notice

/-- Different names that no record has and that have no other place in a line with a portfolio. -/
def AreOwnNames (names : List String) : Prop :=
  names.Nodup ∧ ∀ name ∈ names, name ∉ reservedNames ∧ name ≠ "taskName" ∧
    name ∉ ["ts", "level", "logger", "message", portfolioField]

instance (names : List String) : Decidable (AreOwnNames names) :=
  inferInstanceAs (Decidable (_ ∧ _))

/-- An entry whose line says a notice. -/
structure Entry.Logs (e : Entry) (n : Notice) : Prop where
  level : e.level = n.level
  logger : e.logger = n.logger
  message : e.template = n.message
  args : e.args = []
  sound : e.problem = none
  names : AreOwnNames (e.extras.map (·.1))
  fields : List.Forall₂ (fun field j => j.1 = field.1 ∧ field.2.LogsAs j.2) e.extras n.fields

namespace Entry.Logs

variable {e : Entry} {n : Notice} {s : State} {moment : DateTime} {portfolioId : String}

theorem message_record (h : e.Logs n) (now : Binary64) :
    (e.record now).message = .ok n.message := by
  rw [Record.message, Entry.record, h.args, ← h.message]
  rfl

theorem admitted (h : e.Logs n) : e.IsAdmitted :=
  fun field mem => (h.names.2 field.1 (List.mem_map_of_mem mem)).1

theorem shownExtras_eq (h : e.Logs n) (portfolioId : String) :
    e.shownExtras (some portfolioId) = e.extras :=
  List.filter_eq_self.mpr fun field mem =>
    decide_eq_true (h.names.2 field.1 (List.mem_map_of_mem mem)).2

theorem json (h : e.Logs n) (clock : DateTime.ofSeconds? (.float s.now) = .ok moment)
    (bound : s.context = some portfolioId) :
    (e.record s.now).json s.context = .ok (n.toJson moment.text portfolioId) := by
  have each := h.fields
  rw [← h.shownExtras_eq portfolioId] at each
  rw [bound, json_record_of_logsAs clock h.sound (h.message_record s.now) h.admitted h.names.1
    each, h.level, h.logger]
  rfl

theorem isFinite_toJson (h : e.Logs n) (time portfolioId : String) :
    (n.toJson time portfolioId).isFinite = true := by
  refine Json.isFinite_object_iff.mpr fun field mem => ?_
  rcases List.mem_append.mp mem with front | behind
  · simp only [List.mem_cons, List.not_mem_nil, or_false] at front
    rcases front with rfl | rfl | rfl | rfl | rfl <;> rfl
  · obtain ⟨source, -, -, logs⟩ := exists_mem_of_forall₂ h.fields.flip behind
    exact logs.isFinite

/-- The line of an entry says its notice. -/
theorem exists_written (h : e.Logs n) (clock : DateTime.ofSeconds? (.float s.now) = .ok moment)
    (bound : s.context = some portfolioId) (configured : s.destination = some .standardError) :
    ∃ output, s.written e = some output ∧ n.IsWritten moment.text portfolioId output := by
  have line : (e.record s.now).line s.context =
      .ok ((n.toJson moment.text portfolioId).render none) := by
    rw [Record.line, h.json clock bound]
    rfl
  refine ⟨(.standardError, (n.toJson moment.text portfolioId).render none ++ "\n"), ?_,
    (n.toJson moment.text portfolioId).render none, rfl, Json.newline_not_mem_render _,
    Json.ofText?_render (h.isFinite_toJson moment.text portfolioId) none⟩
  rw [State.written, configured]
  simp only [line]
  rfl

end Entry.Logs

/-- The induction is on the entries. One whose level is not enabled writes nothing, and neither does
    its notice count. -/
theorem forall₂_logAll {s : State} {moment : DateTime} {portfolioId : String}
    (clock : DateTime.ofSeconds? (.float s.now) = .ok moment)
    (bound : s.context = some portfolioId) (configured : s.destination = some .standardError)
    {entries : List Entry} {notices : List Notice}
    (logs : List.Forall₂ Entry.Logs entries notices) :
    List.Forall₂ (Notice.IsWritten moment.text portfolioId)
      (notices.filter fun n => s.enabled n.level) (s.logAll entries) := by
  induction logs with
  | nil => exact .nil
  | @cons e n entries notices first _ ih =>
    have rest : s.logAll (e :: entries) =
        ((s.log e).toOption.join).toList ++ s.logAll entries := by
      rw [State.logAll, List.filterMap_cons]
      cases (s.log e).toOption.join <;> rfl
    rw [rest, List.filter_cons]
    cases enabled : s.enabled n.level with
    | true =>
      obtain ⟨output, written, shown⟩ := first.exists_written clock bound configured
      have logged : s.log e = .ok (some output) := by
        rw [s.log_of_admitted (by rw [first.level, enabled]) first.admitted, written]
      rw [logged, if_pos rfl]
      exact .cons shown ih
    | false =>
      have silent : s.log e = .ok none := by
        rw [State.log, first.level, enabled]
        rfl
      rw [silent, if_neg Bool.false_ne_true]
      exact ih

end TermSheet.Log

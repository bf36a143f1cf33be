import Mathlib.Data.List.DropRight
import TermSheet.Log.Logger

/-!
# Histories of logging

Logging is configured, reset and used in any order. What counts at any time is the setup: the first
configuration since the last reset. With a setup, an entry of its level or above is written once, as
a line to its destination; without one, an entry of at least warning level is written once, as its
bare message to standard error. Nothing else is ever written.

The state of logging keeps one optional destination. A wiring keeps what a logger has in its place,
a guard against a second configuration and a list of handlers, each of which writes every record.
The two never get out of step.

Results:
* `State.Follows.act`: what an event does to a state that follows the events before it.
* `State.outputs_of_follows`: what an event writes.
* `Wiring.Agrees.after`, `Wiring.Agrees.transcript`: wirings and states stay in step.
* `logging_follows_setup`: all of this for histories of any length.
-/

namespace TermSheet.Log

/-! ## Calls -/

/-- No field of the entry has the name of an attribute of every record. -/
def Entry.IsAdmitted (e : Entry) : Prop := ∀ field ∈ e.extras, field.1 ∉ reservedNames

instance (e : Entry) : Decidable e.IsAdmitted :=
  inferInstanceAs (Decidable (∀ field ∈ e.extras, field.1 ∉ reservedNames))

/-- An entry with the context and the time that it is logged in. -/
structure Call where
  entry : Entry
  context : Context
  now : Binary64

namespace Call

/-- The line of a call, with its end, if its fields are admitted and it can be written. -/
def line? (c : Call) : Option String :=
  if c.entry.IsAdmitted then
    ((c.entry.record c.now).line c.context).toOption.map (· ++ "\n")
  else none

/-- The bare message of a call, under the same conditions. -/
def bareText? (c : Call) : Option String :=
  if c.entry.IsAdmitted then (c.entry.bareText c.now).toOption else none

end Call

/-! ## Events -/

/-- What happens to logging. -/
inductive Event
  | configure (level : Level) (destination : Destination)
  | reset
  | log (call : Call)

namespace Event

/-- The levels of records and of configurations are above zero. -/
def IsProper : Event → Prop
  | configure level _ => 1 ≤ level
  | reset => True
  | log call => 1 ≤ call.entry.level

instance : DecidablePred IsProper
  | configure level _ => inferInstanceAs (Decidable (1 ≤ level))
  | reset => inferInstanceAs (Decidable True)
  | log call => inferInstanceAs (Decidable (1 ≤ call.entry.level))

/-- Whether an event is a reset. -/
def isReset : Event → Bool
  | reset => true
  | _ => false

/-- The level and the destination of a configuration. -/
def setup? : Event → Option (Level × Destination)
  | configure level destination => some (level, destination)
  | _ => none

end Event

/-- The events behind the last reset. -/
def sinceReset (events : List Event) : List Event := events.rtakeWhile (!·.isReset)

/-- The first configuration since the last reset. -/
def setup? (events : List Event) : Option (Level × Destination) :=
  (sinceReset events).findSome? Event.setup?

theorem setup?_concat_configure (events : List Event) (level : Level) (destination : Destination) :
    setup? (events ++ [.configure level destination]) =
      (setup? events).or (some (level, destination)) := by
  rw [setup?, sinceReset, List.rtakeWhile_concat_pos _ _ _ rfl, List.findSome?_append]
  rfl

theorem setup?_concat_reset (events : List Event) : setup? (events ++ [.reset]) = none := by
  rw [setup?, sinceReset, List.rtakeWhile_concat_neg _ _ _ Bool.false_ne_true]
  rfl

theorem setup?_concat_log (events : List Event) (call : Call) :
    setup? (events ++ [.log call]) = setup? events := by
  rw [setup?, sinceReset, List.rtakeWhile_concat_pos _ _ _ rfl, List.findSome?_append]
  exact Option.or_none

/-- A setup was configured. -/
theorem mem_of_setup?_eq_some {events : List Event} {level : Level} {destination : Destination}
    (h : setup? events = some (level, destination)) : .configure level destination ∈ events := by
  obtain ⟨event, mem, found⟩ := List.exists_of_findSome?_eq_some h
  cases event with
  | configure l d =>
    cases found
    exact (List.rtakeWhile_suffix _ events).mem mem
  | reset => cases found
  | log call => cases found

/-- There is a setup exactly when a configuration stands behind the last reset. -/
theorem isSome_setup?_iff {events : List Event} :
    (setup? events).isSome = true ↔
      ∃ level destination, .configure level destination ∈ sinceReset events := by
  rw [setup?, List.isSome_findSome?, List.any_eq_true]
  constructor
  · rintro ⟨event, mem, found⟩
    cases event with
    | configure level destination => exact ⟨level, destination, mem⟩
    | reset => cases found
    | log call => cases found
  · rintro ⟨level, destination, mem⟩
    exact ⟨_, mem, rfl⟩

/-- What an event writes behind other events: a call writes its line to the destination of the
    setup, or, without a setup, its bare message to standard error. -/
def dueOutputs (events : List Event) : Event → List Output
  | .log call =>
    match setup? events with
    | some (level, destination) =>
      if level ≤ call.entry.level then (call.line?.map (destination, ·)).toList else []
    | none =>
      if Level.warning ≤ call.entry.level then (call.bareText?.map (.standardError, ·)).toList
      else []
  | _ => []

/-! ## States -/

namespace State

/-- The state after an event. -/
def act (s : State) : Event → State
  | .configure level destination => s.configure level destination
  | .reset => s.reset
  | .log call => { s with context := call.context, now := call.now }

/-- What an event writes. -/
def outputs (s : State) : Event → List Output
  | .log call => ((s.act (.log call)).log call.entry).toOption.join.toList
  | _ => []

/-- The state after events. -/
def after (s : State) (events : List Event) : State := events.foldl act s

/-- All that events write. -/
def transcript (s : State) : List Event → List Output
  | [] => []
  | event :: events => s.outputs event ++ (s.act event).transcript events

/-- The destination and the level are those of the setup, and those of the start where there is
    none. -/
def Follows (s : State) (events : List Event) : Prop :=
  s.destination = (setup? events).map (·.2) ∧
    s.level = ((setup? events).map (·.1)).getD Level.warning

variable {s : State} {events : List Event}

theorem configure_of_none (h : s.destination = none) (level : Level) (destination : Destination) :
    s.configure level destination = { s with level, destination := some destination } := by
  rw [configure, h]

theorem configure_of_some {destination : Destination} (h : s.destination = some destination)
    (level : Level) (other : Destination) : s.configure level other = s := by
  rw [configure, h]

theorem Follows.act (h : s.Follows events) (event : Event) :
    (s.act event).Follows (events ++ [event]) := by
  obtain ⟨destination, level⟩ := h
  cases event with
  | configure l d =>
    rw [Follows, setup?_concat_configure, State.act]
    cases setup : setup? events with
    | none =>
      rw [setup] at destination
      rw [configure_of_none destination]
      exact ⟨rfl, rfl⟩
    | some found =>
      rw [setup] at destination level
      rw [configure_of_some destination]
      exact ⟨destination, level⟩
  | reset =>
    rw [Follows, setup?_concat_reset]
    exact ⟨rfl, rfl⟩
  | log call =>
    rw [Follows, setup?_concat_log]
    exact ⟨destination, level⟩

theorem follows_after (h : s.Follows []) (events : List Event) :
    (s.after events).Follows events := by
  induction events using List.reverseRecOn with
  | nil => exact h
  | append_singleton events event ih =>
    rw [after, List.foldl_concat]
    exact ih.act event

theorem transcript_concat (s : State) (events : List Event) (event : Event) :
    s.transcript (events ++ [event]) = s.transcript events ++ (s.after events).outputs event := by
  induction events generalizing s with
  | nil => exact List.append_nil _
  | cons first events ih =>
    rw [List.cons_append, transcript, ih, transcript, List.append_assoc]
    rfl

/-- Above zero, the level of a state is the one that counts. -/
theorem enabled_iff (h : 1 ≤ s.level) {level : Level} (proper : 1 ≤ level) :
    s.enabled level = true ↔ s.level ≤ level := by
  have given : s.effectiveLevel = s.level := by
    rw [effectiveLevel, if_neg]
    exact Int.ne_of_gt h
  rw [enabled, given, Bool.and_eq_true, decide_eq_true_eq, decide_eq_true_eq]
  exact and_iff_right proper

/-- An entry whose fields are admitted is written when its level is enabled. -/
theorem log_of_admitted {e : Entry} (enabled : s.enabled e.level = true) (admitted : e.IsAdmitted) :
    s.log e = .ok (s.written e) := by
  have none : e.extras.find? (reservedNames.contains ·.1) = none := by
    rw [List.find?_eq_none]
    intro field mem
    rw [List.contains_iff_mem]
    exact admitted field mem
  rw [log, if_pos enabled, none]

theorem exists_log_eq_error {e : Entry} (enabled : s.enabled e.level = true)
    (reserved : ¬e.IsAdmitted) : ∃ fault, s.log e = .error fault := by
  have found : (e.extras.find? (reservedNames.contains ·.1)).isSome = true := by
    rw [List.find?_isSome]
    simpa [Entry.IsAdmitted] using reserved
  obtain ⟨field, first⟩ := Option.isSome_iff_exists.mp found
  exact ⟨⟨field.1⟩, by rw [log, if_pos enabled, first]⟩

/-- What a call writes when its level is enabled: its line, or its bare message where there is no
    destination. A call whose fields are not admitted has neither. -/
def enabledOutputs (s : State) (call : Call) : List Output :=
  match s.destination with
  | some destination => (call.line?.map (destination, ·)).toList
  | none =>
    if Level.warning ≤ call.entry.level then (call.bareText?.map (.standardError, ·)).toList else []

/-- Entries with fields that are not admitted are refused, and all others are written. -/
theorem outputs_log (s : State) (call : Call) :
    s.outputs (.log call) =
      if s.enabled call.entry.level then s.enabledOutputs call else [] := by
  have same : (s.act (.log call)).enabled call.entry.level = s.enabled call.entry.level := rfl
  rw [outputs]
  by_cases enabled : s.enabled call.entry.level = true
  · rw [if_pos enabled, enabledOutputs, Call.line?, Call.bareText?]
    by_cases admitted : call.entry.IsAdmitted
    · rw [log_of_admitted (same.trans enabled) admitted, if_pos admitted, if_pos admitted]
      simp only [written, act]
      cases s.destination with
      | none =>
        by_cases loud : Level.warning ≤ call.entry.level
        · rw [if_pos loud, if_pos loud]
          rfl
        · rw [if_neg loud, if_neg loud]
          rfl
      | some destination =>
        simp only [Option.map_map]
        rfl
    · obtain ⟨fault, refused⟩ := exists_log_eq_error (same.trans enabled) admitted
      rw [refused, if_neg admitted, if_neg admitted]
      cases s.destination with
      | none => exact (ite_self _).symm
      | some destination => rfl
  · rw [log, same, if_neg enabled, if_neg enabled]
    rfl

theorem Follows.one_le_level (h : s.Follows events) (proper : ∀ event ∈ events, event.IsProper) :
    1 ≤ s.level := by
  rw [h.2]
  cases setup : setup? events with
  | none => exact (by decide : 1 ≤ Level.warning)
  | some found => exact proper _ (mem_of_setup?_eq_some setup)

/-- A state that follows the events before writes what is due. -/
theorem outputs_of_follows (h : s.Follows events) (proper : ∀ event ∈ events, event.IsProper)
    {event : Event} (own : event.IsProper) : s.outputs event = dueOutputs events event := by
  cases event with
  | configure level destination => rfl
  | reset => rfl
  | log call =>
    simp only [outputs_log, enabled_iff (h.one_le_level proper) own]
    rw [dueOutputs, enabledOutputs]
    obtain ⟨destination, level⟩ := h
    cases setup : setup? events with
    | none =>
      rw [setup] at destination level
      rw [destination, level]
      exact ite_congr rfl (fun loud => if_pos loud) fun _ => rfl
    | some found =>
      rw [setup] at destination level
      rw [destination, level]
      rfl

end State

/-! ## Wirings -/

/-- A logger with a guard against a second configuration, a level, and handlers. -/
structure Wiring where
  configured : Bool := false
  level : Level := Level.warning
  handlers : List Destination := []

namespace Wiring

/-- The wiring after an event. Configuring sets the guard and adds a handler, unless the guard is
    set, and resetting takes all handlers away. -/
def act (w : Wiring) : Event → Wiring
  | .configure level destination =>
    if w.configured then w else ⟨true, level, w.handlers ++ [destination]⟩
  | .reset => {}
  | .log _ => w

/-- What an event writes. Every handler writes a record as a line; where there is none, the bare
    message goes to standard error. -/
def outputs (w : Wiring) : Event → List Output
  | .log call =>
    if State.enabled { level := w.level } call.entry.level then
      if w.handlers = [] then
        if Level.warning ≤ call.entry.level then
          (call.bareText?.map (Destination.standardError, ·)).toList
        else []
      else w.handlers.flatMap fun destination => (call.line?.map (destination, ·)).toList
    else []
  | _ => []

/-- The wiring after events. -/
def after (w : Wiring) (events : List Event) : Wiring := events.foldl act w

/-- All that events write. -/
def transcript (w : Wiring) : List Event → List Output
  | [] => []
  | event :: events => w.outputs event ++ (w.act event).transcript events

/-- A wiring and a state say the same. -/
structure Agrees (w : Wiring) (s : State) : Prop where
  configured : w.configured = s.destination.isSome
  level : w.level = s.level
  handlers : w.handlers = s.destination.toList

variable {w : Wiring} {s : State}

theorem Agrees.act (h : w.Agrees s) (event : Event) : (w.act event).Agrees (s.act event) := by
  obtain ⟨configured, level, handlers⟩ := h
  cases event with
  | configure l d =>
    rw [Wiring.act, State.act]
    cases destination : s.destination with
    | none =>
      rw [destination] at configured handlers
      rw [configured, handlers, State.configure_of_none destination]
      exact ⟨rfl, rfl, rfl⟩
    | some found =>
      rw [State.configure_of_some destination, if_pos (by rw [configured, destination]; rfl)]
      exact ⟨configured, level, handlers⟩
  | reset => exact ⟨rfl, rfl, rfl⟩
  | log call => exact ⟨configured, level, handlers⟩

theorem Agrees.outputs (h : w.Agrees s) (event : Event) : w.outputs event = s.outputs event := by
  obtain ⟨-, level, handlers⟩ := h
  cases event with
  | configure l d => rfl
  | reset => rfl
  | log call =>
    have same : State.enabled { level := w.level } call.entry.level =
        s.enabled call.entry.level := by
      rw [level]
      rfl
    rw [State.outputs_log, State.enabledOutputs, Wiring.outputs, same, handlers]
    cases s.destination with
    | none => rfl
    | some destination =>
      simp only [Option.toList_some, List.flatMap_singleton, reduceCtorEq, if_false]

theorem Agrees.transcript (h : w.Agrees s) (events : List Event) :
    w.transcript events = s.transcript events := by
  induction events generalizing w s with
  | nil => rfl
  | cons event events ih => rw [Wiring.transcript, State.transcript, h.outputs, ih (h.act event)]

theorem Agrees.after (h : w.Agrees s) (events : List Event) :
    (w.after events).Agrees (s.after events) := by
  induction events generalizing w s with
  | nil => exact h
  | cons event events ih => exact ih (h.act event)

end Wiring

/-! ## Histories from the start -/

/-- **Logging follows the setup.** Behind any history from a start without a destination, a logger
    has one handler if a configuration stands behind the last reset, and none otherwise. Its level
    and its destination are those of the first such configuration, or those of the start where there
    is none. A further event writes exactly what is due: an entry of the level of the setup or above
    its line, once, to the destination of the setup, and without a setup an entry of at least
    warning level its bare message, once, to standard error. -/
theorem logging_follows_setup {s : State} (unset : s.destination = none)
    (usual : s.level = Level.warning) {before : List Event}
    (proper : ∀ event ∈ before, event.IsProper) :
    let wiring := Wiring.after {} before
    wiring.Agrees (s.after before) ∧
      (wiring.handlers.length = 1 ↔
        ∃ level destination, .configure level destination ∈ sinceReset before) ∧
      (wiring.handlers = [] ↔
        ¬∃ level destination, .configure level destination ∈ sinceReset before) ∧
      (s.after before).destination = (setup? before).map (·.2) ∧
      (s.after before).level = ((setup? before).map (·.1)).getD Level.warning ∧
      ∀ event : Event, event.IsProper →
        s.transcript (before ++ [event]) = s.transcript before ++ dueOutputs before event ∧
        Wiring.transcript {} (before ++ [event]) =
          Wiring.transcript {} before ++ dueOutputs before event := by
  intro wiring
  have start : Wiring.Agrees {} s := ⟨by rw [unset]; rfl, usual.symm, by rw [unset]; rfl⟩
  have agrees : wiring.Agrees (s.after before) := start.after before
  have follows : (s.after before).Follows before := State.follows_after ⟨unset, usual⟩ before
  have handlers : wiring.handlers = ((setup? before).map (·.2)).toList := by
    rw [agrees.handlers, follows.1]
  refine ⟨agrees, ?_, ?_, follows.1, follows.2, fun event own => ?_⟩
  · rw [handlers, ← isSome_setup?_iff]
    cases setup? before <;> simp
  · rw [handlers, ← isSome_setup?_iff]
    cases setup? before <;> simp
  · rw [start.transcript, start.transcript, State.transcript_concat,
      State.outputs_of_follows follows proper own]
    exact ⟨rfl, rfl⟩

/-- A call without arguments and fields, at the start of the clock. -/
def plainCall (level : Level) : Call :=
  ⟨{ logger := loggerName "test", level, template := "done" }, none, Binary64.zero false⟩

/-- Two configurations, of which the first one counts, and then a reset. -/
theorem logging_follows_setup_of_two_configurations :
    let events : List Event := [.configure 40 (.stream 0), .configure 10 (.stream 1)]
    (∀ event ∈ events ++ [.reset], event.IsProper) ∧
      (State.start.after events).destination = some (.stream 0) ∧
      (∃ line, State.start.transcript (events ++ [.log (plainCall 40)]) = [(.stream 0, line)]) ∧
      State.start.transcript (events ++ [.log (plainCall 30)]) = [] ∧
      State.start.transcript (events ++ [.reset] ++ [.log (plainCall 30)]) =
        [(.standardError, "done\n")] := by
  intro events
  have proper : ∀ event ∈ events ++ [.reset], event.IsProper := by decide
  obtain ⟨-, -, -, destination, -, configured⟩ := logging_follows_setup (s := State.start) rfl rfl
    fun event mem => proper event (List.mem_append_left _ mem)
  obtain ⟨-, -, -, -, -, unset⟩ := logging_follows_setup (s := State.start) rfl rfl proper
  have formatted : (plainCall 40).line?.isSome = true := by decide +kernel
  obtain ⟨line, written⟩ := Option.isSome_iff_exists.mp formatted
  have own (level : Level) (h : 1 ≤ level) : Event.IsProper (.log (plainCall level)) := h
  refine ⟨proper, destination, ⟨line, ?_⟩, (configured _ (own 30 (by decide))).1,
    (unset _ (own 30 (by decide))).1⟩
  rw [(configured _ (own 40 (by decide))).1]
  show [] ++ ((plainCall 40).line?.map (Destination.stream 0, ·)).toList = _
  rw [written]
  rfl

end TermSheet.Log

import TermSheet.Proofs.Config.Settings
import TermSheet.Proofs.Demo.Options
import TermSheet.Proofs.Demo.Program
import TermSheet.Proofs.Log.Notice
import TermSheet.Proofs.Log.Settlement
import TermSheet.Yaml.Document

/-!
# What the program leaves behind

A program that stops before its run has printed nothing and has left logging alone. One that
finishes has printed a block for every day of its schedule and has logged, as far as the level of
its configuration allows, its start and then for each day the settlement of the portfolio and what
came of it, both with the number of payments in the block. The identity of the portfolio stands in
every line, and the context of the log is the same afterwards.

Results:
* `entry_of_mem_report`: the entries of a report.
* `Entry.isBlock_text`: the block of an entry.
* `forall₂_logs_entries`: what is logged of a run.
* `run_leaves_nothing_or_trace`: all of this for the program.
-/

namespace TermSheet.Demo

/-! ## Blocks -/

namespace Entry

/-- A text is the block of an entry: the line of its day, and then two texts with a line end behind
    each. They are read back as an array of as many items as there are payments and as the
    residual. -/
def IsBlock (e : Entry) (s : String) : Prop :=
  ∃ payments residual items,
    s = "# " ++ e.asOf.text ++ "\n" ++ payments ++ "\n" ++ residual ++ "\n" ∧
      Json.ofText? payments = some (.array items) ∧ items.length = e.payments.length ∧
      Json.ofText? residual = some e.residual.toJson

theorem isBlock_text (layout : Json.Layout) (e : Entry) : e.IsBlock (e.text layout) := by
  have payments := (shows_payments e.payments).isFinite
  have residual := (shows_contract e.residual).isFinite
  exact ⟨e.paymentsJson.render layout, e.residual.toJson.render layout,
    e.payments.map Payment.toJson, rfl, Json.ofText?_render payments layout,
    List.length_map _, Json.ofText?_render residual layout⟩

end Entry

theorem exists_blocks (layout : Json.Layout) (entries : List Entry) :
    ∃ blocks, List.Forall₂ Entry.IsBlock entries blocks ∧
      reportText layout entries = String.join blocks := by
  refine ⟨entries.map (Entry.text layout), ?_, rfl⟩
  rw [List.forall₂_map_right_iff, List.forall₂_same]
  exact fun e _ => e.isBlock_text layout

/-! ## Entries of a report -/

theorem entry_of_mem_report {schedule : Schedule} {e : Entry} (mem : e ∈ report schedule) :
    ∃ before after, schedule.days = before ++ e.asOf :: after ∧
      e = ⟨e.asOf, (dueOn before e.asOf portfolioLegs).map Leg.payment,
        holding (maturingAfter e.asOf portfolioLegs)⟩ := by
  obtain ⟨first, last, split⟩ := List.append_of_mem mem
  have days := asOf_report schedule
  rw [split, List.map_append, List.map_cons] at days
  refine ⟨first.map Entry.asOf, last.map Entry.asOf, days.symm, ?_⟩
  have found := entry_report days.symm
  rw [split, List.length_map, List.getElem?_append_right (Nat.le_refl _), Nat.sub_self] at found
  exact Option.some.inj found

theorem length_payments_le {schedule : Schedule} {e : Entry} (mem : e ∈ report schedule) :
    e.payments.length ≤ portfolioLegs.length := by
  obtain ⟨_, _, _, form⟩ := entry_of_mem_report mem
  rw [form, List.length_map]
  exact List.length_filter_le _ _

theorem size_residual_le_portfolio {schedule : Schedule} {e : Entry} (mem : e ∈ report schedule) :
    e.residual.size ≤ portfolio.size := by
  obtain ⟨_, _, _, form⟩ := entry_of_mem_report mem
  rw [form, maturingAfter, portfolioLegs]
  simp only [List.filter_cons, List.filter_nil]
  split_ifs <;> decide +kernel

/-! ## The log -/

theorem logger_program : Program.logger = "finance_contracts.demo.bonds" := by decide

/-- The notice that a run has started. -/
def startNotice (checksum : String) : Log.Notice where
  level := Log.Level.info
  logger := "finance_contracts.demo.bonds"
  message := "demo_started"
  fields := [("config_checksum", .text checksum)]

/-- The notice that the portfolio was settled as a contract. -/
def Entry.contractNotice (e : Entry) : Log.Notice where
  level := Log.Level.debug
  logger := "finance_contracts.domain.evaluator"
  message := "contract_stepped"
  fields := [("as_of", .text e.asOf.text), ("payment_count", .int e.payments.length),
    ("residual_size", .int e.residual.size)]

/-- The notice of what came of it. -/
def Entry.portfolioNotice (e : Entry) : Log.Notice where
  level := Log.Level.info
  logger := "finance_contracts.demo.bonds"
  message := "portfolio_stepped"
  fields := [("as_of", .text e.asOf.text), ("payment_count", .int e.payments.length)]

/-- The notices of a run, in the order of its days. -/
def traceNotices (checksum : String) (entries : List Entry) : List Log.Notice :=
  startNotice checksum :: entries.flatMap fun e => [e.contractNotice, e.portfolioNotice]

theorem logs_started (checksum : String) :
    (Program.started checksum).Logs (startNotice checksum) where
  level := rfl
  logger := logger_program
  message := rfl
  args := rfl
  sound := rfl
  names := (by decide : Log.AreOwnNames ["config_checksum"])
  fields := .cons ⟨rfl, .text checksum⟩ .nil

theorem forall₂_logs_stepped {schedule : Schedule} {e : Entry} (mem : e ∈ report schedule) :
    List.Forall₂ Log.Entry.Logs (Program.stepped e) [e.contractNotice, e.portfolioNotice] := by
  have payments : (e.payments.length : Int).natAbs < digitLimit := by
    rw [Int.natAbs_natCast]
    exact lt_digitLimit (Nat.lt_of_le_of_lt (length_payments_le mem) (by decide))
  have residual : (e.residual.size : Int).natAbs < digitLimit := by
    rw [Int.natAbs_natCast]
    exact lt_digitLimit (Nat.lt_of_le_of_lt (size_residual_le_portfolio mem) (by decide +kernel))
  refine .cons ?_ (.cons ?_ .nil)
  · exact {
      level := rfl
      logger := settlementLogger_eq
      message := rfl
      args := rfl
      sound := rfl
      names := (by decide : Log.AreOwnNames ["as_of", "payment_count", "residual_size"])
      fields := .cons ⟨rfl, .date e.asOf⟩
        (.cons ⟨rfl, .int payments⟩ (.cons ⟨rfl, .int residual⟩ .nil)) }
  · exact {
      level := rfl
      logger := logger_program
      message := rfl
      args := rfl
      sound := rfl
      names := (by decide : Log.AreOwnNames ["as_of", "payment_count"])
      fields := .cons ⟨rfl, .date e.asOf⟩ (.cons ⟨rfl, .int payments⟩ .nil) }

theorem forall₂_logs_entries (checksum : String) (schedule : Schedule) :
    List.Forall₂ Log.Entry.Logs (Program.entries checksum (report schedule))
      (traceNotices checksum (report schedule)) := by
  have steps : List.Forall₂ (List.Forall₂ Log.Entry.Logs)
      ((report schedule).map Program.stepped)
      ((report schedule).map fun e => [e.contractNotice, e.portfolioNotice]) := by
    rw [List.forall₂_map_left_iff, List.forall₂_map_right_iff, List.forall₂_same]
    exact fun e mem => forall₂_logs_stepped mem
  refine .cons (logs_started checksum) ?_
  rw [List.flatMap_def, List.flatMap_def]
  exact List.rel_flatten steps

theorem level_pos_of_mem_traceNotices {checksum : String} {entries : List Entry} {n : Log.Notice}
    (mem : n ∈ traceNotices checksum entries) : 0 < n.level := by
  have info : 0 < Log.Level.info := by decide
  have debug : 0 < Log.Level.debug := by decide
  rcases List.mem_cons.mp mem with rfl | step
  · exact info
  · obtain ⟨e, -, notice⟩ := List.mem_flatMap.mp step
    simp only [List.mem_cons, List.not_mem_nil, or_false] at notice
    rcases notice with rfl | rfl
    · exact debug
    · exact info

/-- Inside a run, the level of the configuration decides. -/
theorem enabled_inside (portfolioId : String) (config : Config) (log : Log.State)
    {level : Log.Level} (positive : 0 < level) :
    (Program.inside portfolioId config log).enabled level =
      decide (config.severity.level ≤ level) := by
  have effective : (Program.inside portfolioId config log).effectiveLevel =
      config.severity.level := by
    have named : config.severity.level ≠ 0 := by cases config.severity <;> decide
    exact if_neg named
  rw [Log.State.enabled, effective, decide_eq_true positive, Bool.true_and]

/-- The lines of a run are its notices of at least the level of the configuration. -/
theorem forall₂_written {log : Log.State} {moment : DateTime}
    (clock : DateTime.ofSeconds? (.float log.now) = .ok moment) (config : Config)
    (portfolioId checksum : String) :
    List.Forall₂ (Log.Notice.IsWritten moment.text portfolioId)
      ((traceNotices checksum (report config.schedule)).filter (config.severity.level ≤ ·.level))
      ((Program.inside portfolioId config log).logAll
        (Program.entries checksum (report config.schedule))) := by
  have lines := Log.forall₂_logAll (s := Program.inside portfolioId config log) clock rfl rfl
    (forall₂_logs_entries checksum config.schedule)
  rwa [List.filter_congr fun n mem =>
    enabled_inside portfolioId config log (level_pos_of_mem_traceNotices mem)] at lines

/-! ## The program -/

/-- **Nothing or everything.** Let logging not be configured and let the clock be readable, and take
    any files, any reader of documents and any command line. A program that ends with a usage fault,
    with a fault in loading its configuration, or with decreasing days on its command line has
    printed nothing and has left logging as it was. If it finishes, it has a configuration. It has
    printed one block for each day of the schedule, in order, and nothing else. It has logged its
    start with the checksum of the configuration, and for each day in order the settlement and what
    came of it, both with the number of payments in the block of that day; of these, the lines are
    those of at least the level of the configuration, and each of them has the identity of the
    portfolio. Afterwards logging is configured, and its context is the one from before. -/
theorem run_leaves_nothing_or_trace {ε : Type} (around : Surroundings ε) (arguments : List String)
    {log : Log.State} (unconfigured : log.destination = none) {moment : DateTime}
    (clock : DateTime.ofSeconds? (.float log.now) = .ok moment) :
    let outcome := Program.run around log arguments
    ((∃ fault, outcome.ending = .refused fault) ∨ (∃ fault, outcome.ending = .unloadable fault) ∨
        (∃ fault, outcome.ending = .misdated fault) →
      outcome.printed = "" ∧ outcome.log = log) ∧
    (outcome.ending = .finished →
      ∃ options loaded config checksum blocks,
        Options.parse arguments = .ok (.run options) ∧ options.load around = .ok loaded ∧
        options.revise loaded = .ok config ∧ config.checksum = .ok checksum ∧
        (report config.schedule).map Entry.asOf = config.schedule.days ∧
        List.Forall₂ Entry.IsBlock (report config.schedule) blocks ∧
        outcome.printed = String.join blocks ∧
        List.Forall₂ (Log.Notice.IsWritten moment.text around.portfolioId)
          ((traceNotices checksum (report config.schedule)).filter
            (config.severity.level ≤ ·.level)) outcome.written ∧
        outcome.log = Program.configured config log ∧ outcome.log.context = log.context) := by
  intro outcome
  rcases Program.run_eq_stop_or_perform around log arguments with
    ⟨ending, printed, written, early, silent, stopped⟩ |
      ⟨options, loaded, config, checksum, parsed, found, revised, shown, performed⟩
  · have same : outcome = ⟨ending, printed, written, log⟩ := stopped
    rw [same]
    constructor
    · intro fault
      rcases silent with nothing | helped
      · exact ⟨nothing, rfl⟩
      · simp [helped] at fault
    · intro finished
      rw [show ending = .finished from finished] at early
      cases early
  · rw [Program.logAll_loadEntries unconfigured] at performed
    have same : outcome = Program.perform around.portfolioId checksum config log := performed
    have started : outcome.ending.started = true := by
      rw [same]
      exact Program.started_perform ..
    constructor
    · rintro (⟨fault, early⟩ | ⟨fault, early⟩ | ⟨fault, early⟩) <;>
        · rw [early] at started
          cases started
    · intro finished
      rw [same] at finished
      have complete := Program.complete_of_finished finished
      obtain ⟨blocks, each, whole⟩ := exists_blocks config.layout (report config.schedule)
      rw [same, Program.perform_of_unconfigured unconfigured complete]
      exact ⟨options, loaded, config, checksum, blocks, parsed, found, revised, shown,
        asOf_report config.schedule, each, whole,
        forall₂_written clock config around.portfolioId checksum, rfl, rfl⟩

/-- Surroundings with a file without a document. -/
def emptyFile : Surroundings Yaml.Fault where
  read := Yaml.Document.read?
  files path := if path = "empty.yaml" then some "" else none
  packagedPath := "defaults.yaml"
  portfolioId := "portfolio"

theorem load_emptyFile (days : List Date) (severity : Option Log.Severity) :
    Options.load ⟨some "empty.yaml", days, severity⟩ emptyFile = .ok {} :=
  (Config.ofText?_of_ok Yaml.Document.read?_nil rfl).1 (lt_digitLimit (by decide))

/-- The choices of the two command lines, with their days in the wrong order and with one day. -/
theorem parse_emptyFile :
    Options.parse ["--config=empty.yaml", "--as-of=2020-12-26", "--as-of=2020-12-24"] =
      .ok (.run ⟨some "empty.yaml", [poundMaturity, euroMaturity], none⟩) ∧
    Options.parse ["--config=empty.yaml", "--log-level=DEBUG", "--as-of=2020-12-24"] =
      .ok (.run ⟨some "empty.yaml", [euroMaturity], some .debug⟩) := by
  have file : (Choice.config "empty.yaml").IsValue "empty.yaml" := by
    show pathText "empty.yaml" = "empty.yaml"
    decide +kernel
  have euro : (Choice.asOf euroMaturity).IsValue "2020-12-24" := rfl
  have pound : (Choice.asOf poundMaturity).IsValue "2020-12-26" := rfl
  have debug : (Choice.logLevel .debug).IsValue "DEBUG" := rfl
  constructor
  · exact Options.parse_flatten
      (.cons (.joined file) (.cons (.joined pound) (.cons (.joined euro) .nil)))
  · exact Options.parse_flatten
      (.cons (.joined file) (.cons (.joined debug) (.cons (.joined euro) .nil)))

/-- Days in the wrong order, and a run on the day on which the euros are paid. -/
theorem run_leaves_nothing_or_trace_of_two_command_lines :
    let log : Log.State := { context := some "outer" }
    let stopped := Program.run emptyFile log
      ["--config=empty.yaml", "--as-of=2020-12-26", "--as-of=2020-12-24"]
    let outcome := Program.run emptyFile log
      ["--config=empty.yaml", "--log-level=DEBUG", "--as-of=2020-12-24"]
    let e : Entry :=
      ⟨euroMaturity, [⟨.long, faceValue, .eur⟩], .bond poundMaturity faceValue .gbp⟩
    stopped.ending.status = 2 ∧ stopped.printed = "" ∧ stopped.log = log ∧
      outcome.ending = .finished ∧ outcome.log.context = log.context ∧
      ∃ moment checksum block, DateTime.ofSeconds? (.float log.now) = .ok moment ∧
        e.IsBlock block ∧ outcome.printed = String.join [block] ∧
        List.Forall₂ (Log.Notice.IsWritten moment.text "portfolio")
          [startNotice checksum, e.contractNotice, e.portfolioNotice] outcome.written := by
  intro log stopped outcome e
  have unconfigured : log.destination = none := rfl
  have clock : ∃ moment, DateTime.ofSeconds? (.float log.now) = .ok moment := Log.exists_clock
  obtain ⟨moment, clock⟩ := clock
  obtain ⟨swapped, asked⟩ := parse_emptyFile
  have halted : Program.run emptyFile log
    ["--config=empty.yaml", "--as-of=2020-12-26", "--as-of=2020-12-24"] = stopped := rfl
  have made : Program.run emptyFile log
    ["--config=empty.yaml", "--log-level=DEBUG", "--as-of=2020-12-24"] = outcome := rfl
  clear_value stopped outcome
  obtain ⟨nothing, -⟩ := run_leaves_nothing_or_trace emptyFile
    ["--config=empty.yaml", "--as-of=2020-12-26", "--as-of=2020-12-24"] unconfigured clock
  obtain ⟨-, trace⟩ := run_leaves_nothing_or_trace emptyFile
    ["--config=empty.yaml", "--log-level=DEBUG", "--as-of=2020-12-24"] unconfigured clock
  rw [halted] at nothing
  rw [made] at trace
  have misdated : ∃ fault, stopped.ending = .misdated fault := by
    have decreasing : ¬ [poundMaturity, euroMaturity].Pairwise (· ≤ ·) := by decide
    obtain ⟨fault, refused⟩ := Options.exists_revise_eq_error
      (o := ⟨some "empty.yaml", [poundMaturity, euroMaturity], none⟩) decreasing {}
    refine ⟨fault, ?_⟩
    simp only [← halted, Program.run, swapped, load_emptyFile, refused]
  let config : Config := ⟨.debug, ⟨[euroMaturity], by decide⟩, some 2⟩
  have set : Options.revise ⟨some "empty.yaml", [euroMaturity], some .debug⟩ {} =
      .ok config := rfl
  have finished : outcome.ending = .finished := by
    have writable : config.layout.fault? = none := by decide +kernel
    obtain ⟨checksum, shown⟩ := config.exists_checksum writable
    have complete : (printout config.layout (report config.schedule)).fault = none := by
      rw [printout_of_writable writable]
    rw [← made, Program.run_eq_perform asked (load_emptyFile ..) set shown unconfigured,
      Program.perform_of_unconfigured unconfigured complete]
  obtain ⟨printed, left⟩ := nothing (Or.inr (Or.inr misdated))
  obtain ⟨options, loaded, other, checksum, blocks, parsed, found, revised, -, -, each, whole,
    lines, -, context⟩ := trace finished
  rw [asked] at parsed
  cases parsed
  rw [load_emptyFile] at found
  cases found
  rw [set] at revised
  cases revised
  have entries : report config.schedule = [e] := by decide +kernel
  rw [entries] at each lines
  have status : stopped.ending.status = 2 := by
    obtain ⟨fault, early⟩ := misdated
    rw [early]
    rfl
  cases each with
  | cons block none =>
    cases none
    exact ⟨status, printed, left, finished, context, moment, checksum, _, clock, block, whole,
      lines⟩

end TermSheet.Demo

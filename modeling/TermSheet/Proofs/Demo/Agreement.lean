import TermSheet.Proofs.Config.Settings
import TermSheet.Proofs.Demo.Options
import TermSheet.Proofs.Demo.Program
import TermSheet.Yaml.Document

/-!
# The command line and the file agree

The level and the days can be set on the command line or in the file. Either way they make the same
configuration, whatever the reader of documents is, and a run depends on nothing else: it prints the
same texts and logs the same lines, down to the checksum.

Results:
* `Options.load_of_hasFile`: the configuration in the file that the options name.
* `Options.revise_of_schedule`: days and a level from the command line.
* `run_eq_run_of_settings`: the two runs.
-/

namespace TermSheet

namespace Demo

variable {ε : Type} {around : Surroundings ε} {path : String} {c : Config}

/-- A file has a document with the settings. -/
def Surroundings.HasFile (around : Surroundings ε) (path : String) (s : Config.Settings) : Prop :=
  ∃ text entries, around.files path = some text ∧ around.read text = .ok (.dict entries) ∧
    s.IsIn entries

/-- The configuration in a file with its settings. -/
theorem Options.load_of_hasFile {o : Options} {s : Config.Settings} (named : o.config = some path)
    (h : around.HasFile path s) (gives : s.Gives c) (writable : c.layout.fault? = none) :
    o.load around = .ok c := by
  obtain ⟨text, entries, found, document, sets⟩ := h
  rw [load, named]
  dsimp only
  rw [found]
  exact Config.ofText?_of_isIn document sets gives writable

/-- A level and the days of a schedule take the place of those in a configuration. -/
theorem Options.revise_of_schedule {schedule : Schedule} (someDay : schedule.days ≠ [])
    (config : Option String) (severity : Log.Severity) (c : Config) :
    revise { config, asOf := schedule.days, severity := some severity } c =
      .ok { c with schedule, severity } := by
  have days : Schedule.ofDays? schedule.days = .ok schedule := by
    rw [Schedule.ofDays?, Schedule.of?_days]
    rfl
  rw [revise, if_neg someDay, days]
  rfl

/-- **The command line and the file agree.** Let a level, a schedule with at least one day and a
    layout that can be written be given, and any reader of documents. In one run, the file sets the
    layout alone, and the command line names the file, the level and each day of the schedule, in
    any arrangement that keeps the days in order. In the other one, the file sets all three, the
    level in letters of any case and each day in any of its forms, and the command line names the
    file alone. Where logging is not configured before, both runs finish, print the same text, log
    the same lines, with the checksum of one configuration, and leave the same state of logging. -/
theorem run_eq_run_of_settings {log : Log.State} (unconfigured : log.destination = none)
    {severity : Log.Severity} {schedule : Schedule} (someDay : schedule.days ≠ [])
    {layout : Json.Layout} (writable : layout.fault? = none)
    (few : around.HasFile path ⟨none, none, some layout.setting⟩)
    {choices : List Choice} {parts : List (List String)}
    (written : List.Forall₂ Choice.IsWritten choices parts)
    (chosen : Options.ofChoices choices = ⟨some path, schedule.days, some severity⟩)
    {fullPath word : String} {items : List Value}
    (full : around.HasFile fullPath
      ⟨some (.text word), some (.list items), some layout.setting⟩)
    (level : word.toUpper = severity.word)
    (days : List.Forall₂ Date.IsNamedBy schedule.days items)
    {part : List String} (alone : (Choice.config fullPath).IsWritten part) :
    let config : Config := ⟨severity, schedule, layout⟩
    ∃ checksum outcome, config.checksum = .ok checksum ∧
      Program.run around log parts.flatten = outcome ∧
      Program.run around log part = outcome ∧
      outcome.ending = .finished ∧ outcome.ending.status = 0 ∧
      outcome.printed = reportText layout (report schedule) ∧
      outcome.written = (Program.inside around.portfolioId config log).logAll
        (Program.entries checksum (report schedule)) ∧
      outcome.log = Program.configured config log := by
  intro config
  obtain ⟨checksum, shown⟩ := config.exists_checksum writable
  have complete : (printout config.layout (report config.schedule)).fault = none := by
    rw [printout_of_writable writable]
  have indent := Config.layout?_setting layout
  have first : Program.run around log parts.flatten =
      Program.perform around.portfolioId checksum config log := by
    have parsed := Options.parse_flatten written
    rw [chosen] at parsed
    have loaded : Options.load ⟨some path, schedule.days, some severity⟩ around =
        .ok { layout } :=
      Options.load_of_hasFile rfl few ⟨rfl, rfl, indent⟩ writable
    have revised := Options.revise_of_schedule someDay (some path) severity { layout }
    exact Program.run_eq_perform parsed loaded revised shown unconfigured
  have second : Program.run around log part =
      Program.perform around.portfolioId checksum config log := by
    have parsed := Options.parse_flatten (.cons alone .nil)
    rw [List.flatten_cons, List.flatten_nil, List.append_nil] at parsed
    have listed : (Schedule.ofValue? (.list items)).mapError ConfigFault.schedule =
        .ok schedule := by
      rw [Schedule.ofValue?_list days]
      rfl
    have loaded : Options.load ⟨some fullPath, [], none⟩ around = .ok config :=
      Options.load_of_hasFile rfl full ⟨Config.severity?_text level, listed, indent⟩ writable
    exact Program.run_eq_perform parsed loaded rfl shown unconfigured
  rw [Program.perform_of_unconfigured unconfigured complete] at first second
  exact ⟨checksum, _, shown, first, second, rfl, rfl, rfl, rfl, rfl⟩

/-! ### Two files -/

/-- A file that sets a layout alone. -/
def layoutFile : String := "output:\n  json_indent: 4\n"

/-- A file that sets a level, two days and the same layout. -/
def fullFile : String :=
  "logging:\n  level: deBug\nevaluation:\n  as_of_dates: [2020-12-24, '2020-12-26']\n" ++
    "output: \x7bjson_indent: 4\x7d\n"

theorem read?_layoutFile : Yaml.Document.read? layoutFile =
    .ok (.dict [(.text "output", .dict [(.text "json_indent", .int 4)])]) := by
  have scanned : (Yaml.tokens (Yaml.unifyBreaks layoutFile.toList)).toOption =
      some [.blockMappingStart, .key, .scalar "output" true, .value,
        .blockMappingStart, .key, .scalar "json_indent" true, .value, .scalar "4" true, .blockEnd,
        .blockEnd] := by decide +kernel
  exact Yaml.Document.read?_of_entries (by decide +kernel) scanned rfl rfl rfl

/-- The settings of the full file as nodes. -/
def fullNodes : List (Yaml.Node × Yaml.Node) :=
  [(.scalar "logging" true, .mapping [(.scalar "level" true, .scalar "deBug" true)]),
    (.scalar "evaluation" true, .mapping [(.scalar "as_of_dates" true,
      .sequence [.scalar "2020-12-24" true, .scalar "2020-12-26" false])]),
    (.scalar "output" true, .mapping [(.scalar "json_indent" true, .scalar "4" true)])]

/-- The settings of the full file. -/
def fullEntries : List (Value × Value) :=
  [(.text "logging", .dict [(.text "level", .text "deBug")]),
    (.text "evaluation",
      .dict [(.text "as_of_dates", .list [.date euroMaturity, .text "2020-12-26"])]),
    (.text "output", .dict [(.text "json_indent", .int 4)])]

theorem read?_fullFile : Yaml.Document.read? fullFile = .ok (.dict fullEntries) := by
  have scanned : (Yaml.tokens (Yaml.unifyBreaks fullFile.toList)).toOption =
      some [.blockMappingStart, .key, .scalar "logging" true, .value,
        .blockMappingStart, .key, .scalar "level" true, .value, .scalar "deBug" true, .blockEnd,
        .key, .scalar "evaluation" true, .value,
        .blockMappingStart, .key, .scalar "as_of_dates" true, .value, .flowSequenceStart,
        .scalar "2020-12-24" true, .flowEntry, .scalar "2020-12-26" false, .flowSequenceEnd,
        .blockEnd, .key, .scalar "output" true, .value, .flowMappingStart, .key,
        .scalar "json_indent" true, .value, .scalar "4" true, .flowMappingEnd, .blockEnd] := by
    decide +kernel
  have valued : Yaml.Node.entryValues 1 fullNodes = .ok fullEntries := rfl
  have kept : Value.dictOf fullEntries = .dict fullEntries := rfl
  exact Yaml.Document.read?_of_entries (by decide +kernel) scanned rfl valued kept

/-- The two files at relative paths. -/
def twoFiles : Surroundings Yaml.Fault where
  read := Yaml.Document.read?
  files path :=
    if path = "layout.yaml" then some layoutFile
    else if path = "conf/full.yaml" then some fullFile else none
  packagedPath := "defaults.yaml"
  portfolioId := "portfolio"

/-- The days are given in two forms on the command line and in two in the file. -/
theorem run_eq_run_of_settings_of_two_days :
    let config : Config := ⟨.debug, ⟨[euroMaturity, poundMaturity], by decide⟩, some 4⟩
    let log : Log.State := { context := some "outer" }
    ∃ checksum outcome, config.checksum = .ok checksum ∧
      Program.run twoFiles log ["--config", "layout.yaml", "--as-of", "2020-12-24",
        "--log-level=DEBUG", "--as-of=20201226"] = outcome ∧
      Program.run twoFiles log ["--config=./conf//full.yaml"] = outcome ∧
      outcome.ending = .finished ∧ outcome.log.context = some "outer" := by
  intro config log
  have unconfigured : log.destination = none := rfl
  have someDay : config.schedule.days ≠ [] := by decide
  have writable : config.layout.fault? = none := by decide +kernel
  have layoutSets : twoFiles.HasFile "layout.yaml" ⟨none, none, some config.layout.setting⟩ :=
    ⟨layoutFile, _, rfl, read?_layoutFile, ⟨[], rfl, rfl⟩, ⟨[], rfl, rfl⟩, ⟨_, rfl, rfl⟩⟩
  have fullSets : twoFiles.HasFile "conf/full.yaml"
      ⟨some (.text "deBug"), some (.list [.date euroMaturity, .text "2020-12-26"]),
        some config.layout.setting⟩ :=
    ⟨fullFile, _, rfl, read?_fullFile, ⟨_, rfl, rfl⟩, ⟨_, rfl, rfl⟩, ⟨_, rfl, rfl⟩⟩
  have layoutPath : (Choice.config "layout.yaml").IsValue "layout.yaml" := by
    show pathText "layout.yaml" = "layout.yaml"
    decide +kernel
  have file : (Choice.config "layout.yaml").IsWritten ["--config", "layout.yaml"] :=
    .apart layoutPath fun _ _ => by decide
  have euroDay : Date.ofText? "2020-12-24" = .ok euroMaturity := rfl
  have first : (Choice.asOf euroMaturity).IsWritten ["--as-of", "2020-12-24"] :=
    .apart euroDay nofun
  have debug : (Choice.logLevel .debug).IsValue "DEBUG" := rfl
  have poundDay : (Choice.asOf poundMaturity).IsValue "20201226" := rfl
  have fullPath : (Choice.config "conf/full.yaml").IsValue "./conf//full.yaml" := by
    show pathText "./conf//full.yaml" = "conf/full.yaml"
    decide +kernel
  have pound : Date.ofText? "2020-12-26" = .ok poundMaturity := rfl
  have days : List.Forall₂ Date.IsNamedBy config.schedule.days
      [.date euroMaturity, .text "2020-12-26"] := .cons .date (.cons (.text pound) .nil)
  have level : "deBug".toUpper = config.severity.word := by
    apply String.toList_injective
    rw [String.toUpper, String.toList_map]
    decide
  obtain ⟨checksum, outcome, shown, set, read, finished, -, -, -, left⟩ :=
    run_eq_run_of_settings unconfigured someDay writable layoutSets
      (.cons file (.cons first (.cons (.joined debug) (.cons (.joined poundDay) .nil)))) rfl
      fullSets level days (.joined fullPath)
  exact ⟨checksum, outcome, shown, set, read, finished, by rw [left]; rfl⟩

end Demo

end TermSheet

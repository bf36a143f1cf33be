import TermSheet.Demo.Program
import TermSheet.Proofs.Demo.Report

/-!
# How the program ends

The program either stops before its run, with logging as it was, or it performs the run of a
configuration. In a run that finds logging unconfigured, everything is logged at the level of the
configuration with the identity of the portfolio, and behind it logging is configured and has its
old context.

Results:
* `run_eq_stop_or_perform`: the two ways.
* `run_eq_perform`: what leads to a run.
* `perform_of_unconfigured`: what a run leaves.
-/

namespace TermSheet.Demo

/-- A printout without a fault has all of the report. -/
theorem printout_of_complete {layout : Json.Layout} {entries : List Entry}
    (complete : (printout layout entries).fault = none) :
    printout layout entries = ⟨reportText layout entries, entries, none⟩ := by
  unfold printout at complete ⊢
  split at complete
  · cases complete
  · rfl

/-- Days on the command line that decrease are refused. -/
theorem Options.exists_revise_eq_error {o : Options} (decreasing : ¬ o.asOf.Pairwise (· ≤ ·))
    (c : Config) : ∃ fault, o.revise c = .error fault := by
  have someDay : o.asOf ≠ [] := by
    intro none
    rw [none] at decreasing
    exact decreasing .nil
  rw [revise, if_neg someDay, Schedule.ofDays?, Schedule.of?]
  split
  · exact ⟨_, rfl⟩
  · next rising => exact absurd ((firstDecrease?_eq_none_iff _).mp rising) decreasing

namespace Program

variable {ε : Type}

/-- The program stops before its run, or it has a configuration with a checksum and performs. Only
    help is printed by a program that stops. -/
theorem run_eq_stop_or_perform (around : Surroundings ε) (log : Log.State)
    (arguments : List String) :
    (∃ ending printed written, ending.started = false ∧ (printed = "" ∨ ending = .helped) ∧
      run around log arguments = ⟨ending, printed, written, log⟩) ∨
    ∃ options loaded config checksum, Options.parse arguments = .ok (.run options) ∧
      options.load around = .ok loaded ∧ options.revise loaded = .ok config ∧
      config.checksum = .ok checksum ∧
      run around log arguments = (perform around.portfolioId checksum config log).after
        (log.logAll (loaded.loadEntries (options.path around))) := by
  unfold run
  cases parsed : Options.parse arguments with
  | error fault => exact Or.inl ⟨_, _, _, rfl, Or.inl rfl, rfl⟩
  | ok request =>
    cases request with
    | help => exact Or.inl ⟨_, _, _, rfl, Or.inr rfl, rfl⟩
    | run options =>
      dsimp only
      cases found : options.load around with
      | error fault => exact Or.inl ⟨_, _, _, rfl, Or.inl rfl, rfl⟩
      | ok loaded =>
        dsimp only
        cases revised : options.revise loaded with
        | error fault => exact Or.inl ⟨_, _, _, rfl, Or.inl rfl, rfl⟩
        | ok config =>
          dsimp only
          cases shown : config.checksum with
          | error fault => exact Or.inl ⟨_, _, _, rfl, Or.inl rfl, rfl⟩
          | ok checksum =>
            exact Or.inr ⟨options, loaded, config, checksum, rfl, found, revised, shown, rfl⟩

/-- Where logging is not configured, the loading of a configuration writes nothing. -/
theorem logAll_loadEntries {log : Log.State} (unconfigured : log.destination = none) (path : String)
    (config : Config) : log.logAll (config.loadEntries path) = [] := by
  apply Log.State.logAll_eq_nil unconfigured
  intro e mem
  obtain ⟨checksum, -, rfl⟩ := List.mem_map.mp mem
  show Log.Level.debug < Log.Level.warning
  decide

theorem run_eq_perform {around : Surroundings ε} {arguments : List String}
    {options : Options} {loaded config : Config} {checksum : String}
    (parsed : Options.parse arguments = .ok (.run options))
    (found : options.load around = .ok loaded) (revised : options.revise loaded = .ok config)
    (shown : config.checksum = .ok checksum) {log : Log.State}
    (unconfigured : log.destination = none) :
    run around log arguments = perform around.portfolioId checksum config log := by
  simp only [run, parsed, found, revised, shown, Outcome.after, logAll_loadEntries unconfigured]
  rfl

theorem started_perform (portfolioId checksum : String) (config : Config) (log : Log.State) :
    (perform portfolioId checksum config log : Outcome ε).ending.started = true := by
  simp only [perform]
  split <;> rfl

/-- A run that finishes has printed all of its report. -/
theorem complete_of_finished {portfolioId checksum : String} {config : Config} {log : Log.State}
    (finished : (perform portfolioId checksum config log : Outcome ε).ending = .finished) :
    (printout config.layout (report config.schedule)).fault = none := by
  simp only [perform] at finished
  split at finished
  · cases finished
  · assumption

/-- Logging as a run configures it. -/
def configured (config : Config) (log : Log.State) : Log.State :=
  { log with level := config.severity.level, destination := some .standardError }

/-- Logging inside a run. -/
def inside (portfolioId : String) (config : Config) (log : Log.State) : Log.State :=
  { configured config log with context := some portfolioId }

theorem perform_of_unconfigured {log : Log.State} (unconfigured : log.destination = none)
    {config : Config} (complete : (printout config.layout (report config.schedule)).fault = none)
    (portfolioId checksum : String) :
    (perform portfolioId checksum config log : Outcome ε) =
      { ending := .finished
        printed := reportText config.layout (report config.schedule)
        written := (inside portfolioId config log).logAll
          (entries checksum (report config.schedule))
        log := configured config log } := by
  have first : log.configure config.severity.level .standardError = configured config log := by
    rw [Log.State.configure, unconfigured]
    rfl
  rw [perform, first, printout_of_complete complete]
  rfl

end Program

end TermSheet.Demo

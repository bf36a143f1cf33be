import TermSheet.Log.Settlement
import TermSheet.Proofs.Contract.Visit
import TermSheet.Proofs.Log.History

/-!
# Settling is logged once

Settling a contract settles its parts, and a foreign leaf is logged where it is met, below all that
is above it. `Contract.settleLogged` has each entry in its place. When it is through, there is one
more entry at most, however deep the contract is: the one for the outcome. When logging is for
debugging, the entry becomes a record.

Results:
* `Logging.Reports.bind`: two steps that log nothing but their faults.
* `Contract.reports_walk`: the way through a contract logs nothing but its fault.
* `Contract.after_settleLogged`: what settling comes to, and what is logged of it.
* `Log.State.logAll_eq_lines`: what is written is a line for each record.
* `Contract.settle_reports_first_fault`: the first fault on the visit is reported, and logged once.
-/

namespace TermSheet

/-- A computation that may fail and that logs entries. -/
abbrev Logging (ε : Type) := ExceptT ε (StateM (List Log.Entry))

namespace Logging

variable {ε α β : Type}

/-- The outcome of a computation, and all that is logged afterwards. -/
def after (m : Logging ε α) (log : List Log.Entry) : Except ε α × List Log.Entry := m.run.run log

/-- A step that may fail and that logs nothing. -/
def quiet (x : Except ε α) : Logging ε α := MonadExcept.ofExcept x

/-- The second step is taken behind what the first one has logged, unless that one has a fault. -/
theorem after_bind (m : Logging ε α) (k : α → Logging ε β) (log : List Log.Entry) :
    (m >>= k).after log =
      match m.after log with
      | (.ok a, log) => (k a).after log
      | (.error fault, log) => (.error fault, log) := by
  unfold after
  rw [ExceptT.run_bind, StateT.run_bind]
  rcases m.run.run log with ⟨_ | _, _⟩ <;> rfl

/-- A computation has an outcome and logs nothing but the entries for its fault. -/
def Reports (entries : ε → List Log.Entry) (m : Logging ε α) (x : Except ε α) : Prop :=
  ∀ log, m.after log = (x, log ++ ((fault? x).map entries).getD [])

variable {entries : ε → List Log.Entry}

theorem reports_pure (a : α) : Reports entries (pure a) (.ok a) :=
  fun log => congrArg (Prod.mk _) (List.append_nil log).symm

theorem reports_throw (entries : ε → List Log.Entry) (fault : ε) :
    Reports entries (do modify (· ++ entries fault); throw fault) (.error fault : Except ε α) :=
  fun _ => rfl

theorem reports_quiet {x : Except ε α} (h : ∀ fault, x = .error fault → entries fault = []) :
    Reports entries (quiet x) x := by
  intro log
  cases x with
  | ok a => exact reports_pure a log
  | error fault =>
    rw [fault?, Option.map_some, h fault rfl]
    exact congrArg (Prod.mk _) (List.append_nil log).symm

/-- The second step is taken only when the first one has logged nothing. -/
theorem Reports.bind {m : Logging ε α} {x : Except ε α} {k : α → Logging ε β}
    {f : α → Except ε β} (first : Reports entries m x)
    (second : ∀ a, Reports entries (k a) (f a)) : Reports entries (m >>= k) (x >>= f) := by
  intro log
  rw [after_bind, first log]
  cases x with
  | ok a =>
    rw [fault?, Option.map_none, Option.getD_none, List.append_nil]
    exact second a log
  | error fault => rfl

end Logging

/-! ## Settling with its entries -/

variable {F : Type}

/-- What a fault of a settlement is logged with. -/
def SettlementFault.entries (leafType : F → String) (asOf : Date) (fault : SettlementFault F) :
    List Log.Entry :=
  Settlement.entries leafType asOf (.error fault)

/-- Products that overflow are not logged. -/
theorem Settlement.entries_of_scaled {k : Amount} {s : Settlement F} {fault : SettlementFault F}
    (h : s.scaled k = .error fault) (leafType : F → String) (asOf : Date) :
    fault.entries leafType asOf = [] := by
  rw [← fault?_eq_some_iff, fault?_scaled] at h
  obtain ⟨e, mem, found⟩ := List.exists_of_findSome?_eq_some h
  obtain ⟨amount, -, rfl⟩ := List.mem_map.mp mem
  rw [Encounter.fault?, Option.ite_none_left_eq_some] at found
  cases found.2
  rfl

namespace Contract

/-- The way through a contract on a day. A foreign leaf is logged where it is met. -/
def walk (leafType : F → String) (asOf : Date) :
    Contract F → Logging (SettlementFault F) (Settlement F)
  | zero => pure ⟨[], zero⟩
  | one currency => pure ⟨[⟨.long, .unit, currency⟩], zero⟩
  | multiple factor inner => do
    let s ← inner.walk leafType asOf
    Logging.quiet (s.scaled factor)
  | later date inner =>
    if date ≤ asOf then inner.walk leafType asOf else pure ⟨[], later date inner⟩
  | give inner => do
    let s ← inner.walk leafType asOf
    return s.reversed
  | both left right => do
    let s ← left.walk leafType asOf
    let u ← right.walk leafType asOf
    return s.joined u
  | foreign leaf => do
    modify (· ++ (SettlementFault.foreign leaf).entries leafType asOf)
    throw (.foreign leaf)

/-- Settling a contract on a day: the way through it, and then the entry for what came of it. -/
def settleLogged (leafType : F → String) (asOf : Date) (c : Contract F) :
    Logging (SettlementFault F) (Settlement F) := do
  let s ← c.walk leafType asOf
  modify (· ++ Settlement.entries leafType asOf (.ok s))
  return s

variable {leafType : F → String} {t : Date}

/-- The way through a contract comes to its settlement and logs only a fault. The induction is on
    the contract: what was logged deep inside is not logged again above. -/
theorem reports_walk (c : Contract F) :
    Logging.Reports (·.entries leafType t) (c.walk leafType t) (c.settle t) := by
  induction c with
  | zero => exact Logging.reports_pure _
  | one currency => exact Logging.reports_pure _
  | multiple factor inner ih =>
    rw [settle_multiple]
    apply ih.bind
    intro s
    exact Logging.reports_quiet fun fault h => Settlement.entries_of_scaled h leafType t
  | later date inner ih =>
    rw [walk]
    by_cases come : date ≤ t
    · rw [settle_later_of_le come, if_pos come]
      exact ih
    · rw [settle_later_of_lt come, if_neg come]
      exact Logging.reports_pure _
  | give inner ih =>
    rw [settle_give]
    apply ih.bind
    intro s
    exact Logging.reports_pure _
  | both left right ihl ihr =>
    rw [settle_both]
    apply ihl.bind
    intro s
    apply ihr.bind
    intro u
    exact Logging.reports_pure _
  | foreign leaf => exact Logging.reports_throw _ _

/-- Settling comes to the settlement and logs the entries for its outcome. -/
theorem after_settleLogged (c : Contract F) (log : List Log.Entry) :
    (c.settleLogged leafType t).after log =
      (c.settle t, log ++ Settlement.entries leafType t (c.settle t)) := by
  rw [settleLogged, Logging.after_bind, reports_walk c log]
  cases c.settle t with
  | error fault => rfl
  | ok s =>
    rw [fault?, Option.map_none, Option.getD_none, List.append_nil]
    rfl

end Contract

/-! ## Records -/

/-- The record of a message without arguments and without a problem. -/
def Log.Record.plain (now : Binary64) (logger level message : String) (fields : Log.Fields) :
    Log.Record where
  logger := .text logger
  levelName := .text level
  created := .float now
  template := .text message
  args := .tuple []
  extras := fields
  cause := .value .none

namespace Log.State

variable {s : State}

/-- The records that are made of entries. -/
def records (s : State) (entries : List Entry) : List Record :=
  (entries.filter (s.enabled ·.level)).map (·.record s.now)

/-- What is written to a destination is a line for each record that has one. -/
theorem logAll_eq_lines {destination : Destination} (configured : s.destination = some destination)
    {entries : List Entry} (admitted : ∀ e ∈ entries, e.IsAdmitted) :
    s.logAll entries = (s.records entries).filterMap fun r =>
      (r.line s.context).toOption.map fun line => (destination, line ++ "\n") := by
  rw [records, List.filterMap_map, List.filterMap_filter, logAll]
  refine List.filterMap_congr fun e mem => ?_
  cases enabled : s.enabled e.level with
  | true =>
    rw [log_of_admitted enabled (admitted e mem), written, configured]
    rfl
  | false =>
    rw [log, enabled]
    rfl

end Log.State

theorem settlementLogger_eq : settlementLogger = "finance_contracts.domain.evaluator" := by decide

namespace Settlement

variable {leafType : F → String} {t : Date} {outcome : Except (SettlementFault F) (Settlement F)}

/-- The fields of the entries for a settlement have names of their own. -/
theorem isAdmitted_of_mem_entries {e : Log.Entry} (mem : e ∈ entries leafType t outcome) :
    e.IsAdmitted := by
  have own (e : Log.Entry) (names : ∀ name ∈ e.extras.map (·.1), name ∉ Log.reservedNames) :
      e.IsAdmitted := fun field mem => names field.1 (List.mem_map_of_mem mem)
  unfold entries at mem
  apply own
  split at mem
  · rw [List.mem_singleton.mp mem]
    exact (by decide : ∀ name ∈ ["as_of", "payment_count", "residual_size"],
      name ∉ Log.reservedNames)
  · rw [List.mem_singleton.mp mem]
    exact (by decide : ∀ name ∈ ["term_type"], name ∉ Log.reservedNames)
  · cases mem

theorem debug_le_of_mem_entries {e : Log.Entry} (mem : e ∈ entries leafType t outcome) :
    Log.Level.debug ≤ e.level := by
  unfold entries at mem
  split at mem
  · rw [List.mem_singleton.mp mem]
  · rw [List.mem_singleton.mp mem]
    exact (by decide : Log.Level.debug ≤ Log.Level.error)
  · cases mem

section Debug

variable {log : Log.State} (debug : log.level = Log.Level.debug)
include debug

/-- When logging is for debugging, every entry for a settlement becomes a record. -/
theorem records_entries :
    log.records (entries leafType t outcome) =
      (entries leafType t outcome).map (·.record log.now) := by
  have positive : 1 ≤ Log.Level.debug := by decide
  rw [Log.State.records, List.filter_eq_self.mpr]
  intro e mem
  have least := debug_le_of_mem_entries mem
  rw [← debug] at positive least
  exact (Log.State.enabled_iff positive (Int.le_trans positive least)).mpr least

theorem records_of_settled (s : Settlement F) :
    log.records (entries leafType t (.ok s)) =
      [.plain log.now "finance_contracts.domain.evaluator" "DEBUG" "contract_stepped"
        [("as_of", .date t), ("payment_count", .int s.payments.length),
          ("residual_size", .int s.residual.size)]] := by
  rw [records_entries debug, ← settlementLogger_eq]
  rfl

theorem records_of_foreign (leaf : F) :
    log.records (entries leafType t (.error (.foreign leaf))) =
      [.plain log.now "finance_contracts.domain.evaluator" "ERROR" "illegal_contract_variant"
        [("term_type", .text (leafType leaf))]] := by
  rw [records_entries debug, ← settlementLogger_eq]
  rfl

end Debug

end Settlement

namespace Contract

/-- **The first fault is reported, and logged once.** A contract is settled on a day exactly when
    the visit to it meets neither a foreign leaf nor a product that overflows, and otherwise the
    fault is the first of these that it meets. It meets the foreign leaves for which every day above
    them has come, so that a foreign leaf that waits is never the fault, and a contract without
    foreign leaves never has one as its fault. When settling is through, the entries for its outcome
    stand behind what was logged before. When logging is for debugging, they make one record of that
    level with the number of payments and the size of the residual if the contract is settled, one
    record of an error with the type of the leaf if the fault is a foreign leaf, and none if a
    product overflows; and what is written to a destination is a line for each record. -/
theorem settle_reports_first_fault (leafType : F → String) (c : Contract F) (t : Date) :
    ((∃ s, c.settle t = .ok s) ↔ ∀ e ∈ c.visit t, e.fault? = none) ∧
    (∀ fault, c.settle t = .error fault ↔
      ∃ before e after, c.visit t = before ++ e :: after ∧
        e.fault? = some fault ∧ ∀ x ∈ before, x.fault? = none) ∧
    (∀ leaf, .foreign leaf ∈ c.visit t ↔
      ∃ path, (path, leaf) ∈ c.foreignPaths ∧ Layer.AreDue path t) ∧
    (∀ leaf, c.settle t = .error (.foreign leaf) →
      ∃ path, (path, leaf) ∈ c.foreignPaths ∧ Layer.AreDue path t) ∧
    (c.IsWhole → ∀ leaf, c.settle t ≠ .error (.foreign leaf)) ∧
    (∀ earlier, (c.settleLogged leafType t).after earlier =
      (c.settle t, earlier ++ Settlement.entries leafType t (c.settle t))) ∧
    ∀ log : Log.State, log.level = Log.Level.debug →
      let logged := ((c.settleLogged leafType t).after []).2
      (∀ s, c.settle t = .ok s →
        log.records logged =
          [.plain log.now "finance_contracts.domain.evaluator" "DEBUG" "contract_stepped"
            [("as_of", .date t), ("payment_count", .int s.payments.length),
              ("residual_size", .int s.residual.size)]]) ∧
      (∀ fault, c.settle t = .error fault →
        fault.kind = .illegalContract ∧
          (∃ leaf, fault = .foreign leaf ∧ log.records logged =
            [.plain log.now "finance_contracts.domain.evaluator" "ERROR" "illegal_contract_variant"
              [("term_type", .text (leafType leaf))]]) ∨
        fault.kind = .invalidAmount ∧ log.records logged = []) ∧
      ∀ destination, log.destination = some destination →
        log.logAll logged = (log.records logged).filterMap fun r =>
          (r.line log.context).toOption.map fun line => (destination, line ++ "\n") := by
  refine ⟨exists_settle_iff_visit, fun _ => settle_eq_error_iff, fun _ => foreign_mem_visit_iff,
    fun _ => exists_path_of_foreign, IsWhole.settle_ne_foreign, after_settleLogged c, ?_⟩
  intro log debug logged
  have entries : logged = Settlement.entries leafType t (c.settle t) :=
    congrArg Prod.snd (after_settleLogged c [])
  rw [entries]
  refine ⟨?_, ?_, ?_⟩
  · intro s settled
    rw [settled]
    exact Settlement.records_of_settled debug s
  · intro fault settled
    rw [settled]
    cases fault with
    | foreign leaf => exact Or.inl ⟨rfl, leaf, rfl, Settlement.records_of_foreign debug leaf⟩
    | overflow factor amount => exact Or.inr ⟨rfl, Settlement.records_entries debug⟩
  · intro destination configured
    apply Log.State.logAll_eq_lines configured
    intro e mem
    exact Settlement.isAdmitted_of_mem_entries mem

/-- A leaf that waits in front of three contracts: one that is settled, one with a foreign leaf in
    front of a product that overflows, and one with these two the other way round. -/
theorem settle_reports_first_fault_of_three_contracts :
    let day : Date := ⟨2021, 5, 2, by decide⟩
    let waiting : Contract String := later ⟨2021, 5, 3, by decide⟩ (foreign "Waiting")
    let large : Contract String :=
      multiple ⟨⟨false, 1, 999999⟩⟩ (both (one .gbp) (multiple ⟨⟨false, 10, 0⟩⟩ (one .eur)))
    let log : Log.State := { level := Log.Level.debug, destination := some .standardError }
    let logged (c : Contract String) := ((c.settleLogged id day).after []).2
    log.records (logged (both waiting (one .usd))) =
        [.plain log.now "finance_contracts.domain.evaluator" "DEBUG" "contract_stepped"
          [("as_of", .date day), ("payment_count", .int 1), ("residual_size", .int 2)]] ∧
      log.records (logged (both waiting (both (foreign "Due") large))) =
        [.plain log.now "finance_contracts.domain.evaluator" "ERROR" "illegal_contract_variant"
          [("term_type", .text "Due")]] ∧
      (∃ path, (path, "Due") ∈ (both waiting (both (foreign "Due") large)).foreignPaths ∧
        Layer.AreDue path day) ∧
      log.records (logged (both waiting (both large (foreign "Due")))) = [] ∧
      log.logAll (logged (both waiting (both large (foreign "Due")))) = [] ∧
      large.settle day ≠ .error (.foreign "Due") := by
  intro day waiting large log logged
  have settled : (both waiting (one .usd)).settle day = .ok ⟨[⟨.long, .unit, .usd⟩], waiting⟩ := by
    decide
  have due : (both waiting (both (foreign "Due") large)).settle day =
      .error (.foreign "Due") := by decide
  have overflow : (both waiting (both large (foreign "Due"))).settle day =
      .error (.overflow ⟨⟨false, 1, 999999⟩⟩ ⟨⟨false, 10, 0⟩⟩) := by decide +kernel
  obtain ⟨-, -, -, -, -, -, first⟩ := settle_reports_first_fault id (both waiting (one .usd)) day
  obtain ⟨-, -, -, reached, -, -, second⟩ :=
    settle_reports_first_fault id (both waiting (both (.foreign "Due") large)) day
  obtain ⟨-, -, -, -, -, -, third⟩ :=
    settle_reports_first_fault id (both waiting (both large (.foreign "Due"))) day
  obtain ⟨-, -, -, -, whole, -, -⟩ := settle_reports_first_fault id large day
  obtain ⟨record, -, -⟩ := first log rfl
  obtain ⟨-, failure, -⟩ := second log rfl
  obtain ⟨-, silence, lines⟩ := third log rfl
  have none : log.records (logged (both waiting (both large (.foreign "Due")))) = [] := by
    rcases silence _ overflow with ⟨-, leaf, same, -⟩ | ⟨-, none⟩
    · cases same
    · exact none
  refine ⟨record _ settled, ?_, reached _ due, none, ?_, whole rfl "Due"⟩
  · rcases failure _ due with ⟨-, leaf, same, one⟩ | ⟨other, -⟩
    · cases same
      exact one
    · cases other
  · rw [lines _ rfl]
    exact congrArg (List.filterMap _) none

end Contract

end TermSheet

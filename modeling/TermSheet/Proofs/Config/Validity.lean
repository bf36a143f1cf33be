import TermSheet.Proofs.Config.Settings
import TermSheet.Proofs.Value.Amount

/-!
# Which values are configurations

A mapping is a configuration when its three sections are mappings or say nothing and each of the
three settings is valid where it is set: a level is anything whose plain form is the word of a
severity in capitals, days are a list of days in any of their forms in which none comes before an
earlier entry, and an indentation is nothing or a whole number that is not negative. What is not set
keeps its usual value, whether the others are set or not. Every other value is refused. The fault
says what is wrong unless it would have to quote a whole number that is too long to be written.

Results:
* `section?_eq_ok_iff`, `setting?_eq_ok_iff`: sections and settings.
* `severity?_eq_ok_iff`, `Schedule.ofValue?_eq_ok_iff`, `layout?_eq_ok_iff`: the three settings.
* `Config.ofValue?_eq_ok_iff`: the configurations.
* `Config.faultsAre_ofValue?`: the faults.
* `ofValue?_accepts`: which values are accepted, as what, and what becomes of the others.
-/

namespace TermSheet

/-! ## Sections and settings -/

section Setting

variable {α : Type} {fields : List (Value × Value)} {name : String} {a : α}

/-- The entries of a section: there are none where the section is missing or has no value. -/
inductive Value.IsSection (entries : List (Value × Value)) (name : String) :
    List (Value × Value) → Prop
  | missing (h : field? entries name = Option.none) : IsSection entries name []
  | valueless (h : field? entries name = some .none) : IsSection entries name []
  | mapping {fields : List (Value × Value)} (h : field? entries name = some (.dict fields)) :
    IsSection entries name fields

/-- What a setting stands for: what its value means, or the usual thing where it is not set. -/
inductive Value.IsSetting (fields : List (Value × Value)) (name : String) (usual : α)
    (Means : Value → α → Prop) : α → Prop
  | unset (h : field? fields name = Option.none) : IsSetting fields name usual Means usual
  | set {v : Value} {a : α} (h : field? fields name = some v) (means : Means v a) :
    IsSetting fields name usual Means a

theorem Config.section?_eq_ok_iff {entries : List (Value × Value)} :
    Config.section? entries name = .ok fields ↔ Value.IsSection entries name fields := by
  constructor
  · intro h
    unfold section? at h
    split at h
    · next missing => cases h; exact .missing missing
    · next valueless => cases h; exact .valueless valueless
    · next mapping => cases h; exact .mapping mapping
    · unfold quoting at h
      split at h <;> cases h
  · rintro (h | h | h) <;> rw [section?, h]

theorem Config.setting?_eq_ok_iff {usual : α} {read : Value → Except ConfigFault α}
    {Means : Value → α → Prop} (reads : ∀ v a, read v = .ok a ↔ Means v a) :
    setting? fields name usual read = .ok a ↔ Value.IsSetting fields name usual Means a := by
  constructor
  · intro h
    unfold setting? at h
    split at h
    · next found => exact .set found ((reads _ a).mp h)
    · next unset => cases h; exact .unset unset
  · rintro (h | ⟨h, means⟩)
    · rw [setting?, h]
    · rw [setting?, h]
      exact (reads _ a).mpr means

end Setting

/-! ## Levels -/

/-- A value names a severity when its plain form is the word for it, up to capitals. -/
def Log.Severity.IsNamedBy (severity : Severity) (v : Value) : Prop :=
  ∃ shown, v.plain = .ok shown ∧ Text.upper shown = severity.word

theorem Log.Severity.ofWord?_eq_some_iff {word : String} {severity : Severity} :
    ofWord? word = some severity ↔ word = severity.word := by
  constructor
  · intro h
    exact (beq_iff_eq.mp (List.find?_some h :)).symm
  · rintro rfl
    exact ofWord?_word severity

theorem Config.severity?_eq_ok_iff (v : Value) (severity : Log.Severity) :
    severity? v = .ok severity ↔ severity.IsNamedBy v := by
  unfold severity? Log.Severity.IsNamedBy
  cases v.plain with
  | error fault => simp
  | ok shown =>
    simp only [Except.ok.injEq, exists_eq_left', ← Log.Severity.ofWord?_eq_some_iff]
    cases Log.Severity.ofWord? (Text.upper shown) <;> simp

/-! ## Days -/

/-- No code of a currency and no word of a direction is a day. -/
theorem Date.ofValue?_eq_ok_iff {v : Value} {day : Date} :
    ofValue? v = .ok day ↔ day.IsNamedBy v := by
  refine ⟨fun h => ?_, ofValue?_of_isNamedBy⟩
  cases v with
  | date d => cases h; exact .date
  | dateTime t => exact .dateTime (Except.ok.inj h)
  | text s => exact .text (mapError_eq_ok_iff.mp h)
  | currency c => cases c <;> cases h
  | direction d => cases d <;> cases h
  | _ =>
    simp only [ofValue?] at h
    split at h <;> simp_all [Value.toText?]

/-- A value lists days when it is a list of them in any of their forms, and none of them comes
    before an earlier entry. -/
def Value.ListsDays (v : Value) (days : List Date) : Prop :=
  ∃ items, v = .list items ∧ List.Forall₂ Date.IsNamedBy days items ∧ days.Pairwise (· ≤ ·)

theorem Schedule.of?_eq_ok_iff {days : List Date} {schedule : Schedule} :
    of? days = .ok schedule ↔ schedule.days = days := by
  constructor
  · intro h
    unfold of? at h
    split at h
    · cases h
    · cases h
      rfl
  · rintro rfl
    exact of?_days schedule

theorem Schedule.ofValue?_eq_ok_iff (v : Value) (schedule : Schedule) :
    ofValue? v = .ok schedule ↔ v.ListsDays schedule.days := by
  constructor
  · intro h
    unfold ofValue? at h
    split at h
    · next items =>
      split at h
      · cases h
      · next days read =>
        obtain rfl := of?_eq_ok_iff.mp (mapError_eq_ok_iff.mp h)
        refine ⟨items, rfl, ?_, schedule.rising⟩
        exact ((mapM_eq_ok_iff.mp read).imp fun _ _ => Date.ofValue?_eq_ok_iff.mp).flip
    · split at h <;> cases h
  · rintro ⟨items, rfl, named, -⟩
    exact ofValue?_list named

/-! ## Layouts -/

/-- A value sets a layout: nothing stands for one line, a whole number that is not negative for that
    many blanks. -/
inductive Value.SetsLayout : Value → Json.Layout → Prop
  | oneLine : SetsLayout .none Option.none
  | width (n : Nat) : SetsLayout (.int n) (some n)

theorem Config.layout?_eq_ok_iff (v : Value) (layout : Json.Layout) :
    layout? v = .ok layout ↔ v.SetsLayout layout := by
  constructor
  · intro h
    unfold layout? at h
    split at h
    · cases h; exact .oneLine
    · cases h; exact .width _
    · unfold quoting at h
      split at h <;> cases h
  · rintro (_ | n) <;> rfl

/-! ## Configurations -/

/-- A mapping holds a severity, days and a layout: each as the setting of a section says, or the
    usual one where there is no setting. -/
inductive Value.Holds : Value → Log.Severity → List Date → Json.Layout → Prop
  | mapping {entries logging evaluation output : List (Value × Value)} {severity : Log.Severity}
    {days : List Date} {layout : Json.Layout} (inLogging : IsSection entries "logging" logging)
    (inEvaluation : IsSection entries "evaluation" evaluation)
    (inOutput : IsSection entries "output" output)
    (level : IsSetting logging "level" .info (fun v s => s.IsNamedBy v) severity)
    (asOf : IsSetting evaluation "as_of_dates" [⟨2020, 12, 24, by decide⟩] ListsDays days)
    (indent : IsSetting output "json_indent" (some 2) SetsLayout layout) :
    Holds (.dict entries) severity days layout

namespace Config

/-- A schedule is set when its days are. -/
theorem isSetting_days_iff {fields : List (Value × Value)} {name : String}
    {usual schedule : Schedule} :
    Value.IsSetting fields name usual (fun v s => v.ListsDays s.days) schedule ↔
      Value.IsSetting fields name usual.days Value.ListsDays schedule.days := by
  constructor
  · rintro (h | ⟨h, means⟩)
    · exact .unset h
    · exact .set h means
  · intro h
    generalize same : schedule.days = days at h
    rcases h with h | ⟨h, means⟩
    · obtain rfl : schedule = usual := by cases schedule; cases usual; cases same; rfl
      exact .unset h
    · exact .set h (same ▸ means)

theorem ofValue?_eq_ok_iff {v : Value} {c : Config} :
    ofValue? v = .ok c ↔ v.Holds c.severity c.schedule.days c.layout := by
  have schedules (v : Value) (schedule : Schedule) :
      (Schedule.ofValue? v).mapError ConfigFault.schedule = .ok schedule ↔
        v.ListsDays schedule.days :=
    mapError_eq_ok_iff.trans (Schedule.ofValue?_eq_ok_iff v schedule)
  constructor
  · intro h
    unfold ofValue? at h
    split at h
    · simp only [bind_eq_ok_iff, section?_eq_ok_iff, setting?_eq_ok_iff severity?_eq_ok_iff,
        setting?_eq_ok_iff schedules, setting?_eq_ok_iff layout?_eq_ok_iff] at h
      obtain ⟨logging, inLogging, evaluation, inEvaluation, output, inOutput, severity, level,
        schedule, asOf, layout, indent, made⟩ := h
      obtain rfl := Except.ok.inj made
      exact .mapping inLogging inEvaluation inOutput level (isSetting_days_iff.mp asOf) indent
    · unfold quoting at h
      split at h <;> cases h
  · intro h
    -- A schedule is more than its days, so the settings are taken apart for days that are any list.
    generalize same : c.schedule.days = days at h
    rcases h with ⟨inLogging, inEvaluation, inOutput, level, asOf, indent⟩
    subst same
    have asOf' : Value.IsSetting _ _ usualSchedule _ _ := isSetting_days_iff.mpr asOf
    simp only [ofValue?, ok_bind, section?_eq_ok_iff.mpr inLogging,
      (setting?_eq_ok_iff severity?_eq_ok_iff).mpr level, section?_eq_ok_iff.mpr inEvaluation,
      (setting?_eq_ok_iff schedules).mpr asOf', section?_eq_ok_iff.mpr inOutput,
      (setting?_eq_ok_iff layout?_eq_ok_iff).mpr indent]
    rfl

end Config

/-! ## Faults -/

namespace Value

theorem mem_wholeNumbersOfList {items : List Value} {item : Value} (mem : item ∈ items) {i : Int}
    (h : i ∈ item.wholeNumbers) : i ∈ wholeNumbersOfList items := by
  induction items with
  | nil => cases mem
  | cons first items ih =>
    rw [wholeNumbersOfList, List.mem_append]
    rcases List.mem_cons.mp mem with rfl | mem
    · exact Or.inl h
    · exact Or.inr (ih mem)

theorem mem_wholeNumbersOfEntries {entries : List (Value × Value)} {entry : Value × Value}
    (mem : entry ∈ entries) {i : Int} (h : i ∈ entry.2.wholeNumbers) :
    i ∈ wholeNumbersOfEntries entries := by
  induction entries with
  | nil => cases mem
  | cons first entries ih =>
    obtain ⟨key, item⟩ := first
    rw [wholeNumbersOfEntries, List.mem_append, List.mem_append]
    rcases List.mem_cons.mp mem with rfl | mem
    · exact Or.inl (Or.inr h)
    · exact Or.inr (ih mem)

theorem IsWritten.of_mem_list {items : List Value} (h : (list items).IsWritten) {item : Value}
    (mem : item ∈ items) : item.IsWritten := by
  intro i hi
  exact h i (mem_wholeNumbersOfList mem hi)

theorem IsWritten.of_field? {entries : List (Value × Value)} (h : (dict entries).IsWritten)
    {name : String} {v : Value} (found : field? entries name = some v) : v.IsWritten := by
  obtain ⟨entry, here, rfl⟩ := Option.map_eq_some_iff.mp found
  intro i hi
  exact h i (mem_wholeNumbersOfEntries (List.mem_of_find?_eq_some here) hi)

theorem IsWritten.exists_exact {v : Value} (h : v.IsWritten) : ∃ shown, v.exact = .ok shown :=
  (exists_exact_iff v).mpr h

/-- A section of a mapping holds no whole numbers of its own. -/
theorem IsWritten.of_isSection {entries fields : List (Value × Value)}
    (h : (dict entries).IsWritten) {name : String} (found : IsSection entries name fields) :
    (dict fields).IsWritten := by
  rcases found with _ | _ | found
  · exact List.forall_mem_nil _
  · exact List.forall_mem_nil _
  · exact h.of_field? found

end Value

/-- A fault says what is wrong with a day, and not that a value cannot be written. -/
def DateFault.IsTold : DateFault → Prop
  | text _ _ | noDate _ => True
  | unshowable _ => False

/-- The same of a list of days. -/
def ScheduleFault.IsTold : ScheduleFault → Prop
  | noList _ | decreasing _ _ => True
  | date fault => fault.IsTold
  | unshowable _ => False

/-- The same of a configuration. -/
def ConfigFault.IsTold : ConfigFault → Prop
  | noMapping _ | noSection _ _ | unknownLevel _ | badIndent _ => True
  | schedule fault => fault.IsTold
  | unshowable _ => False

theorem Date.faultsAre_ofValue? {v : Value} (h : v.IsWritten) :
    FaultsAre DateFault.IsTold (ofValue? v) := by
  obtain ⟨shown, exact⟩ := h.exists_exact
  unfold ofValue?
  split
  · exact faultsAre_ok _
  · exact faultsAre_ok _
  · next cannot => rw [exact] at cannot; cases cannot
  · split
    · exact FaultsAre.mapError (P := fun _ => True) (fun _ _ => trivial) fun _ _ => trivial
    · exact faultsAre_error trivial

theorem Schedule.faultsAre_ofValue? {v : Value} (h : v.IsWritten) :
    FaultsAre ScheduleFault.IsTold (ofValue? v) := by
  unfold ofValue?
  split
  · next items =>
    have days : FaultsAre DateFault.IsTold (items.mapM Date.ofValue?) :=
      FaultsAre.mapM fun item mem => Date.faultsAre_ofValue? (h.of_mem_list mem)
    split
    · next fault ends => exact faultsAre_error (days fault ends)
    · exact FaultsAre.mapError (P := fun _ => True) (fun _ _ => trivial) fun _ _ => trivial
  · obtain ⟨shown, exact⟩ := h.exists_exact
    rw [exact]
    exact faultsAre_error trivial

namespace Config

theorem faultsAre_quoting {α : Type} {fault : String → ConfigFault} {v : Value} (h : v.IsWritten)
    (told : ∀ shown, (fault shown).IsTold) :
    FaultsAre ConfigFault.IsTold (quoting fault v : Except ConfigFault α) := by
  obtain ⟨shown, exact⟩ := h.exists_exact
  rw [quoting, exact]
  exact faultsAre_error (told shown)

theorem faultsAre_section? {entries : List (Value × Value)} (h : (Value.dict entries).IsWritten)
    (name : String) : FaultsAre ConfigFault.IsTold (section? entries name) := by
  unfold section?
  split
  · exact faultsAre_ok _
  · exact faultsAre_ok _
  · exact faultsAre_ok _
  · next found => exact faultsAre_quoting (h.of_field? found) fun _ => trivial

theorem faultsAre_severity? {v : Value} (h : v.IsWritten) :
    FaultsAre ConfigFault.IsTold (severity? v) := by
  obtain ⟨shown, plain⟩ := (Value.exists_plain_iff_isWritten v).mpr h
  rw [severity?, plain]
  dsimp only
  split
  · exact faultsAre_ok _
  · exact faultsAre_error trivial

theorem faultsAre_layout? {v : Value} (h : v.IsWritten) :
    FaultsAre ConfigFault.IsTold (layout? v) := by
  unfold layout?
  split
  · exact faultsAre_ok _
  · exact faultsAre_ok _
  · exact faultsAre_quoting h fun _ => trivial

theorem faultsAre_setting? {α : Type} {fields : List (Value × Value)}
    (h : (Value.dict fields).IsWritten) {name : String} {usual : α}
    {read : Value → Except ConfigFault α}
    (reads : ∀ {v : Value}, v.IsWritten → FaultsAre ConfigFault.IsTold (read v)) :
    FaultsAre ConfigFault.IsTold (setting? fields name usual read) := by
  unfold setting?
  split
  · next found => exact reads (h.of_field? found)
  · exact faultsAre_ok _

/-- A value all of whose whole numbers can be written is refused with a fault that says what is
    wrong. -/
theorem faultsAre_ofValue? {v : Value} (h : v.IsWritten) :
    FaultsAre ConfigFault.IsTold (ofValue? v) := by
  unfold ofValue?
  split
  · have part {name : String} {fields : List (Value × Value)}
        (found : section? _ name = .ok fields) : (Value.dict fields).IsWritten :=
      h.of_isSection (section?_eq_ok_iff.mp found)
    refine .bind (faultsAre_section? h _) fun logging inLogging => ?_
    refine .bind (faultsAre_section? h _) fun evaluation inEvaluation => ?_
    refine .bind (faultsAre_section? h _) fun output inOutput => ?_
    refine .bind (faultsAre_setting? (part inLogging) faultsAre_severity?) fun severity _ => ?_
    refine .bind (faultsAre_setting? (part inEvaluation) fun written => ?_) fun schedule _ => ?_
    · exact (Schedule.faultsAre_ofValue? written).mapError fun _ told => told
    refine .bind (faultsAre_setting? (part inOutput) faultsAre_layout?) fun layout _ => ?_
    exact faultsAre_ok _
  · exact faultsAre_quoting h fun _ => trivial

/-! ## Acceptance -/

theorem rising_of_holds {v : Value} {severity : Log.Severity} {days : List Date}
    {layout : Json.Layout} (h : v.Holds severity days layout) : days.Pairwise (· ≤ ·) := by
  obtain ⟨-, -, -, -, asOf, -⟩ := h
  rcases asOf with _ | ⟨-, -, -, -, rising⟩
  · exact List.pairwise_singleton _ _
  · exact rising

/-- **Which values are configurations.** A value is accepted exactly when it is a mapping that holds
    a severity, days and a layout, and then it stands for the configuration with these. Every other
    value is refused. The fault says what is wrong, at least when all whole numbers in the value can
    be written. -/
theorem ofValue?_accepts (v : Value) :
    ((∃ c, ofValue? v = .ok c) ↔ ∃ severity days layout, v.Holds severity days layout) ∧
    (∀ c, ofValue? v = .ok c ↔ v.Holds c.severity c.schedule.days c.layout) ∧
    ((¬ ∃ severity days layout, v.Holds severity days layout) →
      ∃ fault, ofValue? v = .error fault ∧ (v.IsWritten → fault.IsTold)) := by
  have accepted : (∃ c, ofValue? v = .ok c) ↔
      ∃ severity days layout, v.Holds severity days layout := by
    constructor
    · rintro ⟨c, h⟩
      exact ⟨_, _, _, ofValue?_eq_ok_iff.mp h⟩
    · rintro ⟨severity, days, layout, h⟩
      exact ⟨⟨severity, ⟨days, rising_of_holds h⟩, layout⟩, ofValue?_eq_ok_iff.mpr h⟩
  refine ⟨accepted, fun c => ofValue?_eq_ok_iff, fun refused => ?_⟩
  cases read : ofValue? v with
  | ok c => exact absurd (accepted.mp ⟨c, read⟩) refused
  | error fault => exact ⟨fault, rfl, fun written => faultsAre_ofValue? written fault read⟩

/-- A mapping that sets an indentation alone. -/
def indentMapping (v : Value) : Value := .dict [(.text "output", .dict [(.text "json_indent", v)])]

theorem setsLayout_of_holds {v : Value} {severity : Log.Severity} {days : List Date}
    {layout : Json.Layout} (h : (indentMapping v).Holds severity days layout) :
    v.SetsLayout layout := by
  obtain ⟨-, -, inOutput, -, -, indent⟩ := h
  rcases inOutput with missing | valueless | found
  · cases missing
  · cases valueless
  · cases found
    rcases indent with unset | ⟨found, means⟩
    · cases unset
    · cases found
      exact means

/-- A mapping that sets days in three forms and no level, one that sets a truth value as
    indentation, and one that sets a whole number that is negative and too long to be written. -/
theorem ofValue?_accepts_of_three_mappings :
    let first : Date := ⟨2020, 12, 24, by decide⟩
    let last : Date := ⟨2020, 12, 26, by decide⟩
    ofValue? (.dict [(.text "output", .dict [(.text "json_indent", .none)]),
      (.text "logging", .none), (.text "evaluation", .dict [(.text "as_of_dates",
        .list [.dateTime ⟨first, 9, 30, 0, 0, none⟩, .date first, .text "20201226"])])]) =
      .ok ⟨.info, ⟨[first, first, last], by decide⟩, none⟩ ∧
    (∃ fault, ofValue? (indentMapping (.bool true)) = .error fault ∧ fault.IsTold) ∧
    ∃ fault, ofValue? (indentMapping (.int (-digitLimit))) = .error fault := by
  intro first last
  have truth : ¬ ∃ severity days layout,
      (indentMapping (.bool true)).Holds severity days layout := by
    rintro ⟨severity, days, layout, h⟩
    cases setsLayout_of_holds h
  have negative : ¬ ∃ severity days layout,
      (indentMapping (.int (-digitLimit))).Holds severity days layout := by
    rintro ⟨severity, days, layout, h⟩
    have positive : 0 < digitLimit := lt_digitLimit (by decide)
    generalize same : Value.int (-digitLimit) = v at h
    rcases setsLayout_of_holds h with _ | n
    · cases same
    · have := Value.int.inj same
      omega
  refine ⟨((ofValue?_accepts _).2.1 _).mpr ?_, ?_, ?_⟩
  · refine .mapping (.valueless rfl) (.mapping rfl) (.mapping rfl) (.unset rfl)
      (.set rfl ⟨_, rfl, ?_, by decide⟩) (.set rfl .oneLine)
    exact .cons (.dateTime rfl) (.cons .date (.cons (.text rfl) .nil))
  · obtain ⟨fault, refused, told⟩ := (ofValue?_accepts _).2.2 truth
    refine ⟨fault, refused, told fun i mem => ?_⟩
    simp [indentMapping, Value.wholeNumbers, Value.wholeNumbersOfEntries] at mem
  · obtain ⟨fault, refused, -⟩ := (ofValue?_accepts _).2.2 negative
    exact ⟨fault, refused⟩

end Config

end TermSheet

import TermSheet.Log.Context
import TermSheet.Proofs.Log.Fields

/-!
# Bindings put the context back

A context is set, cleared, and bound, and bindings are left in any order and any number of times.
What a binding puts back was fixed when it was entered, and no operation but leaving the binding
itself touches it. So the first leave of a binding that names a portfolio puts back the context in
front of the binding, whatever happened in between, and every later leave does nothing. Where
settings and clearings stand inside bindings only, the end is as the start.

Results:
* `Scope.getElem?_run`: a binding that is not left keeps what it puts back.
* `Scope.getElem?_run_of_mem`: a binding that was left puts nothing back.
* `Program.context_run`: a program whose changes are all bound ends with the context of its start.
* `leaving_restores_context`: all of this for histories from any context.
-/

namespace TermSheet.Log

namespace Settings

/-- Settings that give each name once and name a portfolio. -/
def Binds (settings : Settings) (portfolio : String) : Prop :=
  (settings.map (·.1)).Nodup ∧ (portfolioField, some portfolio) ∈ settings

/-- The settings under names that are fields of a context. -/
def known (settings : Settings) : Settings := settings.filter (·.1 == portfolioField)

variable {settings : Settings} {portfolio : String}

theorem portfolio?_of_binds (h : settings.Binds portfolio) :
    settings.portfolio? = some portfolio := by
  rw [portfolio?, lookup_eq_some_of_mem h.1 h.2]
  rfl

theorem portfolio?_eq_none (h : ∀ portfolio, (portfolioField, some portfolio) ∉ settings) :
    settings.portfolio? = none := by
  rw [portfolio?]
  cases found : settings.lookup portfolioField with
  | none => rfl
  | some value =>
    cases value with
    | none => rfl
    | some portfolio => exact absurd (mem_of_lookup_eq_some found) (h portfolio)

theorem portfolio?_known (settings : Settings) :
    settings.known.portfolio? = settings.portfolio? := by
  unfold portfolio? known
  induction settings with
  | nil => rfl
  | cons setting settings ih =>
    obtain ⟨name, value⟩ := setting
    rw [List.filter_cons, List.lookup_cons]
    by_cases same : name = portfolioField
    · rw [same, beq_self_eq_true, if_pos rfl, List.lookup_cons_self]
    · rw [beq_eq_false_iff_ne.mpr same, beq_eq_false_iff_ne.mpr (Ne.symm same),
        if_neg Bool.false_ne_true]
      exact ih

end Settings

namespace Context

theorem enter_of_some {context : Context} {settings : Settings} {portfolio : String}
    (h : settings.portfolio? = some portfolio) :
    context.enter settings = (some portfolio, some context) := by
  unfold enter
  rw [h]

theorem enter_of_none {context : Context} {settings : Settings}
    (h : settings.portfolio? = none) : context.enter settings = (context, none) := by
  unfold enter
  rw [h]

theorem enter_known (context : Context) (settings : Settings) :
    context.enter settings.known = context.enter settings := by
  unfold enter
  rw [settings.portfolio?_known]

end Context

/-! ## Histories -/

/-- An operation on the context. Bindings are numbered in the order in which they are entered. -/
inductive Operation
  | set (settings : Settings)
  | clear
  | enter (settings : Settings)
  | leave (number : Nat)
  deriving DecidableEq

/-- The operation without the names that are no fields of a context, where it takes any names. -/
def Operation.known : Operation → Operation
  | enter settings => enter settings.known
  | operation => operation

/-- The context, and what the bindings that were entered put back. -/
structure Scope where
  context : Context
  bindings : List Binding := []

namespace Scope

/-- The scope after an operation. A setting that is refused changes nothing, and neither does
    leaving a binding that was never entered. -/
def act (s : Scope) : Operation → Scope
  | .set settings => { s with context := (s.context.set? settings).toOption.getD s.context }
  | .clear => { s with context := none }
  | .enter settings =>
    let (context, binding) := s.context.enter settings
    ⟨context, s.bindings ++ [binding]⟩
  | .leave number =>
    match s.bindings[number]? with
    | none => s
    | some binding =>
      let (context, left) := s.context.leave binding
      ⟨context, s.bindings.set number left⟩

/-- The scope after operations. -/
def run (s : Scope) (operations : List Operation) : Scope := operations.foldl act s

variable {s : Scope} {number : Nat}

theorem run_cons (s : Scope) (operation : Operation) (operations : List Operation) :
    s.run (operation :: operations) = (s.act operation).run operations := rfl

theorem run_append (s : Scope) (first second : List Operation) :
    s.run (first ++ second) = (s.run first).run second := List.foldl_append

theorem run_concat (s : Scope) (operations : List Operation) (operation : Operation) :
    s.run (operations ++ [operation]) = (s.run operations).act operation := run_append ..

theorem act_enter (s : Scope) (settings : Settings) :
    s.act (.enter settings) =
      ⟨(s.context.enter settings).1, s.bindings ++ [(s.context.enter settings).2]⟩ := rfl

theorem act_leave {binding : Binding} (h : s.bindings[number]? = some binding) :
    s.act (.leave number) = ⟨binding.getD s.context, s.bindings.set number none⟩ := by
  simp only [act, h]
  rfl

/-- A setting with a name that is no field of a context is refused and changes nothing. -/
theorem act_set_of_unknown {settings : Settings}
    (h : ∃ setting ∈ settings, setting.1 ≠ portfolioField) : s.act (.set settings) = s := by
  obtain ⟨setting, mem, other⟩ := h
  have found : settings.unknown?.isSome = true := by
    rw [Settings.unknown?, List.find?_isSome]
    exact ⟨setting.1, List.mem_map_of_mem mem, bne_iff_ne.mpr other⟩
  obtain ⟨name, unknown⟩ := Option.isSome_iff_exists.mp found
  simp only [act, Context.set?, unknown]
  rfl

/-! ## What a binding puts back -/

theorem length_act_enter (s : Scope) (settings : Settings) :
    (s.act (.enter settings)).bindings.length = s.bindings.length + 1 := by
  rw [act_enter, List.length_append, List.length_singleton]

theorem length_act_leave (s : Scope) (number : Nat) :
    (s.act (.leave number)).bindings.length = s.bindings.length := by
  cases h : s.bindings[number]? with
  | none => simp only [act, h]
  | some binding => rw [act_leave h, List.length_set]

theorem length_le_act (s : Scope) (operation : Operation) :
    s.bindings.length ≤ (s.act operation).bindings.length := by
  cases operation with
  | set settings => exact Nat.le_refl _
  | clear => exact Nat.le_refl _
  | enter settings => exact Nat.le_trans (Nat.le_succ _) (Nat.le_of_eq (length_act_enter ..).symm)
  | leave number => exact Nat.le_of_eq (length_act_leave ..).symm

/-- Only leaving a binding changes what it puts back. -/
theorem getElem?_act (entered : number < s.bindings.length) {operation : Operation}
    (other : operation ≠ .leave number) :
    (s.act operation).bindings[number]? = s.bindings[number]? := by
  cases operation with
  | set settings => rfl
  | clear => rfl
  | enter settings => rw [act_enter, List.getElem?_append_left entered]
  | leave left =>
    cases h : s.bindings[left]? with
    | none => simp only [act, h]
    | some binding =>
      have apart : left ≠ number := fun same => other (same ▸ rfl)
      rw [act_leave h, List.getElem?_set_ne apart]

theorem getElem?_run (entered : number < s.bindings.length) {operations : List Operation}
    (notLeft : .leave number ∉ operations) :
    (s.run operations).bindings[number]? = s.bindings[number]? := by
  induction operations generalizing s with
  | nil => rfl
  | cons operation operations ih =>
    rw [List.mem_cons, not_or] at notLeft
    rw [run_cons, ih (Nat.lt_of_lt_of_le entered (s.length_le_act operation)) notLeft.2,
      getElem?_act entered (Ne.symm notLeft.1)]

/-- Leaving a binding that puts nothing back changes nothing at all. -/
theorem act_leave_of_none (nothing : s.bindings[number]? = some none) :
    s.act (.leave number) = s := by
  obtain ⟨entered, same⟩ := List.getElem?_eq_some_iff.mp nothing
  have kept : s.bindings.set number none = s.bindings := by rw [← same, List.set_getElem_self]
  rw [act_leave nothing, kept]
  rfl

/-- A binding that puts nothing back never does so again. -/
theorem getElem?_run_of_none (nothing : s.bindings[number]? = some none)
    (operations : List Operation) : (s.run operations).bindings[number]? = some none := by
  induction operations generalizing s with
  | nil => exact nothing
  | cons operation operations ih =>
    obtain ⟨entered, -⟩ := List.getElem?_eq_some_iff.mp nothing
    refine ih ?_
    by_cases same : operation = .leave number
    · rw [same, act_leave_of_none nothing, nothing]
    · rw [getElem?_act entered same, nothing]

/-- A binding that was left puts nothing back. -/
theorem getElem?_run_of_mem (entered : number < s.bindings.length) {operations : List Operation}
    (left : .leave number ∈ operations) :
    (s.run operations).bindings[number]? = some none := by
  induction operations generalizing s with
  | nil => cases left
  | cons operation operations ih =>
    have still := Nat.lt_of_lt_of_le entered (s.length_le_act operation)
    rcases List.mem_cons.mp left with same | later
    · refine getElem?_run_of_none ?_ operations
      rw [← same, act_leave (List.getElem?_eq_getElem entered), List.getElem?_set_self entered]
    · exact ih still later

/-! ## Leaving -/

theorem lt_length_act_enter (s : Scope) (settings : Settings) :
    s.bindings.length < (s.act (.enter settings)).bindings.length := by
  rw [length_act_enter]
  exact Nat.lt_succ_self _

/-- A binding that names a portfolio is entered with the context in front of it. -/
theorem getElem?_act_enter {settings : Settings} {portfolio : String}
    (h : settings.portfolio? = some portfolio) :
    (s.act (.enter settings)).bindings[s.bindings.length]? = some (some s.context) := by
  rw [act_enter, Context.enter_of_some h, List.getElem?_concat_length]

theorem getElem?_act_enter_of_none {settings : Settings} (h : settings.portfolio? = none) :
    (s.act (.enter settings)).bindings[s.bindings.length]? = some none := by
  rw [act_enter, Context.enter_of_none h, List.getElem?_concat_length]

/-- The first leave of a binding that names a portfolio puts the context in front of it back. -/
theorem context_run_leave {settings : Settings} {portfolio : String}
    (h : settings.portfolio? = some portfolio) {between : List Operation}
    (notLeft : .leave s.bindings.length ∉ between) :
    (((s.act (.enter settings)).run between).act (.leave s.bindings.length)).context =
      s.context := by
  have kept := getElem?_run (s.lt_length_act_enter settings) notLeft
  rw [getElem?_act_enter h] at kept
  rw [act_leave kept]
  rfl

/-- Leaving a binding that names no portfolio changes nothing. -/
theorem run_leave_of_none {settings : Settings} (h : settings.portfolio? = none)
    (between : List Operation) :
    ((s.act (.enter settings)).run between).act (.leave s.bindings.length) =
      (s.act (.enter settings)).run between :=
  act_leave_of_none (getElem?_run_of_none (getElem?_act_enter_of_none h) between)

theorem run_known (s : Scope) (operations : List Operation) :
    s.run (operations.map Operation.known) = s.run operations := by
  induction operations generalizing s with
  | nil => rfl
  | cons operation operations ih =>
    have same : s.act operation.known = s.act operation := by
      cases operation with
      | enter settings => rw [Operation.known, act_enter, act_enter, Context.enter_known]
      | _ => rfl
    rw [List.map_cons, run_cons, run_cons, same, ih]

end Scope

/-! ## Programs -/

/-- A program that enters and leaves bindings as brackets. One that is given up early is the program
    of the operations that it got to. -/
inductive Program
  | done
  | set (settings : Settings) (rest : Program)
  | clear (rest : Program)
  | within (settings : Settings) (body rest : Program)

namespace Program

/-- How many bindings a program enters. -/
def bindingCount : Program → Nat
  | done => 0
  | set _ rest | clear rest => rest.bindingCount
  | within _ body rest => body.bindingCount + 1 + rest.bindingCount

/-- The operations of a program behind a number of bindings that were entered before. -/
def operations (entered : Nat) : Program → List Operation
  | done => []
  | set settings rest => .set settings :: rest.operations entered
  | clear rest => .clear :: rest.operations entered
  | within settings body rest =>
    .enter settings :: (body.operations (entered + 1) ++
      .leave entered :: rest.operations (entered + (body.bindingCount + 1)))

/-- Every setting and clearing stands inside a binding that names a portfolio. -/
inductive IsBound : Program → Prop
  | done : IsBound done
  | bound {settings : Settings} {portfolio : String} (h : settings.Binds portfolio) (body : Program)
    {rest : Program} (hr : IsBound rest) : IsBound (within settings body rest)
  | within (settings : Settings) {body rest : Program} (hb : IsBound body) (hr : IsBound rest) :
    IsBound (within settings body rest)

/-- A program leaves none of the bindings that were entered before it. -/
theorem le_of_leave_mem {p : Program} {entered number : Nat}
    (h : .leave number ∈ p.operations entered) : entered ≤ number := by
  induction p generalizing entered with
  | done => cases h
  | set settings rest ih =>
    rcases List.mem_cons.mp h with same | later
    · cases same
    · exact ih later
  | clear rest ih =>
    rcases List.mem_cons.mp h with same | later
    · cases same
    · exact ih later
  | within settings body rest ihb ihr =>
    rcases List.mem_cons.mp h with same | inside
    · cases same
    · rcases List.mem_append.mp inside with inside | behind
      · exact Nat.le_of_succ_le (ihb inside)
      · rcases List.mem_cons.mp behind with same | later
        · cases same
          exact Nat.le_refl _
        · exact Nat.le_of_add_right_le (ihr later)

/-- A block adds its own binding to those of its body. -/
theorem length_run (p : Program) (s : Scope) :
    (s.run (p.operations s.bindings.length)).bindings.length =
      s.bindings.length + p.bindingCount := by
  induction p generalizing s with
  | done => rfl
  | set settings rest ih => exact ih (s.act (.set settings))
  | clear rest ih => exact ih (s.act .clear)
  | within settings body rest ihb ihr =>
    have inside := ihb (s.act (.enter settings))
    rw [s.length_act_enter] at inside
    have behind := ihr (((s.act (.enter settings)).run
      (body.operations (s.bindings.length + 1))).act (.leave s.bindings.length))
    rw [Scope.length_act_leave, inside, Nat.add_assoc, Nat.add_comm 1] at behind
    rw [operations, Scope.run_cons, Scope.run_append, Scope.run_cons, behind, bindingCount,
      Nat.add_assoc]

/-- The context behind a block is the one behind its rest, from where its binding was left. -/
theorem exists_run_within (settings : Settings) (body rest : Program) (s : Scope) :
    ∃ left : Scope,
      left = ((s.act (.enter settings)).run (body.operations (s.bindings.length + 1))).act
        (.leave s.bindings.length) ∧
      s.run ((within settings body rest).operations s.bindings.length) =
        left.run (rest.operations left.bindings.length) := by
  refine ⟨_, rfl, ?_⟩
  have inside := body.length_run (s.act (.enter settings))
  rw [s.length_act_enter] at inside
  rw [Scope.length_act_leave, inside, operations, Scope.run_cons, Scope.run_append, Scope.run_cons,
    Nat.add_assoc, Nat.add_comm 1]

/-- The induction is on the program. A binding that names a portfolio puts the context back whatever
    its body does, and any other binding leaves the context to its body. -/
theorem IsBound.context_run {p : Program} (h : p.IsBound) (s : Scope) :
    (s.run (p.operations s.bindings.length)).context = s.context := by
  induction h generalizing s with
  | done => rfl
  | @bound settings portfolio binds body rest _ ih =>
    obtain ⟨left, block, behind⟩ := exists_run_within settings body rest s
    have own : .leave s.bindings.length ∉ body.operations (s.bindings.length + 1) :=
      fun mem => Nat.not_succ_le_self _ (le_of_leave_mem mem)
    rw [behind, ih left, block]
    exact Scope.context_run_leave (Settings.portfolio?_of_binds binds) own
  | @within settings body rest _ _ ihb ihr =>
    obtain ⟨left, block, behind⟩ := exists_run_within settings body rest s
    rw [behind, ihr left, block]
    cases names : settings.portfolio? with
    | some portfolio =>
      exact Scope.context_run_leave names fun mem =>
        Nat.not_succ_le_self _ (le_of_leave_mem mem)
    | none =>
      have inside := ihb (s.act (.enter settings))
      rw [s.length_act_enter] at inside
      rw [Scope.run_leave_of_none names, inside, Scope.act_enter, Context.enter_of_none names]

end Program

/-! ## Histories from any context -/

/-- **Leaving restores.** Behind any history from any context, let a binding be entered. If it names
    a portfolio, the first leave puts the context in front of it back, whatever happened in between.
    A further leave changes nothing, and neither does any leave of a binding that names none. Names
    that are no fields of a context are ignored by bindings, and a setting that has one is refused.
    A program whose settings and clearings stand inside bindings that name a portfolio ends with the
    context that it started with. -/
theorem leaving_restores_context (start : Context) (before : List Operation) :
    let s : Scope := Scope.run ⟨start, []⟩ before
    let number := s.bindings.length
    (∀ settings between portfolio, settings.Binds portfolio → .leave number ∉ between →
      (s.run (.enter settings :: between ++ [.leave number])).context = s.context) ∧
    (∀ settings between, .leave number ∈ between →
      s.run (.enter settings :: between ++ [.leave number]) = s.run (.enter settings :: between)) ∧
    (∀ settings between, (∀ portfolio, (portfolioField, some portfolio) ∉ settings) →
      (s.act (.enter settings)).context = s.context ∧
      s.run (.enter settings :: between ++ [.leave number]) = s.run (.enter settings :: between)) ∧
    (∀ operations, s.run (operations.map Operation.known) = s.run operations) ∧
    (∀ settings : Settings, (∃ setting ∈ settings, setting.1 ≠ portfolioField) →
      s.act (.set settings) = s) ∧
    ∀ p : Program, p.IsBound → (s.run (p.operations number)).context = s.context := by
  intro s number
  refine ⟨fun settings between portfolio binds notLeft => ?_, fun settings between left => ?_,
    fun settings between none => ⟨?_, ?_⟩, s.run_known, fun _ => Scope.act_set_of_unknown,
    fun p bound => bound.context_run s⟩
  · rw [Scope.run_concat]
    exact Scope.context_run_leave (Settings.portfolio?_of_binds binds) notLeft
  · rw [Scope.run_concat]
    exact Scope.act_leave_of_none (Scope.getElem?_run_of_mem (s.lt_length_act_enter settings) left)
  · rw [Scope.act_enter, Context.enter_of_none (Settings.portfolio?_eq_none none)]
  · rw [Scope.run_concat]
    exact Scope.run_leave_of_none (Settings.portfolio?_eq_none none) between

/-- Two bindings left in the order in which they were entered, with changes in between. The first
    one puts the context of the start back, and the second one the portfolio of the first. -/
theorem leaving_restores_context_of_crossed_bindings :
    let outer : Operation := .enter [("portfolio_id", some "outer")]
    let inner : Operation := .enter [("desk", some "rates"), ("portfolio_id", some "inner")]
    Settings.Binds [("portfolio_id", some "outer")] "outer" ∧
      Settings.Binds [("desk", some "rates"), ("portfolio_id", some "inner")] "inner" ∧
      (Scope.run ⟨some "start", []⟩ [outer, inner, .clear, .leave 0]).context = some "start" ∧
      (Scope.run ⟨some "start", []⟩ [outer, inner, .clear, .leave 0, .leave 1]).context =
        some "outer" ∧
      Program.IsBound (.within [("portfolio_id", some "outer")]
        (.set [("portfolio_id", some "other")] (.clear .done)) .done) ∧
      (Scope.run ⟨some "start", []⟩ [outer, .set [("portfolio_id", some "other")], .clear,
        .leave 0]).context = some "start" := by
  intro outer inner
  have first : Settings.Binds [("portfolio_id", some "outer")] "outer" :=
    ⟨by decide, List.mem_cons_self⟩
  have second : Settings.Binds [("desk", some "rates"), ("portfolio_id", some "inner")] "inner" :=
    ⟨by decide, List.mem_cons_of_mem _ List.mem_cons_self⟩
  have bound : Program.IsBound (.within [("portfolio_id", some "outer")]
      (.set [("portfolio_id", some "other")] (.clear .done)) .done) := .bound first _ .done
  obtain ⟨leaves, -, -, -, -, programs⟩ := leaving_restores_context (some "start") []
  obtain ⟨leavesInner, -⟩ := leaving_restores_context (some "start") [outer]
  exact ⟨first, second, leaves _ [inner, .clear] _ first (by decide),
    leavesInner _ [.clear, .leave 0] _ second (by decide), bound, programs _ bound⟩

end TermSheet.Log

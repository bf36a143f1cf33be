import TermSheet.Demo.Options
import TermSheet.Proofs.Failure

/-!
# Reading what was written on a command line

A command line is written choice by choice. A choice takes two arguments, the name of an option and
a value behind it, or one, with an equals sign between the two. The arguments are told apart by
their forms alone, and no choice looks like a part of another one, so a command line is read part by
part: the days are kept in their order, and of several files or levels the last one counts.

Results:
* `Argument.ofText_name`, `Argument.ofText_joined`, `Argument.ofText_of_head`: the forms of the
  arguments of a choice.
* `Options.set_of_isValue`: one choice.
* `Options.parse_flatten`: a whole command line.
-/

namespace TermSheet.Demo

/-! ## Choices -/

/-- An option with what it sets. -/
inductive Choice
  | config (path : String)
  | asOf (day : Date)
  | logLevel (severity : Log.Severity)

namespace Choice

/-- The option of a choice. -/
def flag : Choice → Flag
  | config _ => .config
  | asOf _ => .asOf
  | logLevel _ => .logLevel

/-- A text is a value of the option that makes the choice. A path and a day have several such
    texts. -/
def IsValue : Choice → String → Prop
  | config path, value => pathText value = path
  | asOf day, value => Date.ofText? value = .ok day
  | logLevel severity, value => value = severity.word

/-- Arguments that make a choice: the name of the option and its value, or both in one argument.
    The text of a path that starts with a hyphen must stand in one argument with the name. -/
inductive IsWritten (c : Choice) : List String → Prop
  | apart {value : String} (h : c.IsValue value)
    (path : ∀ path, c = config path → value.toList.head? ≠ some '-') :
    IsWritten c [c.flag.name, value]
  | joined {value : String} (h : c.IsValue value) : IsWritten c [c.flag.name ++ "=" ++ value]

/-- The path that a choice sets. -/
def path? : Choice → Option String
  | config path => some path
  | _ => none

/-- The day that a choice adds. -/
def day? : Choice → Option Date
  | asOf day => some day
  | _ => none

/-- The severity that a choice sets. -/
def severity? : Choice → Option Log.Severity
  | logLevel severity => some severity
  | _ => none

end Choice

/-- What choices set together: all the days, and of the paths and the severities the last one. -/
def Options.ofChoices (choices : List Choice) : Options where
  config := (choices.filterMap Choice.path?).getLast?
  asOf := choices.filterMap Choice.day?
  severity := (choices.filterMap Choice.severity?).getLast?

/-! ## Arguments -/

theorem Flag.ofName?_name (flag : Flag) : ofName? flag.name = some flag := by
  cases flag <;> decide

namespace Argument

/-- What does not start with a hyphen is a value. -/
theorem ofText_of_head {text : String} (h : text.toList.head? ≠ some '-') :
    ofText text = .ok (.value text) := by
  unfold ofText
  dsimp only
  split <;> simp_all

/-- An option by its name, alone or with an equals sign behind it. -/
theorem ofText_of_splitAtEquals {c : Choice} {text : String} {behind : List Char}
    {explicit : Option String} (named : text.toList = c.flag.name.toList ++ behind)
    (split : splitAtEquals text.toList = (c.flag.name.toList, explicit)) :
    ofText text = .ok (.option c.flag explicit) := by
  have long : ∃ d rest, text.toList = '-' :: '-' :: d :: rest := by
    rw [named]
    cases c <;> simp [Choice.flag, Flag.name]
  obtain ⟨d, rest, long⟩ := long
  rw [long] at split
  simp only [ofText, long, split, String.ofList_toList, Flag.ofName?_name]
  rfl

theorem ofText_name (c : Choice) : ofText c.flag.name = .ok (.option c.flag none) := by
  refine ofText_of_splitAtEquals (List.append_nil _).symm ?_
  cases c <;> simp [Choice.flag, Flag.name, splitAtEquals]

/-- The first equals sign is the one behind the name. -/
theorem ofText_joined (c : Choice) (value : String) :
    ofText (c.flag.name ++ "=" ++ value) = .ok (.option c.flag (some value)) := by
  have named : (c.flag.name ++ "=" ++ value).toList =
      c.flag.name.toList ++ '=' :: value.toList := by
    rw [String.toList_append, String.toList_append, List.append_assoc]
    rfl
  refine ofText_of_splitAtEquals named ?_
  rw [named]
  cases c <;> simp [Choice.flag, Flag.name, splitAtEquals]

end Argument

/-! ## Values -/

/-- A text that names a day starts with a digit. -/
theorem head?_ne_hyphen_of_ofText? {text : String} {day : Date} (h : Date.ofText? text = .ok day) :
    text.toList.head? ≠ some '-' := by
  unfold Date.ofText? at h
  split at h
  · obtain ⟨⟨year, rest⟩, digits, -⟩ := bind_eq_ok_iff.mp h
    unfold Date.takeNumber at digits
    dsimp only at digits
    split at digits
    next number =>
      intro hyphen
      obtain ⟨cs, front⟩ := List.head?_eq_some_iff.mp hyphen
      have all := number.2
      rw [front] at all
      simp at all
    next => cases digits
  · cases h

/-- The value of an option looks like no option, unless it is a path that does. -/
theorem Choice.IsValue.ofText {c : Choice} {value : String} (h : c.IsValue value)
    (path : ∀ path, c = config path → value.toList.head? ≠ some '-') :
    Argument.ofText value = .ok (.value value) := by
  apply Argument.ofText_of_head
  cases c with
  | config own => exact path own rfl
  | asOf day => exact head?_ne_hyphen_of_ofText? h
  | logLevel severity =>
    rw [show value = severity.word from h]
    cases severity <;> decide

/-! ## Options -/

namespace Options

/-- The options with one more choice made. -/
def choose (o : Options) : Choice → Options
  | .config path => { o with config := some path }
  | .asOf day => { o with asOf := o.asOf ++ [day] }
  | .logLevel severity => { o with severity := some severity }

theorem set_of_isValue {c : Choice} {value : String} (h : c.IsValue value) (o : Options) :
    o.set c.flag value = .ok (o.choose c) := by
  cases c with
  | config path =>
    have same : pathText value = path := h
    simp only [set, Choice.flag, same]
    rfl
  | asOf day =>
    have read : Date.ofText? value = .ok day := h
    simp only [set, Choice.flag, read]
    rfl
  | logLevel severity =>
    rw [show value = severity.word from h]
    simp only [set, Choice.flag, Log.Severity.ofWord?_word]
    rfl

/-- An option and the value behind it. -/
theorem handle_apart (c : Choice) {value : String} (h : c.IsValue value) (o : Options)
    (strangers : List String) (name : String) (rest : List (String × Argument)) :
    handle o strangers ((name, .option c.flag none) :: (value, .value value) :: rest) =
      handle (o.choose c) strangers rest := by
  have made := set_of_isValue h o
  cases c <;> simp only [handle, Choice.flag] at made ⊢ <;> rw [made, ok_bind]

/-- An option with its value in one argument. -/
theorem handle_joined (c : Choice) {value : String} (h : c.IsValue value) (o : Options)
    (strangers : List String) (name : String) (rest : List (String × Argument)) :
    handle o strangers ((name, .option c.flag (some value)) :: rest) =
      handle (o.choose c) strangers rest := by
  have made := set_of_isValue h o
  cases c <;> simp only [handle, Choice.flag] at made ⊢ <;> rw [made, ok_bind]

theorem foldl_choose (o : Options) (choices : List Choice) :
    choices.foldl choose o =
      { config := (choices.filterMap Choice.path?).getLast?.or o.config
        asOf := o.asOf ++ choices.filterMap Choice.day?
        severity := (choices.filterMap Choice.severity?).getLast?.or o.severity } := by
  induction choices generalizing o with
  | nil => simp
  | cons c choices ih =>
    rw [List.foldl_cons, ih]
    cases c <;>
      simp [choose, Choice.path?, Choice.day?, Choice.severity?, List.getLast?_cons] <;> rfl

theorem foldl_choose_nil (choices : List Choice) :
    choices.foldl choose {} = ofChoices choices := by
  rw [foldl_choose, ofChoices]
  simp

end Options

/-! ## Command lines -/

theorem Argument.ofTexts_cons {text : String} {argument : Argument}
    (h : ofText text = .ok argument) (other : argument ≠ separator) (texts : List String) :
    ofTexts (text :: texts) = (do return (text, argument) :: (← ofTexts texts)) := by
  rw [ofTexts, h, ok_bind, if_neg other]

/-- The arguments are told apart part by part, and then each part makes its choice. -/
theorem Options.exists_ofTexts_flatten {choices : List Choice} {parts : List (List String)}
    (written : List.Forall₂ Choice.IsWritten choices parts) :
    ∃ arguments, Argument.ofTexts parts.flatten = .ok arguments ∧
      ∀ o, handle o [] arguments = .ok (.run (choices.foldl choose o)) := by
  induction written with
  | nil => exact ⟨[], rfl, fun _ => rfl⟩
  | @cons c part choices parts first _ ih =>
    obtain ⟨arguments, told, handled⟩ := ih
    cases first with
    | @apart value h path =>
      refine ⟨(c.flag.name, .option c.flag none) :: (value, .value value) :: arguments, ?_, ?_⟩
      · rw [List.flatten_cons, List.cons_append, List.cons_append, List.nil_append,
          Argument.ofTexts_cons (Argument.ofText_name c) nofun,
          Argument.ofTexts_cons (h.ofText path) nofun, told]
        rfl
      · intro o
        rw [handle_apart c h, handled, List.foldl_cons]
    | @joined value h =>
      refine ⟨(c.flag.name ++ "=" ++ value, .option c.flag (some value)) :: arguments, ?_, ?_⟩
      · rw [List.flatten_cons, List.singleton_append,
          Argument.ofTexts_cons (Argument.ofText_joined c value) nofun, told]
        rfl
      · intro o
        rw [handle_joined c h, handled, List.foldl_cons]

/-- A command line sets what its choices set together. -/
theorem Options.parse_flatten {choices : List Choice} {parts : List (List String)}
    (written : List.Forall₂ Choice.IsWritten choices parts) :
    parse parts.flatten = .ok (.run (ofChoices choices)) := by
  obtain ⟨arguments, told, handled⟩ := exists_ofTexts_flatten written
  rw [parse, told, ok_bind, handled, foldl_choose_nil]

end TermSheet.Demo

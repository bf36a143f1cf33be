/-!
# The context of log records

A context is what is said of every record while it is bound: the identity of the portfolio that is
being worked on. Binding it remembers what was bound before, and leaving the binding puts that
back, once. Names that are not part of the context are ignored by a binding and refused by a
setting.
-/

namespace TermSheet.Log

/-- The identity of the portfolio in work, if one is bound (`LogContext`). -/
abbrev Context := Option String

/-- Named settings of a context, each with or without a value. -/
abbrev Settings := List (String × Option String)

/-- The name of the one field of a context. -/
def portfolioField : String := "portfolio_id"

namespace Settings

/-- The portfolio that settings name. -/
def portfolio? (settings : Settings) : Option String := (settings.lookup portfolioField).join

/-- The first name that is no field of a context. -/
def unknown? (settings : Settings) : Option String :=
  (settings.map (·.1)).find? (· != portfolioField)

end Settings

/-- What a binding puts back when it is left (`_LogContextManager`): nothing once it was left, or
    when it bound nothing. -/
abbrev Binding := Option Context

namespace Context

/-- The context with the portfolio of the settings, where they have one; otherwise the name that is
    no field (`LogContext.set`). -/
def set? (context : Context) (settings : Settings) : Except String Context :=
  match settings.unknown? with
  | some name => .error name
  | none => .ok (settings.portfolio?.or context)

/-- The context inside a new binding, and the binding (`_LogContextManager.__enter__`). -/
def enter (context : Context) (settings : Settings) : Context × Binding :=
  match settings.portfolio? with
  | some portfolio => (some portfolio, some context)
  | none => (context, none)

/-- The context after a binding is left, and what is left of the binding
    (`_LogContextManager.__exit__`). -/
def leave (context : Context) (binding : Binding) : Context × Binding :=
  (binding.getD context, none)

end Context

end TermSheet.Log

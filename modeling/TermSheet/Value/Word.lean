import TermSheet.Value.Equality
import TermSheet.Value.Text

/-!
# Currencies and directions from values

A currency is looked up by its code and a direction by its word. A currency or a direction stands
for its own text.
-/

namespace TermSheet

/-- A value is not in a list of words. -/
inductive WordFault
  | unlisted (shown listName : String)
  | unshowable (fault : DisplayFault)

/-- The wording of a fault. -/
def WordFault.message : WordFault → String
  | unlisted shown listName => shown ++ " is not a valid " ++ listName
  | unshowable fault => fault.message

/-- What a value stands for in a list of words. -/
def Value.listed? {α : Type} (listName : String) (ofText? : String → Option α) (v : Value) :
    Except WordFault α :=
  match v.toText?.bind ofText?, v.exact with
  | some found, _ => .ok found
  | Option.none, .ok shown => .error (.unlisted shown listName)
  | Option.none, .error fault => .error (.unshowable fault)

/-- The currency that a value stands for. -/
def Currency.ofValue? (v : Value) : Except WordFault Currency := v.listed? "Currency" ofCode?

/-- The direction that a value stands for. -/
def Direction.ofValue? (v : Value) : Except WordFault Direction := v.listed? "Direction" ofWord?

end TermSheet

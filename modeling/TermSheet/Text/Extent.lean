/-!
# How long texts can be

Lengths that no machine can build are refused before anything is built.
-/

namespace TermSheet.Text

/-- The least number of characters for which there is no room in memory. -/
def noRoom : Nat := Nat.pow 2 40

end TermSheet.Text

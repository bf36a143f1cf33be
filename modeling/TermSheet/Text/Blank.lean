import TermSheet.Text.Ranges

/-!
# Blank characters

Unicode has more blanks than ASCII: the control characters that separate fields and lines, the
no-break and ideographic spaces, and the line and paragraph separators all count.

Results:
- `not_isBlank_of_graphic`: among ASCII, no visible character is a blank.
-/

namespace TermSheet.Text

/-- The code points that count as blank. -/
def blankRanges : List (Nat × Nat) :=
  [
    (0x9, 0xd), (0x1c, 0x20), (0x85, 0x85), (0xa0, 0xa0), (0x1680, 0x1680),
    (0x2000, 0x200a), (0x2028, 0x2029), (0x202f, 0x202f), (0x205f, 0x205f), (0x3000, 0x3000)]

/-- A blank separates words: a space of any width, a tab, or a control character that ends a
    line or a field. -/
def isBlank (c : Char) : Bool := inRanges blankRanges c.toNat

/-- The text without the blanks at its two ends. -/
def trimBlanks (cs : List Char) : List Char :=
  ((cs.dropWhile isBlank).reverse.dropWhile isBlank).reverse

/-- No visible ASCII character is blank. -/
theorem not_isBlank_of_graphic {c : Char} (low : 0x21 ≤ c.toNat) (high : c.toNat ≤ 0x7e) :
    isBlank c = false := by
  simp only [isBlank, inRanges, blankRanges, List.any_cons, List.any_nil, Bool.or_eq_false_iff,
    Bool.and_eq_false_iff, decide_eq_false_iff_not, and_true]
  omega

end TermSheet.Text

import TermSheet.Text.Printable

/-!
# Quoted texts

A text is quoted with single quotes, or with double quotes when it holds a single quote and no
double one. Inside, the quote in use, the backslash and every character that cannot be shown are
escaped: tab, line feed and carriage return by a letter, the others by two, four or eight
hexadecimal digits.
-/

namespace TermSheet.Text

/-- Lower-case hexadecimal digits, filled up with zeros to a width. -/
def hexDigits (width code : Nat) : List Char :=
  let digits := Nat.toDigits 16 code
  List.replicate (width - digits.length) '0' ++ digits

/-- The quote for a text: the single one, unless only that one occurs in the text. -/
def quoteFor (cs : List Char) : Char :=
  if cs.contains '\'' && !cs.contains '"' then '"' else '\''

/-- One character between quotes. -/
def escapeChar (quote c : Char) : List Char :=
  if c = quote ∨ c = '\\' then ['\\', c]
  else if c = '\t' then ['\\', 't']
  else if c = '\n' then ['\\', 'n']
  else if c = '\r' then ['\\', 'r']
  else if isPrintable c then [c]
  else if c.toNat < 0x100 then '\\' :: 'x' :: hexDigits 2 c.toNat
  else if c.toNat < 0x10000 then '\\' :: 'u' :: hexDigits 4 c.toNat
  else '\\' :: 'U' :: hexDigits 8 c.toNat

/-- A text between quotes, as characters. -/
def quotedChars (cs : List Char) : List Char :=
  let quote := quoteFor cs
  quote :: cs.flatMap (escapeChar quote) ++ [quote]

/-- A text between quotes. -/
def quoted (s : String) : String := String.ofList (quotedChars s.toList)

/-- One byte between quotes; bytes above ASCII are always escaped. -/
def escapeByte (quote : Char) (octet : UInt8) : List Char :=
  if octet < 0x7f then escapeChar quote (Char.ofNat octet.toNat)
  else '\\' :: 'x' :: hexDigits 2 octet.toNat

/-- Bytes between quotes, with a mark in front. -/
def quotedBytes (octets : List UInt8) : String :=
  let quote := quoteFor (octets.map fun octet => Char.ofNat octet.toNat)
  String.ofList ('b' :: quote :: octets.flatMap (escapeByte quote) ++ [quote])

end TermSheet.Text

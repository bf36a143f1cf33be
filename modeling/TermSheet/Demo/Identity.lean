import TermSheet.Text.Quoted

/-!
# Random identities

An identity is written as sixteen bytes in hexadecimal digits, in groups of four, two, two, two and
six bytes. Two of the bytes say that the others are random.
-/

namespace TermSheet.Demo.Identity

/-- The two digits of a byte. -/
def digits (byte : Nat) : List Char := Text.hexDigits 2 (byte % 256)

/-- The bytes with the marks of a random identity put in. -/
def marked (bytes : List Nat) : List Nat :=
  (bytes.modify 6 fun byte => byte % 16 + 0x40).modify 8 fun byte => byte % 64 + 0x80

/-- The identity of sixteen random bytes (`uuid4`). -/
def ofBytes (bytes : List Nat) : String :=
  let group (start count : Nat) : String :=
    String.ofList (((marked bytes).drop start |>.take count).flatMap digits)
  "-".intercalate [group 0 4, group 4 2, group 6 2, group 8 2, group 10 6]

end TermSheet.Demo.Identity

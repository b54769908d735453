/-!
# New names

Names that are to be new have a part that is numbered. The numbers are written with letters and
digits, the last digit first, so that names that follow each other differ in front.
-/

namespace Assay.Machine

/-- The characters of the random parts of names. -/
def nameChars : List Char :=
  "abcdefghijklmnopqrstuvwxyz0123456789".toList

/-- So many characters that number a name. -/
def numbered : (length : Nat) → Nat → List Char
  | 0, _ => []
  | length + 1, n =>
    (nameChars[n % nameChars.length]?).getD 'a' :: numbered length (n / nameChars.length)

end Assay.Machine

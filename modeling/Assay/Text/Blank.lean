/-!
# White space and trimming

White space is the Unicode property `White_Space`: twenty-five characters, among them the
no-break space and the line and paragraph separators, but neither the zero-width space nor the
byte order mark. Trimming removes it from both ends of a text and leaves the inside alone.
-/

namespace Assay.Text

/-- The characters with the Unicode property `White_Space`. -/
def isBlank (c : Char) : Bool :=
  ('\t' ≤ c && c ≤ '\r') || c == ' ' || c == '\x85' || c == '\xa0' || c == '\u1680' ||
    ('\u2000' ≤ c && c ≤ '\u200a') || c == '\u2028' || c == '\u2029' || c == '\u202f' ||
    c == '\u205f' || c == '\u3000'

/-- The text without the blanks at its front. -/
def trimFront (s : List Char) : List Char :=
  s.dropWhile isBlank

/-- The text without the blanks at its back. -/
def trimBack (s : List Char) : List Char :=
  (s.reverse.dropWhile isBlank).reverse

/-- The text without the blanks at either end. -/
def trim (s : List Char) : List Char :=
  trimBack (trimFront s)

/-- `trim` on strings. -/
def strip (s : String) : String :=
  String.ofList (trim s.toList)

/-- The text behind a given beginning, if it begins so. -/
def after? : List Char → List Char → Option (List Char)
  | [], s => some s
  | _ :: _, [] => none
  | p :: ps, c :: s => if p = c then after? ps s else none

/-- Whether one text begins with another. -/
def startsWith (start s : List Char) : Bool :=
  (after? start s).isSome

/-- Whether `needle` occurs somewhere in the text. -/
def occursIn (needle : List Char) : List Char → Bool
  | [] => needle.isEmpty
  | c :: s => startsWith needle (c :: s) || occursIn needle s

/-- Whether the second text occurs in the first. -/
def contains (s needle : String) : Bool :=
  occursIn needle.toList s.toList

/-- The pieces of a text between the separators `sep`; there is one more piece than separators. -/
def splitAt (sep : Char) : List Char → List (List Char)
  | [] => [[]]
  | c :: s =>
    if c = sep then [] :: splitAt sep s
    else match splitAt sep s with
      | [] => [[c]]
      | piece :: rest => (c :: piece) :: rest

/-- A text has at least one piece. -/
theorem splitAt_ne_nil (sep : Char) (s : List Char) : splitAt sep s ≠ [] := by
  cases s with
  | nil => simp [splitAt]
  | cons c s =>
    rw [splitAt]
    split
    · simp
    · split <;> simp

/-- The texts in order, with `sep` between neighbours. -/
def joinWith (sep : List Char) : List (List Char) → List Char
  | [] => []
  | [s] => s
  | s :: rest => s ++ sep ++ joinWith sep rest

/-- `joinWith` on strings. -/
def join (sep : String) (parts : List String) : String :=
  String.intercalate sep parts

/-- The lines of a text: the pieces between line feeds, without a carriage return before the line
feed, and without an empty last piece. -/
def lines (s : List Char) : List (List Char) :=
  let pieces := splitAt '\n' s
  let closed := pieces.dropLast.map fun line =>
    if line.getLast? = some '\r' then line.dropLast else line
  match pieces.getLast? with
  | some [] | none => closed
  | some last => closed ++ [last]

end Assay.Text

/-!
# Bytes and texts

Files and streams hold bytes; texts hold characters. Writing a text gives its UTF-8 bytes. Reading
bytes as text either insists on well-formed UTF-8 (`decode?`) or puts U+FFFD in place of every
ill-formed part (`decodeLossy`): one replacement for each longest run of bytes that begins a
character and is then broken off, and one for each byte that begins none.
-/

namespace Assay.Text

/-- The bytes of a text in UTF-8. -/
def encode (s : String) : ByteArray :=
  s.toUTF8

/-- What may follow a leading byte: the range of the second byte and the number of bytes behind
the first. -/
structure Lead where
  low : UInt8
  high : UInt8
  more : Nat
  bits : Nat

/-- The multi-byte characters that a leading byte can begin; none for a continuation byte and for
the bytes that no character holds. -/
def Lead.of? (b : UInt8) : Option Lead :=
  if 0xC2 ≤ b && b ≤ 0xDF then some ⟨0x80, 0xBF, 1, b.toNat % 32⟩
  else if b == 0xE0 then some ⟨0xA0, 0xBF, 2, 0⟩
  else if b == 0xED then some ⟨0x80, 0x9F, 2, 13⟩
  else if 0xE1 ≤ b && b ≤ 0xEF then some ⟨0x80, 0xBF, 2, b.toNat % 16⟩
  else if b == 0xF0 then some ⟨0x90, 0xBF, 3, 0⟩
  else if 0xF1 ≤ b && b ≤ 0xF3 then some ⟨0x80, 0xBF, 3, b.toNat % 8⟩
  else if b == 0xF4 then some ⟨0x80, 0x8F, 3, 4⟩
  else none

/-- Where the reader stands between bytes: at a character's beginning, or inside one whose bits so
far are `bits`, with `more` bytes to come and the next one between `low` and `high`. -/
inductive Reading where
  | fresh
  | inside (low high : UInt8) (more bits : Nat)

/-- One byte at a character's beginning: the characters it completes and the state behind it. -/
def Reading.start (b : UInt8) : List Char × Reading :=
  if b < 0x80 then ([Char.ofNat b.toNat], .fresh)
  else match Lead.of? b with
    | some l => ([], .inside l.low l.high l.more l.bits)
    | none => (['\ufffd'], .fresh)

/-- One byte anywhere. A byte that does not continue the character begun before it replaces that
one and starts afresh. -/
def Reading.step : Reading → UInt8 → List Char × Reading
  | .fresh, b => Reading.start b
  | .inside low high more bits, b =>
    if low ≤ b && b ≤ high then
      let bits := bits * 64 + b.toNat % 64
      if more ≤ 1 then ([Char.ofNat bits], .fresh)
      else ([], .inside 0x80 0xBF (more - 1) bits)
    else
      let (cs, next) := Reading.start b
      ('\ufffd' :: cs, next)

/-- What is left of a reader at the end of the bytes. -/
def Reading.finish : Reading → List Char
  | .fresh => []
  | .inside .. => ['\ufffd']

/-- The bytes as text, read from a state on, with the text so far in reverse. -/
def decodeFrom (state : Reading) (done : List Char) : List UInt8 → List Char
  | [] => (state.finish ++ done).reverse
  | b :: bs =>
    let (cs, next) := state.step b
    decodeFrom next (cs.reverse ++ done) bs

/-- The bytes as text, with U+FFFD for every ill-formed part. -/
def decodeLossy (bytes : ByteArray) : String :=
  match String.fromUTF8? bytes with
  | some s => s
  | none => String.ofList (decodeFrom .fresh [] bytes.toList)

/-- The bytes as text, if they are well-formed UTF-8. -/
def decode? (bytes : ByteArray) : Option String :=
  String.fromUTF8? bytes

/-- The place behind some characters at the beginning of a text, counted in bytes. -/
def placeBehind (front : List Char) : String.Pos.Raw :=
  (String.ofList front).rawEndPos

/-- The place behind characters that a text begins with is one between two of its characters. -/
theorem isValid_placeBehind {s : String} {front : List Char} (h : front <+: s.toList) :
    (placeBehind front).IsValid s := by
  obtain ⟨back, hback⟩ := h
  refine String.Pos.Raw.isValid_iff_exists_append.2
    ⟨String.ofList front, String.ofList back, ?_, rfl⟩
  rw [← String.ofList_append, hback, String.ofList_toList]

end Assay.Text

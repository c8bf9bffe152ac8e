/-
# Texts read piece by piece

Bytes are decoded as UTF-8 a piece at a time, so what stands in front of a piece
with bytes that are no text can be read. Every line end is a line feed.

Key definitions: `TextRun`, `Text.decodeFrom`, `Text.faultPlace`,
`TextRun.ofBytes`.
Key theorems: `TextRun.ofBytes_toUTF8`.
-/
import SchemaDiagram.Text.Lines

namespace SchemaDiagram

/-- The characters that can be read; if the text is not whole, bytes that are no
text come after them. -/
structure TextRun where
  chars : List Char
  isWhole : Bool
  deriving DecidableEq, Repr

namespace Text

/-- The number of bytes that are decoded at a time. -/
def pieceSize : Nat := 8192

/-- The characters from a place on that end before a limit, up to the first bytes
that are none, and the place after them; some characters are there already, the
last first. -/
def decodeFrom (content : ByteArray) (limit : Nat) : Nat → Nat → List Char → List Char × Nat
  | 0, i, done => (done.reverse, i)
  | fuel + 1, i, done =>
    match content.utf8DecodeChar? i with
    | none => (done.reverse, i)
    | some c =>
      if limit < i + c.utf8Size then (done.reverse, i)
      else decodeFrom content limit fuel (i + c.utf8Size) (c :: done)

/-- The characters that end before a limit, up to the first bytes that are none,
and the place after them. -/
def decodeUpTo (content : ByteArray) (limit : Nat) : List Char × Nat :=
  decodeFrom content limit content.size 0 []

/-- Some bytes complete these to a character. -/
def beginsCharacter (bytes : ByteArray) : Bool :=
  [1, 2, 3].any fun n => [0x80, 0xBF].any fun b =>
    let whole : ByteArray := ⟨bytes.data ++ Array.replicate n b⟩
    (whole.utf8DecodeChar? 0).any fun c => c.utf8Size = whole.size

/-- The place of the byte with which it shows that no character starts at a place. -/
def faultPlace (content : ByteArray) (i : Nat) : Nat :=
  let kept := [3, 2, 1].find? fun k =>
    i + k ≤ content.size && beginsCharacter (content.extract i (i + k))
  i + kept.getD 0

/-- The text without a carriage return at its end, where a line feed could follow. -/
def withoutOpenReturn (s : List Char) : List Char :=
  if s.getLast? = some '\r' then s.dropLast else s

end Text

/-- The text of bytes, as far as they are decoded before a fault. -/
def TextRun.ofBytes (content : ByteArray) : TextRun :=
  match String.fromUTF8? content with
  | some s => ⟨Text.unifyLineEnds s.toList, true⟩
  | none =>
    let place := Text.faultPlace content (Text.decodeUpTo content content.size).2
    let limit := if place = content.size then place else place / Text.pieceSize * Text.pieceSize
    ⟨Text.unifyLineEnds (Text.withoutOpenReturn (Text.decodeUpTo content limit).1), false⟩

/-- The bytes of a text are read as a whole. -/
theorem TextRun.ofBytes_toUTF8 (s : String) :
    ofBytes s.toUTF8 = ⟨Text.unifyLineEnds s.toList, true⟩ := by
  have hread : String.fromUTF8? s.toUTF8 = some s := dif_pos s.isValidUTF8
  rw [ofBytes, hread]

end SchemaDiagram

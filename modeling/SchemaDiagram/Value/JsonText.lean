/-
# Writing JSON

The JSON text of a value, on one line. Characters outside ASCII are written as
escaped code units. Numbers that are not finite have the names that the reader
knows.

Key definitions: `Json.quoted`, `Json.render`.
-/
import SchemaDiagram.Decimal.Format
import SchemaDiagram.Value.Basic

namespace SchemaDiagram
namespace Json

/-- A hexadecimal digit. -/
def hexDigit (n : Nat) : Char :=
  if n < 10 then Char.ofNat ('0'.toNat + n) else Char.ofNat ('a'.toNat + (n - 10))

/-- A code unit as an escape. -/
def escapedUnitText (n : Nat) : List Char :=
  ['\\', 'u', hexDigit (n / 4096 % 16), hexDigit (n / 256 % 16), hexDigit (n / 16 % 16),
    hexDigit (n % 16)]

/-- A character as it stands between quotes. -/
def quotedChar (c : Char) : List Char :=
  if c = '"' then ['\\', '"']
  else if c = '\\' then ['\\', '\\']
  else if 0x20 ≤ c.toNat && c.toNat < 0x7F then [c]
  else if c.toNat < 0x10000 then escapedUnitText c.toNat
  else
    let n := c.toNat - 0x10000
    escapedUnitText (0xD800 + n / 0x400) ++ escapedUnitText (0xDC00 + n % 0x400)

/-- A code point as it stands between quotes. -/
def quotedPoint : CodePoint → List Char
  | .char c => quotedChar c
  | .half n => escapedUnitText n

/-- A text between quotes. -/
def quoted (t : LooseText) : String :=
  "\"" ++ String.ofList (t.points.flatMap quotedPoint) ++ "\""

/-- The JSON text of bytes, a number each. -/
def renderBytes (content : ByteArray) : String :=
  "[" ++ ", ".intercalate (content.toList.map toString) ++ "]"

mutual

/-- The JSON text of a value. A set is written as a list; what has no form of
its own is null. -/
def render : Value → String
  | .null => "null"
  | .bool b => if b then "true" else "false"
  | .int n => toString n
  | .real x => NumberFormat.strict.render x
  | .date s => quoted s
  | .text s => quoted s
  | .brokenText t => quoted t
  | .bytes content => renderBytes content
  | .list [] => "[]"
  | .list (v :: vs) => "[" ++ render v ++ renderItems vs ++ "]"
  | .set [] => "[]"
  | .set (v :: vs) => "[" ++ render v ++ renderItems vs ++ "]"
  | .enclosing => "null"
  | .mapping [] => "\x7b\x7d"
  | .mapping ((k, v) :: es) =>
    "\x7b" ++ renderKey k ++ ": " ++ render v ++ renderEntries es ++ "\x7d"

/-- The text of a key; only texts are keys. -/
def renderKey : Value → String
  | .text s => quoted s
  | .brokenText t => quoted t
  | _ => quoted ""

/-- The items of a list after the first. -/
def renderItems : List Value → String
  | [] => ""
  | v :: vs => ", " ++ render v ++ renderItems vs

/-- The entries of a mapping after the first. -/
def renderEntries : List (Value × Value) → String
  | [] => ""
  | (k, v) :: es => ", " ++ renderKey k ++ ": " ++ render v ++ renderEntries es

end

end Json
end SchemaDiagram

/-
# Quoted texts

A text is shown between single quotes, or between double quotes if it holds
single ones and no double ones. Controls, characters that have no look of their
own and halves of surrogate pairs are written as escapes.

Key definitions: `Text.quote`, `Text.quoted`.
-/
import SchemaDiagram.Text.Blank
import SchemaDiagram.Text.Loose
import SchemaDiagram.Text.Quoted.Table

namespace SchemaDiagram
namespace Text

/-- The quote that a text is put between. -/
def quote (t : LooseText) : Char :=
  if t.points.contains (.char '\'') && !t.points.contains (.char '"') then '"' else '\''

/-- The hexadecimal digits of a number, so many of them. -/
def hexDigits : Nat → Nat → List Char
  | 0, _ => []
  | count + 1, n => hexDigits count (n / 16) ++ [Nat.digitChar (n % 16)]

/-- A code point as an escape. -/
def escape (n : Nat) : List Char :=
  if n < 0x100 then '\\' :: 'x' :: hexDigits 2 n
  else if n < 0x10000 then '\\' :: 'u' :: hexDigits 4 n
  else '\\' :: 'U' :: hexDigits 8 n

/-- A character is shown as it is. -/
def isShown (c : Char) : Bool :=
  let n := c.toNat
  if n < 0x80 then 0x20 ≤ n && n < 0x7F else !inRanges hiddenRanges n

/-- A code point as it stands between two quotes. -/
def quotedPoint (q : Char) : CodePoint → List Char
  | .half n => escape n
  | .char c =>
    if c = q || c = '\\' then ['\\', c]
    else if c = '\t' then ['\\', 't']
    else if c = '\n' then ['\\', 'n']
    else if c = '\r' then ['\\', 'r']
    else if isShown c then [c]
    else escape c.toNat

/-- A text between quotes. -/
def quoted (t : LooseText) : List Char :=
  let q := quote t
  q :: t.points.flatMap (quotedPoint q) ++ [q]

end Text
end SchemaDiagram

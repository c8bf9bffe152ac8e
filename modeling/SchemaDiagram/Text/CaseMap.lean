/-
# Maps between the cases of letters

A case map sends every letter of a range, taken in steps, to the letter at a
fixed distance from it. Characters in no range stay as they are.

Key definitions: `CaseRange`, `CaseRange.image?`, `mapCase`.
-/

namespace SchemaDiagram
namespace Text

/-- The code points from `first` to `last` in steps of `stride`, and the
distance to their images. -/
structure CaseRange where
  first : Nat
  last : Nat
  stride : Nat
  shift : Int
  deriving DecidableEq, Repr

/-- The image of a code point that lies in the range. -/
def CaseRange.image? (r : CaseRange) (n : Nat) : Option Nat :=
  if r.first ≤ n && n ≤ r.last && (n - r.first) % r.stride == 0 then some ((n : Int) + r.shift).toNat
  else none

/-- The image of a character under the first range that holds it. -/
def mapCase (ranges : List CaseRange) (c : Char) : Char :=
  match ranges.findSome? (·.image? c.toNat) with
  | some n => Char.ofNat n
  | none => c

end Text
end SchemaDiagram

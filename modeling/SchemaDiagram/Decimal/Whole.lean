/-
# Whole numbers among doubles

The whole part of a finite double, its sign kept, and the whole number that it
is exactly, if it is one.

Key definitions: `Binary.floor`, `Binary.whole?`, `wholePart`, `exactWhole`.
-/
import SchemaDiagram.Decimal.Shortest

namespace SchemaDiagram
namespace Binary

/-- The largest whole number that is not above. -/
def floor (b : Binary) : Nat :=
  let two := ratio 2 b.exponent
  b.significand * two.1 / two.2

/-- The whole number that is meant exactly. -/
def whole? (b : Binary) : Option Nat :=
  let two := ratio 2 b.exponent
  if b.significand * two.1 % two.2 = 0 then some b.floor else none

end Binary

/-- Why a double has no whole part. -/
inductive NotWhole where
  | infinite
  | undefined
  | fraction
  deriving DecidableEq, Repr

/-- The number with the sign of a double. -/
def withSignOf (x : Float) (n : Nat) : Int :=
  if x < 0.0 then -(n : Int) else n

/-- The double cut off after the point. -/
def wholePart (x : Float) : Except NotWhole Int :=
  match Magnitude.ofBits x.toBits.toNat with
  | .finite b => .ok (withSignOf x b.floor)
  | .infinite => .error .infinite
  | .nan => .error .undefined

/-- The whole number that a double is. -/
def exactWhole (x : Float) : Except NotWhole Int :=
  match Magnitude.ofBits x.toBits.toNat with
  | .finite b =>
    match b.whole? with
    | some n => .ok (withSignOf x n)
    | none => .error .fraction
  | .infinite => .error .infinite
  | .nan => .error .undefined

end SchemaDiagram

/-
# Lengths and coordinates

The numbers that positions, sizes and scales are made of. The diagram is drawn
with doubles and reasoned about with exact numbers, so every definition on
positions is stated for any scalar. Dividing by zero is a fault.

Key definitions: `Scalar`, `Scalar.larger`, `Scalar.smaller`, `Scalar.clamp`,
`Scalar.quotient`.
-/
import SchemaDiagram.Fault

namespace SchemaDiagram

/-- Numbers with arithmetic, an order that can be decided, and literals. -/
class Scalar (α : Type) extends Add α, Sub α, Mul α, Div α, Neg α, LT α, LE α, OfScientific α where
  ofInt : Int → α
  /-- The whole number is near some scalar. -/
  reaches : Int → Bool
  isZero : α → Bool
  decideLT : DecidableLT α
  decideLE : DecidableLE α

namespace Scalar

attribute [reducible, instance] decideLT decideLE

instance : Scalar Float where
  ofInt := Float.ofInt
  reaches n := !(Float.ofInt n).isInf
  isZero x := x == 0.0
  decideLT := inferInstance
  decideLE := inferInstance

variable {α : Type} [Scalar α]

/-- The larger of two numbers; the first unless the second is above it. -/
def larger (a b : α) : α := if a < b then b else a

/-- The smaller of two numbers; the first unless the second is below it. -/
def smaller (a b : α) : α := if b < a then b else a

/-- The number nearest to `v` between two bounds. -/
def clamp (v low high : α) : α := larger low (smaller high v)

/-- The distance from zero. -/
def magnitude (a : α) : α := if a < 0.0 then -a else a

/-- The quotient of two numbers, unless the second is zero. -/
def quotient (a b : α) : Except Fault α :=
  if isZero b then .error .divisionByZero else .ok (a / b)

end Scalar

/-- A pair of coordinates. -/
structure Point (α : Type) where
  x : α
  y : α
  deriving DecidableEq, Repr

/-- A width and a height. -/
structure Extent (α : Type) where
  width : α
  height : α
  deriving DecidableEq, Repr

end SchemaDiagram

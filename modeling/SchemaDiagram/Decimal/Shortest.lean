/-
# The shortest decimal of a binary number

A finite double is `m * 2 ^ q`; the reals that round to it form an interval
whose ends belong to it when `m` is even. Its shortest decimal is the number
of fewest digits in that interval, of several the nearest, and of two equally
near the even one. Everything is compared in exact integers.

Key definitions: `Binary`, `Binary.ofBits`, `Decimal`, `Binary.shortest`.
-/

namespace SchemaDiagram

/-- The number `significand * 2 ^ exponent`. The gap to the next smaller double
is half the gap to the next larger one where `narrow` holds. -/
structure Binary where
  significand : Nat
  exponent : Int
  narrow : Bool
  deriving DecidableEq, Repr

/-- The number `digits * 10 ^ exponent`. -/
structure Decimal where
  digits : Nat
  exponent : Int
  deriving DecidableEq, Repr

/-- The size of a double, its sign left out. -/
inductive Magnitude where
  | finite (b : Binary)
  | infinite
  | nan
  deriving DecidableEq, Repr

/-- The bits of a double give its size: 11 bits of exponent over 52 bits of
fraction, the highest bit being the sign. -/
def Magnitude.ofBits (bits : Nat) : Magnitude :=
  let fraction : Nat := bits % Nat.pow 2 52
  let biased : Nat := bits / Nat.pow 2 52 % Nat.pow 2 11
  if biased = 2047 then if fraction = 0 then .infinite else .nan
  else if biased = 0 then .finite ⟨fraction, -1074, false⟩
  else .finite ⟨fraction + Nat.pow 2 52, (biased : Int) - 1075, fraction = 0 && 1 < biased⟩

namespace Binary

/-- The numerator and denominator of a power. -/
def ratio (base : Nat) : Int → Nat × Nat
  | .ofNat n => (Nat.pow base n, 1)
  | .negSucc n => (1, Nat.pow base (n + 1))

/-- The power of ten is at most the number. -/
def atLeast (b : Binary) (t : Int) : Bool :=
  let two := ratio 2 b.exponent
  let ten := ratio 10 t
  ten.1 * two.2 ≤ b.significand * two.1 * ten.2

/-- The exponent of the leading decimal digit of a positive number. -/
def leading (b : Binary) : Int :=
  let guess := ((b.significand.log2 : Int) + b.exponent) * 30103 / 100000
  if !b.atLeast guess then guess - 1
  else if b.atLeast (guess + 1) then guess + 1
  else guess

/-- The multiple of `unit` nearer to `v` of two neighbours, the even one if
both are equally near. -/
def nearer (v unit d : Nat) : Nat :=
  let below := v - d * unit
  let above := (d + 1) * unit - v
  if below < above then d else if above < below then d + 1
  else if d % 2 = 0 then d else d + 1

/-- The digits of the decimal in the interval of the number, on the grid of
multiples of `10 ^ k`; in units of a quarter of the last binary place. -/
def onGrid (b : Binary) (k : Int) : Option Nat :=
  let two := ratio 2 (b.exponent - 2)
  let ten := ratio 10 k
  let scale := two.1 * ten.2
  let unit := two.2 * ten.1
  let v := 4 * b.significand * scale
  let low := (4 * b.significand - (if b.narrow then 1 else 2)) * scale
  let high := (4 * b.significand + 2) * scale
  let inside (d : Nat) : Bool :=
    if b.significand % 2 = 0 then low ≤ d * unit && d * unit ≤ high
    else low < d * unit && d * unit < high
  let d := v / unit
  if inside d then if inside (d + 1) then some (nearer v unit d) else some d
  else if inside (d + 1) then some (d + 1)
  else none

/-- The decimal without trailing zeros in its digits; `fuel` bounds their number. -/
def withoutZeros : Nat → Decimal → Decimal
  | 0, d => d
  | fuel + 1, d =>
    if d.digits % 10 = 0 then withoutZeros fuel ⟨d.digits / 10, d.exponent + 1⟩ else d

/-- The shortest decimal that rounds to the number; 17 digits always suffice. -/
def shortest (b : Binary) : Decimal :=
  if b.significand = 0 then ⟨0, 0⟩
  else
    let lead := b.leading
    let found := (List.range 17).findSome? fun (n : Nat) =>
      (b.onGrid (lead - (n : Int))).map fun d => (⟨d, lead - (n : Int)⟩ : Decimal)
    withoutZeros 18 (found.getD ⟨0, 0⟩)

end Binary
end SchemaDiagram

/-
# How numbers are written

A number format decides which exponents are written positionally and what infinite
numbers and undefined ones are called. `NumberFormat.plain` is the form of numbers in
texts, `NumberFormat.strict` differs in the names of the values that are no numbers.

Key definitions: `NumberFormat`, `NumberFormat.plain`, `NumberFormat.strict`, `NumberFormat.render`.
-/
import SchemaDiagram.Decimal.Shortest

namespace SchemaDiagram

/-- The decisions of a number format. -/
structure NumberFormat where
  /-- The least exponent of the leading digit that is written positionally. -/
  lowest : Int
  /-- The exponent from which on numbers are written with an exponent. -/
  limit : Int
  /-- The least number of digits of an exponent. -/
  exponentDigits : Nat
  infinity : String
  undefined : String
  deriving DecidableEq, Repr

namespace NumberFormat

/-- Whole numbers below ten to the sixteenth keep one decimal place. -/
def plain : NumberFormat := ⟨-4, 16, 2, "inf", "nan"⟩

/-- As `plain`, with the names that data formats use. -/
def strict : NumberFormat := ⟨-4, 16, 2, "Infinity", "NaN"⟩

/-- A run of zeros. -/
def zeros (n : Nat) : String :=
  String.ofList (List.replicate n '0')

/-- The digits of an exponent with its sign. -/
def exponentText (l : NumberFormat) (e : Int) : String :=
  let digits := toString e.natAbs
  (if e < 0 then "e-" else "e+") ++ zeros (l.exponentDigits - digits.length) ++ digits

/-- The text of a decimal that is not negative. -/
def decimalText (l : NumberFormat) (d : Decimal) : String :=
  let digits := (toString d.digits).toList
  let count : Int := digits.length
  let lead := count - 1 + d.exponent
  if l.lowest ≤ lead && lead < l.limit then
    if lead < 0 then
      "0." ++ zeros (-lead - 1).toNat ++ String.ofList digits
    else if 0 ≤ d.exponent then
      String.ofList digits ++ zeros d.exponent.toNat ++ ".0"
    else
      String.ofList (digits.take (lead + 1).toNat) ++ "." ++
        String.ofList (digits.drop (lead + 1).toNat)
  else
    let tail := digits.drop 1
    String.ofList (digits.take 1) ++
      (if tail.isEmpty then "" else "." ++ String.ofList tail) ++ l.exponentText lead

/-- The text of a number, with the fewest digits that read back as it. -/
def render (l : NumberFormat) (x : Float) : String :=
  let bits := x.toBits.toNat
  let sign := if bits / Nat.pow 2 63 = 1 then "-" else ""
  match Magnitude.ofBits bits with
  | .finite b => sign ++ l.decimalText b.shortest
  | .infinite => sign ++ l.infinity
  | .nan => l.undefined

end NumberFormat
end SchemaDiagram

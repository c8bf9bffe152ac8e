/-
# Reading decimal numbers

The double nearest to a decimal written with digits, and the digit runs that
the readers of data formats share.

Key definitions: `Number.digits?`, `Number.longestWhole`, `Number.ofDecimal`,
`Number.real?`, `Number.trimmed`, `Number.spelled?`.
-/
import SchemaDiagram.Text.Blank

namespace SchemaDiagram
namespace Number

/-- The value of a digit in the given base. -/
def digit? (base : Nat) (c : Char) : Option Nat :=
  let v :=
    if c.isDigit then c.toNat - '0'.toNat
    else if 'a' ≤ c && c ≤ 'z' then c.toNat - 'a'.toNat + 10
    else if 'A' ≤ c && c ≤ 'Z' then c.toNat - 'A'.toNat + 10
    else base
  if v < base then some v else none

/-- The number that a text of digits stands for; the empty text stands for none. -/
def digits? (base : Nat) (s : List Char) : Option Nat :=
  if s.isEmpty then none
  else s.foldl (fun n c => do return (← n) * base + (← digit? base c)) (some 0)

/-- The most decimal digits with which a whole number is read. -/
def longestWhole : Nat := 4300

/-- The double nearest to `digits * 10 ^ exponent`, infinite if that is too large. -/
def ofDecimal (digits : Nat) (exponent : Int) : Float :=
  if digits = 0 then 0.0
  else
    let lead := (toString digits).length + exponent
    if 400 < lead then 1.0 / 0.0
    else if lead < -400 then 0.0
    else if 0 ≤ exponent then Float.ofScientific digits false exponent.toNat
    else Float.ofScientific digits true exponent.natAbs

/-- The sign at the beginning of a text, and the rest. -/
def sign : List Char → Bool × List Char
  | '-' :: s => (true, s)
  | '+' :: s => (false, s)
  | s => (false, s)

/-- A whole number with an optional sign. -/
def int? (s : List Char) : Option Int :=
  match sign s with
  | (negative, t) => (digits? 10 t).map fun n => if negative then -(n : Int) else n

/-- The double under a sign. -/
def signed (negative : Bool) (x : Float) : Float :=
  if negative then -x else x

/-- A number without sign: digits with an optional point among them and an
optional exponent, with at least one digit before the exponent. -/
def unsigned? (s : List Char) : Option Float := do
  let whole := s.takeWhile Char.isDigit
  let (part, rest) := match s.dropWhile Char.isDigit with
    | '.' :: t => (t.takeWhile Char.isDigit, t.dropWhile Char.isDigit)
    | t => ([], t)
  let digits ← digits? 10 (whole ++ part)
  let exponent ← match rest with
    | [] => some 0
    | 'e' :: t => int? t
    | 'E' :: t => int? t
    | _ => none
  return ofDecimal digits (exponent - part.length)

/-- A number with an optional sign. -/
def real? (s : List Char) : Option Float :=
  match sign s with
  | (negative, t) => (unsigned? t).map (signed negative)

/-- The characters trimmed from the ends of numbers: the blanks without the
separators of records. -/
def isMargin (c : Char) : Bool :=
  Text.isBlank c && !(0x1C ≤ c.toNat && c.toNat ≤ 0x1F)

def trimmed (s : List Char) : List Char :=
  ((s.dropWhile isMargin).reverse.dropWhile isMargin).reverse

/-- The number that a text names or spells. -/
def spelled? (s : List Char) : Option Float :=
  match sign s with
  | (negative, t) =>
    let word := String.ofList (t.map Char.toLower)
    if word = "inf" || word = "infinity" then some (signed negative (1.0 / 0.0))
    else if word = "nan" then some (0.0 / 0.0)
    else real? s

end Number
end SchemaDiagram

/-
# Reading JSON

A reader of JSON texts into values. Whole numbers are read exactly, numbers
with a point or an exponent as doubles; `NaN`, `Infinity` and `-Infinity` are
numbers too. A whole number of more than 4300 digits is not read. A text in
which half of a surrogate pair stands alone is a broken one.

Key definitions: `Json.value`, `Json.parse?`.
-/
import SchemaDiagram.Value.Basic
import SchemaDiagram.Value.Number

namespace SchemaDiagram
namespace Json

/-- The characters that may stand between tokens. -/
def isSpace (c : Char) : Bool :=
  c == ' ' || c == '\t' || c == '\n' || c == '\r'

def skipSpace (s : List Char) : List Char :=
  s.dropWhile isSpace

/-- The code unit written with four hexadecimal digits. -/
def unit? : List Char → Option (Nat × List Char)
  | a :: b :: c :: d :: s => (Number.digits? 16 [a, b, c, d]).map fun n => (n, s)
  | _ => none

/-- The code point that a code unit and the text after it stand for. -/
def escapedUnit (n : Nat) (s : List Char) : CodePoint × List Char :=
  if 0xD800 ≤ n && n ≤ 0xDBFF then
    match s with
    | '\\' :: 'u' :: t =>
      match unit? t with
      | some (m, r) =>
        if 0xDC00 ≤ m && m ≤ 0xDFFF then
          (.char (Char.ofNat (0x10000 + (n - 0xD800) * 0x400 + (m - 0xDC00))), r)
        else (.half n, s)
      | none => (.half n, s)
    | _ => (.half n, s)
  else if 0xDC00 ≤ n && n ≤ 0xDFFF then (.half n, s)
  else (.char (Char.ofNat n), s)

/-- The code point after a backslash. -/
def escape? : List Char → Option (CodePoint × List Char)
  | '"' :: s => some (.char '"', s)
  | '\\' :: s => some (.char '\\', s)
  | '/' :: s => some (.char '/', s)
  | 'b' :: s => some (.char '\x08', s)
  | 'f' :: s => some (.char '\x0c', s)
  | 'n' :: s => some (.char '\n', s)
  | 'r' :: s => some (.char '\r', s)
  | 't' :: s => some (.char '\t', s)
  | 'u' :: s => (unit? s).map fun u => escapedUnit u.1 u.2
  | _ => none

/-- The code points up to the closing quote, and the text after it. -/
def points : Nat → List Char → Option (List CodePoint × List Char)
  | 0, _ => none
  | _, [] => none
  | _, '"' :: s => some ([], s)
  | fuel + 1, '\\' :: s => do
    let (c, r) ← escape? s
    let (cs, r) ← points fuel r
    return (c :: cs, r)
  | fuel + 1, c :: s =>
    if c.toNat < 0x20 then none
    else (points fuel s).map fun p => (.char c :: p.1, p.2)

/-- A text after its opening quote. -/
def text? (fuel : Nat) (s : List Char) : Option (Value × List Char) :=
  (points fuel s).map fun p => (.ofPoints ⟨p.1⟩, p.2)

/-- A number without its sign. -/
def number? (negative : Bool) (s : List Char) : Option (Value × List Char) := do
  let digits := s.takeWhile Char.isDigit
  let rest := s.dropWhile Char.isDigit
  let (whole, rest) := if digits.head? = some '0' then (['0'], digits.drop 1 ++ rest)
    else (digits, rest)
  let n ← Number.digits? 10 whole
  let (part, rest) := match rest with
    | '.' :: t =>
      let part := t.takeWhile Char.isDigit
      if part.isEmpty then ([], rest) else (part, t.dropWhile Char.isDigit)
    | _ => ([], rest)
  let (exponent, rest) := match rest with
    | e :: t =>
      if e = 'e' || e = 'E' then
        let (below, u) := Number.sign t
        match Number.digits? 10 (u.takeWhile Char.isDigit) with
        | some x => (some (if below then -(x : Int) else x), u.dropWhile Char.isDigit)
        | none => (none, rest)
      else (none, rest)
    | [] => (none, rest)
  if part.isEmpty && exponent.isNone then
    if Number.longestWhole < whole.length then none
    return (.int (if negative then -(n : Int) else n), rest)
  else
    let digits := (Number.digits? 10 (whole ++ part)).getD 0
    let x := Number.ofDecimal digits (exponent.getD 0 - part.length)
    return (.real (Number.signed negative x), rest)

/-- A value that is a single word or a number. -/
def scalar? : List Char → Option (Value × List Char)
  | 'n' :: 'u' :: 'l' :: 'l' :: s => some (.null, s)
  | 't' :: 'r' :: 'u' :: 'e' :: s => some (.bool true, s)
  | 'f' :: 'a' :: 'l' :: 's' :: 'e' :: s => some (.bool false, s)
  | 'N' :: 'a' :: 'N' :: s => some (.real (0.0 / 0.0), s)
  | 'I' :: 'n' :: 'f' :: 'i' :: 'n' :: 'i' :: 't' :: 'y' :: s => some (.real (1.0 / 0.0), s)
  | '-' :: 'I' :: 'n' :: 'f' :: 'i' :: 'n' :: 'i' :: 't' :: 'y' :: s =>
    some (.real (-1.0 / 0.0), s)
  | '-' :: s => number? true s
  | s => number? false s

mutual

/-- A value at the beginning of a text, and the text after it. -/
def value : Nat → List Char → Option (Value × List Char)
  | 0, _ => none
  | fuel + 1, s =>
    match skipSpace s with
    | '"' :: s => text? fuel s
    | '[' :: s =>
      match skipSpace s with
      | ']' :: r => some (.list [], r)
      | s => (items fuel s).map fun p => (.list p.1, p.2)
    | '\x7b' :: s =>
      match skipSpace s with
      | '\x7d' :: r => some (.mapping [], r)
      | s => (entries fuel s).map fun p => (.mapping p.1, p.2)
    | s => scalar? s

/-- The items of a list that is not empty, up to its closing bracket. -/
def items : Nat → List Char → Option (List Value × List Char)
  | 0, _ => none
  | fuel + 1, s => do
    let (v, s) ← value fuel s
    match skipSpace s with
    | ',' :: s =>
      let (vs, s) ← items fuel s
      return (v :: vs, s)
    | ']' :: s => return ([v], s)
    | _ => none

/-- The entries of a mapping that is not empty, up to its closing brace. -/
def entries : Nat → List Char → Option (List (Value × Value) × List Char)
  | 0, _ => none
  | fuel + 1, s =>
    match skipSpace s with
    | '"' :: s => do
      let (key, s) ← text? fuel s
      match skipSpace s with
      | ':' :: s =>
        let (v, s) ← value fuel s
        match skipSpace s with
        | ',' :: s =>
          let (es, s) ← entries fuel s
          return ((key, v) :: es, s)
        | '\x7d' :: s => return ([(key, v)], s)
        | _ => none
      | _ => none
    | _ => none

end

/-- The value that the whole text stands for. -/
def parse? (s : String) : Option Value :=
  let cs := s.toList
  match value (3 * cs.length + 3) cs with
  | some (v, rest) => if (skipSpace rest).isEmpty then some v else none
  | none => none

end Json
end SchemaDiagram

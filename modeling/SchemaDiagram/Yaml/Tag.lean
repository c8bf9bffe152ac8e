/-
# Tags of YAML nodes

A tag names the kind of value that a node stands for. A plain scalar without a
tag has one by its form: numbers with an exponent need a point, a leading zero
makes an octal number, colons separate digits in base sixty, and underscores may
stand among digits. What has no such form is a text.

Key definitions: `Yaml.Tag`, `Tag.ofName`, `Yaml.isWhole`, `Yaml.isReal`,
`Tag.ofPlain`.
-/
import SchemaDiagram.Text.Lines
import SchemaDiagram.Yaml.Timestamp

namespace SchemaDiagram
namespace Yaml

/-- A kind of value. -/
inductive Tag where
  | null
  | truth
  | whole
  | real
  | binary
  | time
  | text
  | sequence
  | mapping
  | set
  /-- A mapping written as a list of single entries. -/
  | orderedMapping
  | pairs
  /-- A key under which stand the mappings to take over. -/
  | merge
  /-- A key under which stands the text of a mapping. -/
  | content
  /-- A kind of which no values are known. -/
  | unknown
  deriving DecidableEq, Repr

namespace Tag

/-- What the names of the known kinds begin with. -/
def stem : String := "tag:yaml.org,2002:"

/-- The known kinds by the rest of their names. -/
def names : List (String × Tag) :=
  [("null", null), ("bool", truth), ("int", whole), ("float", real), ("binary", binary),
   ("timestamp", time), ("str", text), ("seq", sequence), ("map", mapping), ("set", set),
   ("omap", orderedMapping), ("pairs", pairs), ("merge", merge), ("value", content)]

/-- The kind of a name. -/
def ofName (name : String) : Tag :=
  match names.find? fun e => stem ++ e.1 = name with
  | some e => e.2
  | none => unknown

end Tag

/-- The forms of null. -/
def nulls : List String := ["", "~", "null", "Null", "NULL"]

/-- The forms of the truth values. -/
def truths : List String :=
  ["yes", "Yes", "YES", "true", "True", "TRUE", "on", "On", "ON",
   "no", "No", "NO", "false", "False", "FALSE", "off", "Off", "OFF"]

/-- Digits that start with one, with underscores among them. -/
def isDigits (s : List Char) : Bool :=
  (s.head?.any Char.isDigit) && s.all fun c => c.isDigit || c == '_'

/-- One or two digits below sixty. -/
def isSixtieth (s : List Char) : Bool :=
  match s with
  | [a] => a.isDigit
  | [a, b] => '0' ≤ a && a ≤ '5' && b.isDigit
  | _ => false

/-- Digits of a base, with underscores among them. -/
def isDigitsIn (base : Nat) (s : List Char) : Bool :=
  !s.isEmpty && s.all fun c => (Number.digit? base c).isSome || c == '_'

/-- The form of a whole number without sign. -/
def isNatural (s : List Char) : Bool :=
  match s with
  | ['0'] => true
  | '0' :: 'b' :: t => isDigitsIn 2 t
  | '0' :: 'x' :: t => isDigitsIn 16 t
  | '0' :: t => isDigitsIn 8 t
  | s =>
    match Text.cutAt ':' s with
    | [] => false
    | g :: gs => isDigits g && gs.all isSixtieth

/-- The form of a whole number. -/
def isWhole (s : List Char) : Bool :=
  isNatural (Number.sign s).2

/-- The form of an exponent: its sign is required. -/
def isExponent : List Char → Bool
  | [] => true
  | e :: sign :: t =>
    (e == 'e' || e == 'E') && (sign == '+' || sign == '-') && !t.isEmpty && t.all Char.isDigit
  | _ => false

/-- A digit or an underscore. -/
def isDigitLike (c : Char) : Bool :=
  c.isDigit || c == '_'

/-- The form of a number with a point and without sign. -/
def isPointed (s : List Char) : Bool :=
  let whole := s.takeWhile isDigitLike
  match s.dropWhile isDigitLike with
  | '.' :: t =>
    ((whole.isEmpty && isDigits (t.takeWhile isDigitLike)) || isDigits whole) &&
      isExponent (t.dropWhile isDigitLike)
  | _ => false

/-- The form of a number in base sixty with a point. -/
def isPointedSixtieth (s : List Char) : Bool :=
  match (Text.cutAt ':' s).reverse with
  | last :: middle :: rest =>
    match last.dropWhile Char.isDigit with
    | '.' :: part =>
      isDigits ((middle :: rest).getLast?.getD []) && (middle :: rest).dropLast.all isSixtieth &&
        isSixtieth (last.takeWhile Char.isDigit) && part.all isDigitLike
    | _ => false
  | _ => false

/-- The form of a number that is not whole: with a point, infinite or undefined. -/
def isReal (s : List Char) : Bool :=
  let t := (Number.sign s).2
  if t ∈ [".inf", ".Inf", ".INF"].map String.toList then true
  else if s ∈ [".nan", ".NaN", ".NAN"].map String.toList then true
  else if t.head? = some '.' && s ≠ t then false
  else isPointed t || isPointedSixtieth t

/-- The text without a line feed at its end. -/
def withoutFinalBreak (s : List Char) : List Char :=
  if s.getLast? = some '\n' then s.dropLast else s

/-- The kind that a scalar has by its form. -/
def Tag.ofPlain (s : List Char) : Tag :=
  let t := if s = ['\n'] then s else withoutFinalBreak s
  if String.ofList t ∈ truths then truth
  else if isReal t then real
  else if isWhole t then whole
  else if t = ['<', '<'] then merge
  else if String.ofList t ∈ nulls then null
  else if Timestamp.isWritten t then time
  else if t = ['='] then content
  else text

end Yaml
end SchemaDiagram

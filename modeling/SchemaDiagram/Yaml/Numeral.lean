/-
# Numbers in YAML scalars

What a scalar stands for that is tagged as a number, whatever its form. Digits
of every script count, and blanks around a number do not.

Key definitions: `Yaml.spelledWhole`, `Yaml.wholeOf`, `Yaml.spelledReal`,
`Yaml.sumSixty`, `Yaml.realOf`.
-/
import SchemaDiagram.Text.Digit
import SchemaDiagram.Text.Lines
import SchemaDiagram.Text.Lowercase
import SchemaDiagram.Value.Number
import SchemaDiagram.Yaml.Fault

namespace SchemaDiagram
namespace Yaml

/-- The characters of a number without the blanks around it, its digits in ASCII. -/
def numberChars? (t : List CodePoint) : Option (List Char) :=
  (LooseText.mk t).chars?.map fun cs => Number.trimmed (cs.map Text.plainDigit)

/-- The digits after the mark of their base. -/
def withoutBaseMark (base : Nat) (s : List Char) : List Char :=
  match s with
  | '0' :: m :: t =>
    if (base = 16 && m.toLower = 'x') || (base = 8 && m.toLower = 'o') ||
        (base = 2 && m.toLower = 'b') then t
    else s
  | s => s

/-- The whole number that a text spells in a base. -/
def spelledWhole (base : Nat) (t : List CodePoint) : Except ScalarFault Int :=
  match numberChars? t with
  | none => .error (.notWhole base ⟨t⟩)
  | some cs =>
    let (negative, s) := Number.sign cs
    let s := withoutBaseMark base s
    let count := (s.takeWhile fun c => (Number.digit? base c).isSome).length
    if base = 10 && Number.longestWhole < count then .error (.tooManyDigits count)
    else match Number.digits? base s with
      | some n => .ok (if negative then -(n : Int) else n)
      | none => .error (.notWhole base ⟨t⟩)

/-- The code points but the underscores. -/
def withoutUnderscores (t : LooseText) : List CodePoint :=
  t.points.filter (· ≠ .char '_')

/-- The sign in front of a number, and the code points after it. -/
def signOf (t : List CodePoint) : Bool × List CodePoint :=
  match t with
  | .char '-' :: s => (true, s)
  | .char '+' :: s => (false, s)
  | s => (false, s)

/-- A whole number without sign: a zero in front makes it octal, or with a letter
binary or hexadecimal, and colons separate digits in base sixty. -/
def naturalOf (s : List CodePoint) : Except ScalarFault Int :=
  match s with
  | [] => .error .noDigits
  | [.char '0'] => .ok 0
  | .char '0' :: .char 'b' :: t => spelledWhole 2 t
  | .char '0' :: .char 'x' :: t => spelledWhole 16 t
  | .char '0' :: _ => spelledWhole 8 s
  | _ =>
    (Text.cutAt (.char ':') s).foldlM (fun n g => do return n * 60 + (← spelledWhole 10 g)) 0

/-- The whole number that a scalar stands for. -/
def wholeOf (t : LooseText) : Except ScalarFault Int :=
  match signOf (withoutUnderscores t) with
  | (negative, s) => (naturalOf s).map fun n => if negative then -n else n

/-- The number that a text spells. -/
def spelledReal (t : List CodePoint) : Except ScalarFault Float :=
  match (numberChars? t).bind Number.spelled? with
  | some x => .ok x
  | none => .error (.notReal ⟨t⟩)

/-- The sum of digits in base sixty, the lowest first, each with the worth of
its place. -/
def sumSixty (place : Nat) (sum : Float) : List Float → Except ScalarFault Float
  | [] => .ok sum
  | d :: ds =>
    let worth := Float.ofNat place
    if worth.isInf then .error .placeTooLarge else sumSixty (place * 60) (sum + d * worth) ds

/-- A text in lower case; halves of surrogate pairs have no case. -/
def lowered (t : List CodePoint) : List CodePoint :=
  match (LooseText.mk t).chars? with
  | some cs => (Text.lower cs).map .char
  | none => t.flatMap fun
    | .char c => (Text.lower [c]).map .char
    | .half n => [.half n]

/-- The number that a scalar stands for. -/
def realOf (t : LooseText) : Except ScalarFault Float :=
  let written := lowered (withoutUnderscores t)
  match signOf written with
  | (negative, s) =>
    if written.isEmpty then .error .noDigits
    else if s = ".inf".toList.map .char then .ok (Number.signed negative (1.0 / 0.0))
    else if s = ".nan".toList.map .char then .ok (0.0 / 0.0)
    else if s.contains (.char ':') then do
      let digits ← (Text.cutAt (.char ':') s).mapM spelledReal
      return Number.signed negative (← sumSixty 1 0.0 digits.reverse)
    else (spelledReal s).map (Number.signed negative)

end Yaml
end SchemaDiagram

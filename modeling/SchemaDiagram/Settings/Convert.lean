/-
# Values as settings

A field takes values of its type and some others that stand for one: numbers
may be written as texts, truth values count as one and zero, and a double
without fraction is a whole number if a signed word of 64 bits holds it. Bytes
stand for the text that they encode. A number outside its bounds is refused,
and so is an undefined one; the rule for that can be exchanged.

Key definitions: `Convert.numberText`, `Convert.real`, `Convert.whole`,
`Convert.text`, `Convert.path`, `Convert.pair`, `Bound`, `Bound.excludes`,
`BoundRule`, `LawfulBoundRule`.
Key theorems: `Convert.bounded_ok_iff`.
-/
import SchemaDiagram.Decimal.Whole
import SchemaDiagram.Scalar
import SchemaDiagram.Settings.Issue
import SchemaDiagram.Text.Blank
import SchemaDiagram.Value.Basic
import SchemaDiagram.Value.Number

namespace SchemaDiagram

/-- A limit of a number. -/
inductive Bound where
  | above (n : Nat)
  | atLeast (n : Nat)
  | below (n : Nat)
  deriving DecidableEq, Repr

namespace Bound

/-- The number itself is on the wrong side of the limit. -/
def excludes (x : Float) : Bound → Bool
  | above n => decide (x ≤ Float.ofNat n)
  | atLeast n => decide (x < Float.ofNat n)
  | below n => decide (Float.ofNat n ≤ x)

/-- The whole number is within the limit. -/
def admitsWhole (x : Int) : Bound → Bool
  | above n => decide ((n : Int) < x)
  | atLeast n => decide ((n : Int) ≤ x)
  | below n => decide (x < (n : Int))

/-- Why a number outside the limit is refused. -/
def cause : Bound → Cause
  | above n => .notAbove n
  | atLeast n => .belowBound n
  | below n => .notBelow n

end Bound

/-- Which numbers are refused at a limit. Settings only say what their limits are; how a
number is held to them is not theirs to decide. -/
class BoundRule where
  refuses : Bound → Float → Bool

/-- Numbers on the wrong side of a limit are refused, and undefined ones at every limit. -/
instance : BoundRule := ⟨fun b x => x.isNaN || b.excludes x⟩

/-- What settings rely on of a rule: it refuses the defined numbers on the wrong side of a
limit and no others, and undefined numbers at every limit. -/
class LawfulBoundRule [BoundRule] : Prop where
  refuses_defined {x : Float} (h : x.isNaN = false) (b : Bound) :
    BoundRule.refuses b x = b.excludes x
  refuses_undefined {x : Float} (h : x.isNaN = true) (b : Bound) : BoundRule.refuses b x = true

instance : LawfulBoundRule where
  refuses_defined {x} h b := by
    show (x.isNaN || b.excludes x) = b.excludes x
    rw [h, Bool.false_or]
  refuses_undefined {x} h b := by
    show (x.isNaN || b.excludes x) = true
    rw [h, Bool.true_or]

namespace Convert

/-- A text without its underscores, which may stand between other characters,
one at a time. -/
def withoutUnderscores? (s : List Char) : Option (List Char) :=
  if s.head? = some '_' || s.getLast? = some '_' || Text.contains ['_', '_'] s then none
  else some (s.filter (· ≠ '_'))

/-- The number in a text: blanks around it are passed over, or else underscores
in it. -/
def realText? (s : List Char) : Option Float :=
  (Number.spelled? (Number.trimmed s)).or ((withoutUnderscores? s).bind Number.spelled?)

/-- The text in which a value may spell a number; bytes that are no text spell
none. A value that is no text at all is refused for a reason of its own. -/
def numberText (unspelled other : Cause) : Value → Except Cause (List Char)
  | .text s => .ok s.toList
  | .brokenText _ => .error .brokenText
  | .bytes content =>
    match String.fromUTF8? content with
    | some s => .ok s.toList
    | none => .error unspelled
  | _ => .error other

/-- A number. -/
def real : Value → Except Cause Float
  | .bool b => .ok (if b then 1.0 else 0.0)
  | .int n => if (Float.ofInt n).isInf then .error .notNumber else .ok (Float.ofInt n)
  | .real x => .ok x
  | v => do
    match realText? (← numberText .numberText .notNumber v) with
    | some x => return x
    | none => throw .numberText

/-- A text that begins with a whole number of too many digits. -/
def isOverlong (s : List Char) : Bool :=
  let digits := if s.head? = some '-' then s.drop 1 else s
  digits.head? ≠ some '0' && Number.longestWhole < (digits.takeWhile Char.isDigit).length

/-- Digits without a leading zero, after an optional minus sign. -/
def canonicalInt? (s : List Char) : Option Int :=
  let (negative, digits) := match s with
    | '-' :: t => (true, t)
    | t => (false, t)
  if isOverlong s || (digits.head? = some '0' && digits ≠ ['0']) then none
  else if digits.all Char.isDigit then
    (Number.digits? 10 digits).map fun n => if negative then -(n : Int) else n
  else none

/-- An unsigned number without the zeros at its beginning and the underscores
among them. Where no digit follows, the last character of that run stays. -/
def withoutZeros? (s : List Char) : Option (List Char) :=
  if s.head? = some '0' then
    let run := s.takeWhile fun c => c = '0' || c = '_'
    match s.drop run.length with
    | [] => some (run.drop (run.length - 1))
    | '.' :: t => some (run.drop (run.length - 1) ++ '.' :: t)
    | c :: t => if c.isDigit || c = '-' then some (c :: t) else none
  else if s.head?.any Char.isDigit then some s
  else none

/-- A number without a fraction of zeros. -/
def withoutFraction (s : List Char) : List Char :=
  match s.dropWhile (· ≠ '.') with
  | '.' :: t => if !t.isEmpty && t.all (· = '0') then s.takeWhile (· ≠ '.') else s
  | _ => s

/-- The whole number in a text: blanks around it, a plus sign, zeros at its
beginning, a fraction of zeros and underscores among its digits are passed over. -/
def wholeText? (s : List Char) : Option Int := do
  let t := Number.trimmed s
  let u := withoutFraction (← withoutZeros? (Number.sign t).2)
  let u := (withoutUnderscores? u).getD u
  canonicalInt? (if t.head? = some '-' then '-' :: u else u)

/-- The whole number that a double is, if a signed word of 64 bits holds it. -/
def wholeReal (x : Float) : Except Cause Int :=
  match exactWhole x with
  | .ok n => if n.natAbs < Nat.pow 2 63 then .ok n else .error .wholeTooLarge
  | .error .fraction => .error .fraction
  | .error _ => .error .notFinite

/-- A whole number. -/
def whole : Value → Except Cause Int
  | .bool b => .ok (if b then 1 else 0)
  | .int n => .ok n
  | .real x => wholeReal x
  | v => do
    let s ← numberText .wholeText .notWhole v
    if isOverlong s then throw .wholeTooLarge
    match wholeText? s with
    | some n => return n
    | none => throw .wholeText

/-- A text. -/
def text : Value → Except Cause LooseText
  | .text s => .ok s
  | .brokenText t => .ok t
  | .bytes content =>
    match String.fromUTF8? content with
    | some s => .ok s
    | none => .error .brokenText
  | _ => .error .notText

/-- A path. -/
def path : Value → Except Cause Path
  | .text s => .ok (.parse s)
  | .brokenText t => .ok (.parse t)
  | _ => .error .notPath

/-- A path or nothing. -/
def optionalPath : Value → Except Cause (Option Path)
  | .null => .ok none
  | v => (path v).map some

/-- A number within bounds; the first bound that refuses it is reported. -/
def bounded [BoundRule] (bounds : List Bound) (v : Value) : Except Cause Float :=
  match real v with
  | .error c => .error c
  | .ok x =>
    match bounds.find? fun b => BoundRule.refuses b x with
    | some b => .error b.cause
    | none => .ok x

/-- A whole number within bounds. -/
def boundedWhole (bounds : List Bound) (v : Value) : Except Cause Int :=
  match whole v with
  | .error c => .error c
  | .ok n =>
    match bounds.find? fun b => !b.admitsWhole n with
    | some b => .error b.cause
    | none => .ok n

/-- What is wrong with the items of a pair of which some are there. -/
def itemIssues (name : String) (index : Nat) : List Value → List Issue
  | [] => (List.range (2 - index)).map fun i => ⟨.item name (index + i), .missing⟩
  | v :: vs =>
    match real v with
    | .ok _ => itemIssues name (index + 1) vs
    | .error c => ⟨.item name index, c⟩ :: itemIssues name (index + 1) vs

/-- The items of a collection that is no mapping. -/
def items? : Value → Option (List Value)
  | .list vs => some vs
  | .set vs => some vs
  | _ => none

/-- A pair of numbers: a list or a set of two. -/
def pair (name : String) (v : Value) : Except (List Issue) (Point Float) :=
  match items? v with
  | none => .error [⟨.field name, .notPair⟩]
  | some vs =>
    if 2 < vs.length then .error [⟨.field name, .tooLong vs.length⟩]
    else match vs.map real with
      | [.ok x, .ok y] => .ok ⟨x, y⟩
      | _ => .error (itemIssues name 0 vs)

/-- A number is accepted exactly when it is one and no bound refuses it. -/
theorem bounded_ok_iff [BoundRule] {bounds : List Bound} {v : Value} {x : Float} :
    bounded bounds v = .ok x ↔ real v = .ok x ∧ ∀ b ∈ bounds, BoundRule.refuses b x = false := by
  unfold bounded
  split
  · next c h => simp [h]
  · next y h =>
    rw [h]
    constructor
    · intro hx
      split at hx
      · cases hx
      · next hf =>
        obtain rfl := Except.ok.inj hx
        exact ⟨rfl, fun b hb => by simpa using List.find?_eq_none.1 hf b hb⟩
    · rintro ⟨hx, hb⟩
      obtain rfl := Except.ok.inj hx
      have hf : (bounds.find? fun b => BoundRule.refuses b y) = none :=
        List.find?_eq_none.2 fun b h => by simp [hb b h]
      rw [hf]

end Convert
end SchemaDiagram

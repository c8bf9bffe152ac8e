/-
# The members of a set

Equal values are one member of a set, and numbers are equal if they have the
same worth. Members are kept in eight places, each in the one that its residue
modulo a prime picks, or in another one if that is taken; they are visited place
by place. Sets of more than two members are visited in no order that matters,
and so are members that are no numbers.

Key definitions: `Value.residue?`, `Value.place`, `Value.isSame`,
`Value.members`.
-/
import SchemaDiagram.Decimal.Whole
import SchemaDiagram.Value.Basic

namespace SchemaDiagram
namespace Value

/-- The prime by which numbers have residues. -/
def residuePrime : Nat := Nat.pow 2 61 - 1

/-- The residue of a fraction whose denominator is a power of two. -/
def binaryResidue (b : Binary) : Nat :=
  b.significand * Nat.pow 2 (b.exponent.emod 61).toNat % residuePrime

/-- A residue with its sign; minus one is taken. -/
def signedResidue (negative : Bool) (n : Nat) : Int :=
  if !negative then n else if n = 1 then -2 else -(n : Int)

/-- The residue of a number. -/
def residue? : Value → Option Int
  | bool b => some (if b then 1 else 0)
  | int n => some (signedResidue (n < 0) (n.natAbs % residuePrime))
  | real x =>
    match Magnitude.ofBits x.toBits.toNat with
    | .finite b => some (signedResidue (x < 0.0) (binaryResidue b))
    | .infinite => some (if x < 0.0 then -314159 else 314159)
    | .nan => none
  | _ => none

/-- The places of a small set. -/
def places : Nat := 8

/-- The place from a place on that is not taken; `far` says where to look next. -/
def freePlace (taken : Option Nat) : Nat → Nat → Nat → Nat
  | 0, _, i => i
  | fuel + 1, far, i =>
    if taken = some i then freePlace taken fuel (far / 32) ((i * 5 + 1 + far / 32) % places) else i

/-- The place of a member with a residue. -/
def place (taken : Option Nat) (residue : Int) : Nat :=
  let word := (residue.emod (Int.pow 2 64)).toNat
  freePlace taken 16 word (word % places)

/-- The whole number that a number is worth. -/
def whole? : Value → Option Int
  | bool b => some (if b then 1 else 0)
  | int n => some n
  | real x => (exactWhole x).toOption
  | _ => none

/-- Two values that can be members are equal. -/
def isSame : Value → Value → Bool
  | null, null => true
  | text s, text t => s == t
  | brokenText s, brokenText t => s == t
  | date s, date t => s == t
  | bytes a, bytes b => a == b
  | real x, real y => x == y
  | a, b => a.whole?.isSome && a.whole? == b.whole?

/-- The members of a set, each once, in the order in which they are visited. -/
def members (vs : List Value) : List Value :=
  match vs.foldl (fun kept v => if kept.any (isSame v) then kept else kept ++ [v]) [] with
  | [a, b] =>
    match a.residue?, b.residue? with
    | some m, some n =>
      let first := place none m
      if place (some first) n < first then [b, a] else [a, b]
    | _, _ => [a, b]
  | kept => kept

end Value
end SchemaDiagram

/-
# Bytes in base sixty-four

Four signs stand for three bytes, six bits each, and equals signs fill up the
last group. Other characters among the signs are passed over, and so is what
follows a full group that ends with equals signs.

Key definitions: `Text.sextet?`, `Text.Base64Place`, `Text.base64?`.
-/

namespace SchemaDiagram
namespace Text

/-- The six bits that a sign stands for. -/
def sextet? (c : Char) : Option Nat :=
  if 'A' ≤ c && c ≤ 'Z' then some (c.toNat - 65)
  else if 'a' ≤ c && c ≤ 'z' then some (c.toNat - 71)
  else if '0' ≤ c && c ≤ '9' then some (c.toNat + 4)
  else if c = '+' then some 62
  else if c = '/' then some 63
  else none

/-- Where a reader of signs is: how many signs of a group it has seen, the bits
that are not in a byte yet, and how many equals signs came last. -/
structure Base64Place where
  seen : Nat
  bits : Nat
  fillers : Nat
  deriving DecidableEq, Repr

namespace Base64Place

/-- The bytes that the next six bits complete, and the place after them. -/
def take (p : Base64Place) (six : Nat) : List UInt8 × Base64Place :=
  match p.seen with
  | 0 => ([], ⟨1, six, 0⟩)
  | 1 => ([(p.bits * 4 + six / 16).toUInt8], ⟨2, six % 16, 0⟩)
  | 2 => ([(p.bits * 16 + six / 4).toUInt8], ⟨3, six % 4, 0⟩)
  | _ => ([(p.bits * 64 + six).toUInt8], ⟨0, 0, 0⟩)

/-- The bytes of the signs from a place on, if the last group is full. -/
def read (p : Base64Place) : List Char → Option (List UInt8)
  | [] => if p.seen = 0 then some [] else none
  | c :: s =>
    if c = '=' then
      if p.seen < 2 then p.read s
      else if 4 ≤ p.seen + p.fillers + 1 then some []
      else read { p with fillers := p.fillers + 1 } s
    else match sextet? c with
      | none => p.read s
      | some six =>
        let (bytes, q) := p.take six
        (q.read s).map (bytes ++ ·)

end Base64Place

/-- The bytes that a text stands for. -/
def base64? (s : List Char) : Option ByteArray :=
  (Base64Place.read ⟨0, 0, 0⟩ s).map fun bytes => ⟨bytes.toArray⟩

end Text
end SchemaDiagram

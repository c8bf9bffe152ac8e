/-
# The values of YAML scalars

What a scalar stands for under its tag. A scalar that has the tag by its form
may still have no value, such as the thirtieth of February, and a written tag
may not fit the scalar at all.

Key definitions: `Yaml.truthOf`, `Yaml.timeOf`, `Yaml.bytesOf`, `Tag.valueOf`.
-/
import SchemaDiagram.Text.Base64
import SchemaDiagram.Value.Basic
import SchemaDiagram.Yaml.Numeral
import SchemaDiagram.Yaml.Tag

namespace SchemaDiagram
namespace Yaml

/-- The words for true and false. -/
def truthWords : List (String × Bool) :=
  [("yes", true), ("no", false), ("true", true), ("false", false), ("on", true), ("off", false)]

/-- The truth value that a word in any case stands for. -/
def truthOf (t : LooseText) : Except ScalarFault Value :=
  let word : LooseText := ⟨lowered t.points⟩
  match truthWords.find? fun e => some e.1 = word.string? with
  | some e => .ok (.bool e.2)
  | none => .error (.notTruth word)

/-- The point in time that a scalar stands for. -/
def timeOf (t : LooseText) : Except ScalarFault Value :=
  match t.chars? with
  | none => .error .notTime
  | some cs =>
    match Timestamp.read? (withoutFinalBreak cs) with
    | none => .error .notTime
    | some time =>
      match time.fault? with
      | some f => .error f
      | none => .ok (.date (String.ofList cs))

/-- The bytes that a scalar in base sixty-four stands for. -/
def bytesOf (t : LooseText) : Option ByteArray := do
  let cs ← t.chars?
  if cs.all fun c => c.toNat < 0x80 then Text.base64? cs else none

/-- The value of a scalar under a tag; only some tags are for scalars. -/
def Tag.valueOf (tag : Tag) (t : LooseText) : Reading Value :=
  match tag with
  | .null => .ok .null
  | .truth => (truthOf t).mapError .scalar
  | .whole => ((wholeOf t).map .int).mapError .scalar
  | .real => ((realOf t).map .real).mapError .scalar
  | .time => (timeOf t).mapError .scalar
  | .binary =>
    match bytesOf t with
    | some bytes => .ok (.bytes bytes)
    | none => .error .malformed
  | .text => .ok (.ofPoints t)
  | _ => .error .malformed

end Yaml
end SchemaDiagram

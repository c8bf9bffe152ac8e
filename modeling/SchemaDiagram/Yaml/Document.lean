/-
# Reading YAML documents

A text that holds one document has the value of its top node, and one that holds
none is null. The text is read in blocks, each just before it is cut into tokens,
and looked through for characters that may not stand in a document. So what is
wrong in front of a block is found before what is wrong with its characters.

Key definitions: `Yaml.isPrintable`, `Yaml.readable`, `Yaml.graph`, `Yaml.parse`.
-/
import SchemaDiagram.Text.Piece
import SchemaDiagram.Yaml.Lexer
import SchemaDiagram.Yaml.Meaning

namespace SchemaDiagram
namespace Yaml

/-- A character that may stand in a document. -/
def isPrintable (c : Char) : Bool :=
  let n := c.toNat
  n == 0x09 || n == 0x0A || n == 0x0D || (0x20 ≤ n && n ≤ 0x7E) || n == 0x85 ||
    (0xA0 ≤ n && n ≤ 0xFFFD) || 0x10000 ≤ n

/-- The number of characters that are looked through at a time. -/
def blockSize : Nat := 4096

/-- The text up to the first block that cannot be read, and the fault that is met
there. The first two blocks are read together, before they are looked through. -/
def readable (r : TextRun) : List Char × Option DocumentFault :=
  let clean := (r.chars.takeWhile isPrintable).length
  if clean = r.chars.length && r.isWhole then (r.chars, none)
  else
    let block := clean / blockSize
    let undecoded := !r.isWhole && r.chars.length / blockSize ≤ max block 1
    let fault : DocumentFault := if undecoded then .notText else .malformed
    (if block < 2 then [] else r.chars.take (block * blockSize), some fault)

/-- The nodes of the only document in a text, if there is one. -/
def graph (r : TextRun) : Reading (Option Graph) :=
  let (text, beyond) := readable r
  Graph.ofTokens (.ofText text beyond)

/-- The value of the only document in a text; an empty text is null. -/
def parse (r : TextRun) : Reading Value := do
  match ← graph r with
  | some g => g.value
  | none => return .null

end Yaml
end SchemaDiagram

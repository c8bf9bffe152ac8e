/-
# The blocks of a schema text

Lines are read one after the other. Outside a block every line that is no
opener is skipped. A block counts one open brace on its opener, and every brace
after that outside comments, and ends with the line on which none is left open;
that line is not part of the body. The end of the text ends the last block. A
block that is closed on its opener line keeps what stands between the braces:
the declarations of a model one a line, and any other text whole.

Key definitions: `OpenBlock`, `Scan`, `Scan.step`, `Scan.run`, `Scan.blocks`.
Key theorems: `Scan.run_append`.
-/
import SchemaDiagram.Schema.Inline
import SchemaDiagram.Schema.Opener

namespace SchemaDiagram

/-- A block whose closing line has not been read: the body so far and the
number of braces left open. -/
structure OpenBlock where
  kind : BlockKind
  name : String
  body : List String
  depth : Int
  deriving DecidableEq, Repr

/-- The block as it stands. -/
def OpenBlock.close (b : OpenBlock) : Block :=
  ⟨b.kind, b.name, b.body⟩

/-- What the reader of lines knows: the blocks that have ended and the block
that it is in. -/
structure Scan where
  closed : List Block
  current : Option OpenBlock
  deriving DecidableEq, Repr

namespace Scan

/-- Nothing read. -/
def empty : Scan := ⟨[], none⟩

/-- The body of a block that opens and closes on one line. -/
def inlineBody (kind : BlockKind) (inner : List Char) : List String :=
  if (Text.trim inner).isEmpty then []
  else if kind = .model then (Inline.declarations inner).map String.ofList
  else [String.ofList inner]

/-- The text after an opening brace as the first body line, unless it is blank. -/
def firstLine (rest : List Char) : List String :=
  if (Text.trim rest).isEmpty then [] else [String.ofList rest]

/-- An opener line, read outside a block. -/
def opened (closed : List Block) (o : Opener) : Scan :=
  let depth := 1 + Opener.delta o.rest
  if depth ≤ 0 then
    ⟨closed ++ [⟨o.kind, o.name, inlineBody o.kind (Text.beforeLast '}' o.rest)⟩], none⟩
  else ⟨closed, some ⟨o.kind, o.name, firstLine o.rest, depth⟩⟩

/-- A line read inside a block. -/
def continued (closed : List Block) (b : OpenBlock) (line : List Char) : Scan :=
  let depth := b.depth + Opener.delta (Comment.strip line)
  if depth ≤ 0 then ⟨closed ++ [b.close], none⟩
  else ⟨closed, some { b with body := b.body ++ [String.ofList line], depth := depth }⟩

/-- The next line. -/
def step (s : Scan) (line : List Char) : Scan :=
  match s.current with
  | some b => continued s.closed b line
  | none =>
    match Opener.match? (Comment.strip line) with
    | some o => opened s.closed o
    | none => s

/-- All lines, from a state. -/
def run (s : Scan) (lines : List (List Char)) : Scan :=
  lines.foldl step s

/-- The blocks read so far; the one being read counts as it stands. -/
def blocks (s : Scan) : List Block :=
  s.closed ++ s.current.toList.map OpenBlock.close

/-- The state at the end of a text. -/
def ofText (text : List Char) : Scan :=
  run empty (Text.lines (Text.joinLineEnds text))

theorem run_append (s : Scan) (a b : List (List Char)) : run s (a ++ b) = run (run s a) b :=
  List.foldl_append

end Scan
end SchemaDiagram

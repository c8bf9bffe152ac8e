/-
# Block scalars in a YAML text

A block scalar is made of the indented lines below its header. A bar keeps its
line breaks, and an angle joins lines that do not begin with a blank. The header
can fix the indentation and say what becomes of the line breaks at the end:
one is kept, or none, or all.

Key definitions: `Yaml.Chomp`, `Yaml.BlockHeader`, `BlockHeader.read`,
`Yaml.blockLines`, `Yaml.blockScalar`.
-/
import SchemaDiagram.Yaml.Cursor

namespace SchemaDiagram
namespace Yaml

/-- What becomes of the line breaks at the end of a block scalar. -/
inductive Chomp where
  | strip
  | clip
  | keep
  deriving DecidableEq, Repr

/-- The sign under which line breaks at the end are treated. -/
def Chomp.ofSign? (c : Char) : Option Chomp :=
  if c = '+' then some .keep else if c = '-' then some .strip else none

/-- What the first line of a block scalar says. -/
structure BlockHeader where
  chomp : Chomp
  /-- The columns of indentation beyond those of the enclosing collection. -/
  indent : Option Nat
  deriving DecidableEq, Repr

namespace BlockHeader

/-- The sign here, if one stands here, and the cursor after it. -/
def sign (c : Cursor) : Chomp × Cursor :=
  match c.rest.head?.bind Chomp.ofSign? with
  | some k => (k, c.next)
  | none => (.clip, c)

/-- The digit here, if one stands here, and the cursor after it. It is not zero. -/
def digit (c : Cursor) : Reading (Option Nat × Cursor) :=
  match c.rest.head? with
  | some d =>
    if d = '0' then .error .malformed
    else if d.isDigit then .ok (some (d.toNat - '0'.toNat), c.next)
    else .ok (none, c)
  | none => .ok (none, c)

/-- The header after its indicator, and the cursor at the first line below; sign
and digit stand in either order. -/
def read (c : Cursor) : Reading (BlockHeader × Cursor) := do
  let (before, c) := sign c
  let (indent, c) ← digit c
  let (after, c) := if before = .clip then sign c else (before, c)
  if endsField c.rest then return (⟨after, indent⟩, ← c.finishLine) else .error .malformed

end BlockHeader

/-- The line breaks ahead among spaces, and the largest column that the spaces
reach. -/
def leadingBreaks : Nat → Nat → Cursor → List Char × Nat × Cursor
  | 0, reach, c => ([], reach, c)
  | fuel + 1, reach, c =>
    match c.rest with
    | [] => ([], reach, c)
    | d :: _ =>
      if d = ' ' then leadingBreaks fuel (max reach c.next.column) c.next
      else if isBreak d then
        match leadingBreaks fuel reach c.next with
        | (ds, reach, c) => (breakText d :: ds, reach, c)
      else ([], reach, c)

/-- The cursor after spaces, at most up to a column. -/
def indentTo (column : Nat) (c : Cursor) : Cursor :=
  c.skip (min (column - c.column) (c.rest.takeWhile (· == ' ')).length)

/-- The empty lines ahead; a line is empty if only its indentation is there. -/
def emptyLines (indent : Nat) : Nat → Cursor → List Char × Cursor
  | 0, c => ([], c)
  | fuel + 1, c =>
    let c := indentTo indent c
    match c.rest with
    | [] => ([], c)
    | d :: _ =>
      if isBreak d then
        match emptyLines indent fuel c.next with
        | (ds, c) => (breakText d :: ds, c)
      else ([], c)

/-- The text of a block scalar: its lines, the last line break, and the empty
lines after it. -/
structure BlockText where
  lines : List Char
  ending : List Char
  tail : List Char
  deriving DecidableEq, Repr

/-- The text as the header asks for it. -/
def BlockText.whole (t : BlockText) : Chomp → List Char
  | .strip => t.lines
  | .clip => t.lines ++ t.ending
  | .keep => t.lines ++ t.ending ++ t.tail

/-- The lines at a column, after some empty ones. -/
def blockLines (folds : Bool) (indent : Nat) :
    Nat → List Char → Cursor → BlockText × Cursor
  | 0, empty, c => (⟨[], [], empty⟩, c)
  | fuel + 1, empty, c =>
    if c.column ≠ indent || c.rest.isEmpty then (⟨[], [], empty⟩, c)
    else
      let (line, d) := c.span fun x => !isBreak x
      let ending := (d.rest.take 1).map breakText
      let (between, e) := emptyLines indent fuel d.next
      if e.column = indent && !e.rest.isEmpty then
        let joins := folds && ending == ['\n'] && !c.meets isInlineBlank && !e.meets isInlineBlank
        let join := if !joins then ending else if between.isEmpty then [' '] else []
        let (more, after) := blockLines folds indent fuel between e
        ({ more with lines := empty ++ line ++ join ++ more.lines }, after)
      else (⟨empty ++ line, ending, between⟩, e)

/-- A block scalar after its indicator. It stands in a collection at the column
`outer`, or at top with column minus one. -/
def blockScalar (folds : Bool) (outer : Int) (fuel : Nat) (c : Cursor) :
    Reading (List Char × Cursor) := do
  let (header, c) ← BlockHeader.read c
  let least := (max (outer + 1) 1).toNat
  match header.indent with
  | some n =>
    let indent := least + n - 1
    let (empty, c) := emptyLines indent fuel c
    let (text, c) := blockLines folds indent fuel empty c
    return (text.whole header.chomp, c)
  | none =>
    let (empty, reach, c) := leadingBreaks fuel 0 c
    let (text, c) := blockLines folds (max least reach) fuel empty c
    return (text.whole header.chomp, c)

end Yaml
end SchemaDiagram

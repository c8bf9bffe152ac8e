/-
# Places in a YAML text

A cursor is the text ahead with the number of characters before it, its column
and its line. Between tokens stand spaces, comments and line breaks. A line of
three hyphens or points at its beginning bounds a document.

Key definitions: `Yaml.Cursor`, `Cursor.next`, `Cursor.gap`, `Cursor.atMarker`,
`Cursor.fault`, `Yaml.breakText`, `Yaml.folded`.
-/
import SchemaDiagram.Yaml.Fault

namespace SchemaDiagram
namespace Yaml

/-- A character that ends a line. -/
def isBreak (c : Char) : Bool :=
  c == '\n' || c == '\u0085' || c == '\u2028' || c == '\u2029'

/-- A blank within a line. -/
def isInlineBlank (c : Char) : Bool :=
  c == ' ' || c == '\t'

/-- What a line break counts as in a scalar. -/
def breakText (c : Char) : Char :=
  if c = '\u2028' || c = '\u2029' then c else '\n'

/-- What a line break and the breaks after it become where lines are joined. -/
def folded (first : Char) (others : List Char) : List Char :=
  if first ≠ '\n' then first :: others
  else if others.isEmpty then [' '] else others

/-- Nothing, or a line break. -/
def endsLine : List Char → Bool
  | [] => true
  | c :: _ => isBreak c

/-- Nothing, or a space or a line break. -/
def endsField : List Char → Bool
  | [] => true
  | c :: _ => c == ' ' || isBreak c

/-- Nothing, or a blank or a line break. -/
def endsWord : List Char → Bool
  | [] => true
  | c :: _ => c == ' ' || c == '\t' || isBreak c

/-- The text ahead, with the place where it starts. -/
structure Cursor where
  rest : List Char
  index : Nat
  column : Nat
  line : Nat
  deriving DecidableEq, Repr

namespace Cursor

/-- The cursor at the beginning of a text. -/
def start (text : List Char) : Cursor :=
  ⟨text, 0, 0, 0⟩

/-- The cursor after one character. A mark of byte order takes no column. -/
def next (c : Cursor) : Cursor :=
  match c.rest with
  | [] => c
  | d :: s =>
    if isBreak d then ⟨s, c.index + 1, 0, c.line + 1⟩
    else if d = '\ufeff' then ⟨s, c.index + 1, c.column, c.line⟩
    else ⟨s, c.index + 1, c.column + 1, c.line⟩

/-- The cursor after some characters. -/
def skip : Nat → Cursor → Cursor
  | 0, c => c
  | n + 1, c => skip n c.next

/-- The cursor after the characters ahead that a test accepts. -/
def skipWhile (p : Char → Bool) (c : Cursor) : Cursor :=
  skip (c.rest.takeWhile p).length c

/-- The characters ahead that a test accepts, and the cursor after them. -/
def span (p : Char → Bool) (c : Cursor) : List Char × Cursor :=
  let run := c.rest.takeWhile p
  (run, skip run.length c)

/-- The character here is the given one. -/
def is (c : Cursor) (d : Char) : Bool :=
  c.rest.head? == some d

/-- The character here passes a test. -/
def meets (c : Cursor) (p : Char → Bool) : Bool :=
  c.rest.head?.any p

/-- An indicator stands here: the character, and then the end of a word. -/
def isIndicator (c : Cursor) (d : Char) : Bool :=
  c.is d && endsWord (c.rest.drop 1)

/-- Three of a character stand here, and then the end of a word. -/
def isTriple (c : Cursor) (d : Char) : Bool :=
  match c.rest with
  | x :: y :: z :: s => x == d && y == d && z == d && endsWord s
  | _ => false

/-- A line that starts or ends a document begins here, provided that a line does. -/
def atMarker (c : Cursor) : Bool :=
  c.isTriple '-' || c.isTriple '.'

/-- The cursor at the next token; `comment` says that a comment is being read. -/
def gapFrom (comment : Bool) (index column line : Nat) : List Char → Cursor
  | [] => ⟨[], index, column, line⟩
  | d :: s =>
    if isBreak d then gapFrom false (index + 1) 0 (line + 1) s
    else if comment || d = '#' then gapFrom true (index + 1) (column + 1) line s
    else if d = ' ' then gapFrom false (index + 1) (column + 1) line s
    else ⟨d :: s, index, column, line⟩

/-- The cursor after spaces, comments and line breaks. -/
def gap (c : Cursor) : Cursor :=
  gapFrom false c.index c.column c.line c.rest

/-- What is wrong where the text cannot go on as it does. -/
def fault (c : Cursor) : DocumentFault :=
  if c.rest.isEmpty then .unfinished else .malformed

/-- The cursor on the line after this one, where only spaces and a comment are left. -/
def finishLine (c : Cursor) : Reading Cursor :=
  let c := c.skipWhile (· == ' ')
  let c := if c.is '#' then c.skipWhile fun d => !isBreak d else c
  if endsLine c.rest then .ok c.next else .error .malformed

end Cursor
end Yaml
end SchemaDiagram

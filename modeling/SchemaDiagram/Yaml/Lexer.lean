/-
# Cutting a YAML text into tokens

Tokens are read from left to right. Whether one of them starts a key shows only
at the colon after it, on the same line and within 1024 characters; until then
the tokens from there on wait. So when the text turns out to be wrong, a reader
of the tokens has seen those alone that did not wait. The text may be known only
up to a place after which there is a fault; then a token is known only if
something stands after it.

Key definitions: `Yaml.KeyStart`, `Yaml.Lexer`, `Lexer.next`, `Lexer.settle`,
`TokenRun.ofText`.
-/
import SchemaDiagram.Yaml.Block
import SchemaDiagram.Yaml.Plain
import SchemaDiagram.Yaml.Quoted
import SchemaDiagram.Yaml.Token

namespace SchemaDiagram
namespace Yaml

/-- A place where a key may have started: how many brackets are open there, the
number of its first token, and whether nothing but a key can stand there. -/
structure KeyStart where
  depth : Nat
  number : Nat
  required : Bool
  place : Cursor
  deriving DecidableEq, Repr

/-- How far the colon of a key may stand from where the key starts. -/
def longestKey : Nat := 1024

/-- It is too late for the colon of the key. -/
def KeyStart.isStale (k : KeyStart) (here : Cursor) : Bool :=
  here.line != k.place.line || longestKey < here.index - k.place.index

/-- A token, after those that were found to stand before it. -/
structure Lexeme where
  lead : List Token
  token : Token
  deriving DecidableEq, Repr

/-- How far a text is cut into tokens. -/
structure Lexer where
  place : Cursor
  /-- No scalar has more characters. -/
  size : Nat
  /-- The number of open brackets. -/
  depth : Nat
  /-- The columns of the open block collections, the innermost first. -/
  columns : List Nat
  keyAllowed : Bool
  /-- The places where keys may have started, one for each depth. -/
  starts : List KeyStart
  /-- The tokens, the last first, and their number. -/
  lexemes : List Lexeme
  count : Nat
  /-- The number of tokens that do not wait. -/
  settled : Nat
  ended : Bool
  /-- What is met after the text, unless it ends there. -/
  beyond : Option DocumentFault
  deriving DecidableEq, Repr

namespace Lexer

/-- A text of which nothing is read. A mark of byte order at its beginning counts
for nothing. -/
def start (text : List Char) (beyond : Option DocumentFault) : Lexer :=
  let c := Cursor.start text
  ⟨if c.is '\ufeff' then c.next else c, text.length + 1, 0, [], true, [], [], 0, 0, false, beyond⟩

/-- What is met after the text, if the lexer has come to its end. -/
def met? (l : Lexer) : Option DocumentFault :=
  if l.place.rest.isEmpty then l.beyond else none

/-- The column of the innermost block collection, minus one if there is none. -/
def indent (l : Lexer) : Int :=
  match l.columns with
  | [] => -1
  | n :: _ => n

/-- One more token. -/
def push (l : Lexer) (t : Token) : Lexer :=
  { l with lexemes := ⟨[], t⟩ :: l.lexemes, count := l.count + 1 }

/-- One more token of a single character. -/
def pushHere (l : Lexer) (t : Token) : Lexer :=
  { l.push t with place := l.place.next }

/-- The key start at the depth of the lexer. -/
def start? (l : Lexer) : Option KeyStart :=
  l.starts.find? (·.depth = l.depth)

/-- No key starts at the depth of the lexer any more; one that must cannot go. -/
def dropStart (l : Lexer) : Reading Lexer :=
  if l.start?.any (·.required) then .error .malformed
  else .ok { l with starts := l.starts.filter (·.depth ≠ l.depth) }

/-- A key may start here, if one is allowed. -/
def keepStart (l : Lexer) : Reading Lexer := do
  if l.keyAllowed then
    let required := l.depth = 0 && l.indent = l.place.column
    let l ← l.dropStart
    return { l with starts := ⟨l.depth, l.count, required, l.place⟩ :: l.starts }
  else return l

/-- Without the keys for whose colons it is too late. -/
def dropStale (l : Lexer) : Reading Lexer :=
  if l.starts.any fun k => k.required && k.isStale l.place then .error .malformed
  else .ok { l with starts := l.starts.filter fun k => !k.isStale l.place }

/-- Block collections to the right of a column end. -/
def closeTo (column : Int) (l : Lexer) : Lexer :=
  if l.depth ≠ 0 then l
  else
    let closed := l.columns.takeWhile fun (n : Nat) => column < n
    { closed.foldl (fun l _ => l.push .blockEnd) l with columns := l.columns.drop closed.length }

/-- A block collection starts at a column, unless one already has. -/
def openAt (column : Nat) (t : Token) (l : Lexer) : Lexer :=
  if l.depth = 0 && l.indent < column then { l.push t with columns := column :: l.columns } else l

/-- The end of the text. -/
def finish (l : Lexer) : Reading Lexer := do
  let l ← (l.closeTo (-1)).dropStart
  return { l.push .textEnd with keyAllowed := false, starts := [], ended := true }

/-- A line that starts or ends a document, or one before it. -/
def boundary (l : Lexer) (t : Token) (after : Cursor) : Reading Lexer := do
  let l ← (l.closeTo (-1)).dropStart
  return { l.push t with keyAllowed := false, place := after }

/-- An opening bracket. -/
def openBracket (t : Token) (l : Lexer) : Reading Lexer := do
  let l ← l.keepStart
  return { l.pushHere t with depth := l.depth + 1, keyAllowed := true }

/-- A closing bracket. -/
def closeBracket (t : Token) (l : Lexer) : Reading Lexer := do
  let l ← l.dropStart
  return { l.pushHere t with depth := l.depth - 1, keyAllowed := false }

/-- A comma. -/
def comma (l : Lexer) : Reading Lexer := do
  let l ← l.dropStart
  return { l.pushHere .comma with keyAllowed := true }

/-- A hyphen before an item. -/
def item (l : Lexer) : Reading Lexer := do
  if l.depth = 0 && !l.keyAllowed then throw .malformed
  let l ← (l.openAt l.place.column .blockSequence).dropStart
  return { l.pushHere .item with keyAllowed := true }

/-- A question mark before a key. -/
def key (l : Lexer) : Reading Lexer := do
  if l.depth = 0 && !l.keyAllowed then throw .malformed
  let l ← (l.openAt l.place.column .blockMapping).dropStart
  return { l.pushHere .key with keyAllowed := l.depth = 0 }

/-- A colon makes a key of what started at a place. -/
def colonAfter (k : KeyStart) (l : Lexer) : Lexer :=
  let opens := l.depth = 0 && l.indent < k.place.column
  let lead := if opens then [.blockMapping, .key] else [.key]
  let fromEnd := l.count - 1 - k.number
  { l with
    lexemes := l.lexemes.modify fromEnd fun e => { e with lead := lead }
    keyAllowed := false
    columns := if opens then k.place.column :: l.columns else l.columns
    starts := l.starts.filter (·.depth ≠ l.depth) }.pushHere .value

/-- A colon: a key has started before it, or a question mark stands before the
key, or there is none. -/
def colon (l : Lexer) : Reading Lexer := do
  match l.start? with
  | some k => return l.colonAfter k
  | none =>
    if l.depth = 0 && !l.keyAllowed then throw .malformed
    let l ← (l.openAt l.place.column .blockMapping).dropStart
    return { l.pushHere .value with keyAllowed := l.depth = 0 }

/-- A token with which a key may start. -/
def first (read : Cursor → Reading (Token × Cursor)) (l : Lexer) : Reading Lexer := do
  let l ← l.keepStart
  let (t, after) ← read l.place
  return { l.push t with keyAllowed := false, place := after }

/-- A scalar in quotes. -/
def quotedScalar (l : Lexer) : Reading Lexer :=
  l.first fun c =>
    if c.is '"' then (doubleQuoted l.size c.next).map fun p => (.scalar ⟨p.1⟩ false, p.2)
    else (singleQuoted l.size c.next).map fun p => (.scalar (.ofChars p.1) false, p.2)

/-- A scalar without quotes. After a line break in its gap a key may start. -/
def plainScalar (l : Lexer) : Reading Lexer := do
  let l ← l.keepStart
  let run := plainRun (l.depth ≠ 0) (l.indent + 1) l.size l.place
  return { l.push (.scalar (.ofChars run.text) true) with
    keyAllowed := run.newLine
    place := run.after }

/-- A block scalar, which is no key. -/
def blockScalar (l : Lexer) : Reading Lexer := do
  let l ← l.dropStart
  let (text, after) ← Yaml.blockScalar (l.place.is '>') l.indent l.size l.place.next
  return { l.push (.scalar (.ofChars text) false) with keyAllowed := true, place := after }

/-- The token here, with those that start or end block collections before it. -/
def token (l : Lexer) : Reading Lexer :=
  let c := l.place
  let flow := l.depth ≠ 0
  let sign (d : Char) := c.is d && (flow || endsWord (c.rest.drop 1))
  match c.rest with
  | [] => l.finish
  | d :: _ =>
    if c.column = 0 && d = '%' then do
      let (t, after) ← directive l.size c
      l.boundary t after
    else if c.column = 0 && c.isTriple '-' then l.boundary .documentStart (c.skip 3)
    else if c.column = 0 && c.isTriple '.' then l.boundary .documentEnd (c.skip 3)
    else if d = '[' then l.openBracket .openSequence
    else if d = '\x7b' then l.openBracket .openMapping
    else if d = ']' then l.closeBracket .closeSequence
    else if d = '\x7d' then l.closeBracket .closeMapping
    else if d = ',' then l.comma
    else if c.isIndicator '-' then l.item
    else if sign '?' then l.key
    else if sign ':' then l.colon
    else if d = '*' then l.first fun c => (anchorName c.next).map fun p => (.again p.1, p.2)
    else if d = '&' then l.first fun c => (anchorName c.next).map fun p => (.anchor p.1, p.2)
    else if d = '!' then l.first (tagMark l.size)
    else if (d = '|' || d = '>') && !flow then l.blockScalar
    else if d = '"' || d = '\'' then l.quotedScalar
    else if startsPlain flow c then l.plainScalar
    else .error .malformed

/-- The lexer, unless it has met what comes after the text. -/
def within (l : Lexer) : Reading Lexer :=
  match l.met? with
  | some f => .error f
  | none => .ok l

/-- The next token, after spaces, comments and line breaks. -/
def next (l : Lexer) : Reading Lexer := do
  let place := l.place.gap
  let keyAllowed := l.keyAllowed || (l.depth = 0 && place.line ≠ l.place.line)
  let l ← within { l with place := place, keyAllowed := keyAllowed }
  let l ← l.dropStale
  let l ← (l.closeTo place.column).token
  l.within

/-- Tokens do not wait if no key may start with them or before them. -/
def settle (l : Lexer) : Reading Lexer := do
  if l.ended then return { l with settled := l.count }
  else if l.settled = l.count then return l
  else
    let l ← l.dropStale
    return { l with settled := l.starts.foldl (fun n k => min n k.number) l.count }

/-- The text cut up to its end or to a fault, each step being one token. -/
def run : Nat → Lexer → Lexer × Option DocumentFault
  | 0, l => (l, some .malformed)
  | fuel + 1, l =>
    if l.ended then (l, none)
    else match l.next with
      | .error .unfinished => (l, some (l.beyond.getD .unfinished))
      | .error f => (l, some f)
      | .ok m =>
        match m.settle with
        | .error f => (m, some f)
        | .ok m => run fuel m

end Lexer

/-- The tokens of a text, after which there may be a fault. -/
def TokenRun.ofText (text : List Char) (beyond : Option DocumentFault) : TokenRun :=
  let (l, fault) := (Lexer.start text beyond).run (text.length + 2)
  ⟨(l.lexemes.reverse.take l.settled).flatMap fun e => e.lead ++ [e.token], fault⟩

end Yaml
end SchemaDiagram

/-
# The tokens of a YAML text

Indicators, scalars, the marks that nodes can carry, and the lines that say how
a document is to be read. A mark is a tag, which names a kind of value, or an
anchor, under which an alias finds the node again.

Key definitions: `Yaml.Directive`, `Yaml.Token`, `Yaml.TokenRun`,
`Yaml.anchorName`, `Yaml.uri`, `Yaml.tagMark`, `Yaml.directive`.
-/
import SchemaDiagram.Value.Number
import SchemaDiagram.Yaml.Cursor

namespace SchemaDiagram
namespace Yaml

/-- A line before a document. -/
inductive Directive where
  /-- The version that the document is written in, by its first number. -/
  | version (major : Nat)
  /-- What a handle in tags stands for. -/
  | handle (name stem : String)
  | other
  deriving DecidableEq, Repr

/-- A token. The start of a block collection and of a key within a line are
tokens although nothing is written for them. -/
inductive Token where
  | directive (d : Directive)
  | documentStart
  | documentEnd
  | textEnd
  | blockSequence
  | blockMapping
  | blockEnd
  | openSequence
  | closeSequence
  | openMapping
  | closeMapping
  | item
  | comma
  | key
  | value
  /-- A node that stands under an anchor, once more. -/
  | again (name : String)
  | anchor (name : String)
  /-- A tag by its handle, if it has one, and the rest of its name. -/
  | tag (handle : Option String) (suffix : String)
  /-- A scalar; `isPlain` says that it is not quoted and no block scalar. -/
  | scalar (text : LooseText) (isPlain : Bool)
  deriving DecidableEq, Repr

/-- Tokens, and the fault that is met when more are asked for. -/
structure TokenRun where
  tokens : List Token
  fault : Option DocumentFault
  deriving DecidableEq, Repr

/-- A character of the names of anchors, handles and directives. -/
def isNameChar (c : Char) : Bool :=
  c.isAlphanum || c == '-' || c == '_'

/-- The name of an anchor or an alias after its indicator. -/
def anchorName (c : Cursor) : Reading (String × Cursor) :=
  let (name, c) := c.span isNameChar
  if !name.isEmpty && (endsWord c.rest || c.meets "?:,]\x7d%@`".toList.contains) then
    .ok (String.ofList name, c)
  else .error c.fault

/-- A character of a tag that is written as it is. -/
def isUriChar (c : Char) : Bool :=
  isNameChar c || ";/?:@&=+$,.!~*'()[]".toList.contains c

/-- The bytes written as percent signs with two hexadecimal digits each. -/
def percentBytes : Nat → Cursor → Reading (List UInt8 × Cursor)
  | 0, _ => .error .malformed
  | fuel + 1, c =>
    match c.rest with
    | '%' :: a :: b :: _ =>
      match Number.digits? 16 [a, b] with
      | some n => (percentBytes fuel (c.skip 3)).map fun p => (n.toUInt8 :: p.1, p.2)
      | none => .error .malformed
    | '%' :: s =>
      .error (if s.all fun d => (Number.digit? 16 d).isSome then .unfinished else .malformed)
    | _ => .ok ([], c)

/-- The characters of a tag, with those written as bytes. -/
def uriChars : Nat → Cursor → Reading (List Char × Cursor)
  | 0, _ => .error .malformed
  | fuel + 1, c =>
    if c.is '%' then do
      let (bytes, c) ← percentBytes fuel c
      match String.fromUTF8? ⟨bytes.toArray⟩ with
      | some s =>
        let (more, c) ← uriChars fuel c
        return (s.toList ++ more, c)
      | none => .error .malformed
    else
      match c.rest with
      | [] => .ok ([], c)
      | d :: _ =>
        if isUriChar d then (uriChars fuel c.next).map fun p => (d :: p.1, p.2) else .ok ([], c)

/-- The name of a kind of value, or the rest of it; it is not empty. -/
def uri (fuel : Nat) (c : Cursor) : Reading (String × Cursor) := do
  let (cs, c) ← uriChars fuel c
  if cs.isEmpty then .error c.fault else return (String.ofList cs, c)

/-- A handle: a mark of exclamation, or a name between two of them. -/
def tagHandle (c : Cursor) : Reading (String × Cursor) :=
  if !c.is '!' then .error c.fault
  else
    let c := c.next
    if c.is ' ' then .ok ("!", c)
    else
      let (name, c) := c.span isNameChar
      if c.is '!' then .ok ("!" ++ String.ofList name ++ "!", c.next) else .error c.fault

/-- A tag: a whole name in angles, a mark of exclamation alone, or the rest of a
name after a handle. -/
def tagMark (fuel : Nat) (c : Cursor) : Reading (Token × Cursor) := do
  let d := c.next
  let (tag, e) ←
    if d.is '<' then do
      let (name, e) ← uri fuel d.next
      if e.is '>' then pure (Token.tag none name, e.next) else .error e.fault
    else if endsWord d.rest then pure (.tag none "!", d)
    else if (d.rest.takeWhile fun x => !endsField [x]).contains '!' then do
      let (handle, e) ← tagHandle c
      let (suffix, e) ← uri fuel e
      pure (.tag (some handle) suffix, e)
    else do
      let (suffix, e) ← uri fuel d
      pure (.tag (some "!") suffix, e)
  if endsField e.rest then return (tag, e) else .error .malformed

/-- A number of a version. -/
def versionNumber (c : Cursor) : Reading (Nat × Cursor) :=
  let (digits, c) := c.span Char.isDigit
  if Number.longestWhole < digits.length then .error (.scalar (.tooManyDigits digits.length))
  else match Number.digits? 10 digits with
    | some n => .ok (n, c)
    | none => .error c.fault

/-- The version that a line before a document states. -/
def version (c : Cursor) : Reading (Directive × Cursor) := do
  let (major, c) ← versionNumber (c.skipWhile (· == ' '))
  if !c.is '.' then .error c.fault
  else
    let (_, c) ← versionNumber c.next
    if endsField c.rest then return (.version major, c) else .error .malformed

/-- The handle that a line before a document introduces. -/
def handleLine (fuel : Nat) (c : Cursor) : Reading (Directive × Cursor) := do
  let (name, c) ← tagHandle (c.skipWhile (· == ' '))
  if !c.is ' ' then .error c.fault
  else
    let (stem, c) ← uri fuel (c.skipWhile (· == ' '))
    if endsField c.rest then return (.handle name stem, c) else .error .malformed

/-- A line before a document, and the cursor on the next line. -/
def directive (fuel : Nat) (c : Cursor) : Reading (Token × Cursor) := do
  let (name, c) := c.next.span isNameChar
  if name.isEmpty || !endsField c.rest then .error c.fault
  else
    let (d, c) ←
      if name = "YAML".toList then version c
      else if name = "TAG".toList then handleLine fuel c
      else pure (.other, c.skipWhile fun x => !isBreak x)
    return (.directive d, ← c.finishLine)

end Yaml
end SchemaDiagram

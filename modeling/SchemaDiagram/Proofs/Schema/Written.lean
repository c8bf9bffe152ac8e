/-
# Schemas as they are written

Models put down line by line. A model has a line `model NAME {`, a line for each
field and each option in any order, and a line `}`. Each of these lines may be
indented and may have a comment after a blank; between them there may be blank
lines and lines with nothing but a comment. A field is its name, its type and its
attributes with single spaces between them.

The parts of a text carry what makes them readable: names are words; types,
arguments and options hold no quotes, no braces and no two slashes in a row;
types hold no blanks, arguments no closing parenthesis, and options start with
two at signs and have no blanks around them. Indentation is blank, and nothing
holds a line feed.

Key definitions: `Quiet`, `Written.FieldText`, `Written.OptionText`,
`Written.Margin`, `Written.ModelText`, `Written.Part`, `Written.text`,
`Written.entities`.
-/
import SchemaDiagram.Proofs.Schema.Comment
import SchemaDiagram.Schema.Parse

namespace SchemaDiagram

/-- No string and no comment begins in the text. -/
structure Quiet (s : List Char) : Prop where
  noQuote : ∀ c ∈ s, isQuote c = false
  noSlashes : ¬ ['/', '/'] <:+: s

/-- There are no braces in the text. -/
def Braceless (s : List Char) : Prop :=
  '{' ∉ s ∧ '}' ∉ s

namespace Written

/-! ### Parts of a line -/

structure Word where
  chars : List Char
  ne_nil : chars ≠ []
  isWord : ∀ c ∈ chars, Text.isWord c = true

structure TypeText where
  chars : List Char
  ne_nil : chars ≠ []
  notBlank : ∀ c ∈ chars, Text.isBlank c = false
  quiet : Quiet chars
  braceless : Braceless chars

structure Arguments where
  chars : List Char
  notClosed : ')' ∉ chars
  quiet : Quiet chars
  braceless : Braceless chars
  oneLine : '\n' ∉ chars

/-- An at sign, a word, and perhaps arguments in parentheses. -/
structure AttributeText where
  name : Word
  arguments : Option Arguments

def AttributeText.chars (a : AttributeText) : List Char :=
  match a.arguments with
  | none => '@' :: a.name.chars
  | some args => '@' :: (a.name.chars ++ '(' :: (args.chars ++ [')']))

structure FieldText where
  name : Word
  type : TypeText
  attributes : List AttributeText

/-- The attributes, each after a space. -/
def FieldText.tail (f : FieldText) : List Char :=
  f.attributes.flatMap fun a => ' ' :: a.chars

def FieldText.chars (f : FieldText) : List Char :=
  f.name.chars ++ ([' '] ++ (f.type.chars ++ f.tail))

/-- The field that is written; it is not known yet whether it is a relation. -/
def FieldText.field (f : FieldText) : Field where
  name := String.ofList f.name.chars
  type := String.ofList f.type.chars
  attributes := f.attributes.map fun a => String.ofList a.chars
  raw := String.ofList f.chars
  isRelation := false

structure OptionText where
  chars : List Char
  marked : ['@', '@'] <+: chars
  quiet : Quiet chars
  braceless : Braceless chars
  oneLine : '\n' ∉ chars
  trimmed : ∀ c ∈ chars.getLast?, Text.isBlank c = false

/-- What a body line declares. -/
inductive Declaration where
  | field (f : FieldText)
  | option (o : OptionText)

namespace Declaration

def chars : Declaration → List Char
  | field f => f.chars
  | option o => o.chars

def body : Declaration → Body
  | field f => ⟨[f.field], []⟩
  | option o => ⟨[], [String.ofList o.chars]⟩

end Declaration

/-! ### Lines -/

structure Indent where
  chars : List Char
  isBlank : ∀ c ∈ chars, Text.isBlank c = true
  oneLine : '\n' ∉ chars

/-- Any text that stays on its line. -/
structure Remark where
  chars : List Char
  oneLine : '\n' ∉ chars

/-- What stands around the content of a line. -/
structure Margin where
  indent : Indent
  remark : Option Remark

/-- The line with its content: the indentation before it, and a comment after it. -/
def Margin.around (m : Margin) (content : List Char) : List Char :=
  match m.remark with
  | none => m.indent.chars ++ content
  | some r => m.indent.chars ++ (content ++ ' ' :: '/' :: '/' :: r.chars)

/-- A blank line, or a line with only a comment. -/
structure Filler where
  indent : Indent
  remark : Option Remark

def Filler.chars (f : Filler) : List Char :=
  match f.remark with
  | none => f.indent.chars
  | some r => f.indent.chars ++ '/' :: '/' :: r.chars

/-- A line between the braces of a model. -/
inductive Row where
  | filler (f : Filler)
  | declaration (m : Margin) (d : Declaration)

namespace Row

def chars : Row → List Char
  | filler f => f.chars
  | declaration m d => m.around d.chars

def body : Row → Body
  | filler _ => .empty
  | declaration _ d => d.body

end Row

/-! ### Models and texts -/

structure ModelText where
  name : Word
  opening : Margin
  rows : List Row
  closing : Margin

namespace ModelText

/-- The line `model NAME {`, without its margin. -/
def header (m : ModelText) : List Char :=
  "model ".toList ++ (m.name.chars ++ " \x7b".toList)

def lines (m : ModelText) : List (List Char) :=
  m.opening.around m.header :: (m.rows.map Row.chars ++ [m.closing.around ['}']])

/-- What all rows declare, in order. -/
def body (m : ModelText) : Body :=
  m.rows.foldr (fun r b => r.body.append b) .empty

def entity (m : ModelText) : Entity :=
  .draft (String.ofList m.name.chars) m.body

end ModelText

/-- A model, or a line between models. -/
inductive Part where
  | filler (f : Filler)
  | model (m : ModelText)

namespace Part

def lines : Part → List (List Char)
  | filler f => [f.chars]
  | model m => m.lines

def entity? : Part → Option Entity
  | filler _ => none
  | model m => some m.entity

end Part

/-- The text of some parts, one line below the other. -/
def text (parts : List Part) : String :=
  String.ofList (Text.unlines (parts.flatMap Part.lines))

/-- The entities that are written, before their relations are known. -/
def entities (parts : List Part) : List Entity :=
  parts.filterMap Part.entity?

end Written
end SchemaDiagram

/-
# What a schema declares

A schema text is a sequence of blocks. A model block declares an entity with
fields and options; a field whose base type names an entity is a relation to
it. These records are what the reader recovers and every view starts from.

Key definitions: `BlockKind`, `Block`, `Field`, `Relation`, `Heading`, `Entity`,
`baseType`.
Key theorems: `BlockKind.ofWord?_word`, `BlockKind.word_of_ofWord?`.
-/
import SchemaDiagram.Text.Lines

namespace SchemaDiagram

/-- The kinds of block that a schema may declare. -/
inductive BlockKind where
  | datasource
  | generator
  | model
  | enum
  deriving DecidableEq, Repr

namespace BlockKind

/-- The word that opens a block of this kind. -/
def word : BlockKind → String
  | datasource => "datasource"
  | generator => "generator"
  | model => "model"
  | enum => "enum"

/-- The kind that a word opens; no other word opens a block. -/
def ofWord? (w : String) : Option BlockKind :=
  [datasource, generator, model, enum].find? fun k => k.word = w

theorem ofWord?_word (k : BlockKind) : ofWord? k.word = some k := by
  cases k <;> decide

theorem word_of_ofWord? {w : String} {k : BlockKind} (h : ofWord? w = some k) : k.word = w := by
  simpa using List.find?_some h

end BlockKind

/-- A top-level declaration between braces; the body lines are kept as written. -/
structure Block where
  kind : BlockKind
  name : String
  body : List String
  deriving DecidableEq, Repr

/-- A type expression without its list and optional marks. -/
def baseType (type : String) : String :=
  String.ofList (type.toList.filter fun c => c ≠ '[' && c ≠ ']' && c ≠ '?')

/-- The type expression is marked as a list. -/
def marksList (type : String) : Bool :=
  Text.contains ['[', ']'] type.toList

/-- The type expression is marked as optional. -/
def marksOptional (type : String) : Bool :=
  type.toList.contains '?'

/-- One field of a model: its name, its type expression, the attributes after
it and the line it was read from. -/
structure Field where
  name : String
  type : String
  attributes : List String
  raw : String
  isRelation : Bool
  deriving DecidableEq, Repr

namespace Field

def baseType (f : Field) : String := SchemaDiagram.baseType f.type

def isList (f : Field) : Bool := marksList f.type

def isNullable (f : Field) : Bool := marksOptional f.type

end Field

/-- A field seen as a link to the entity that its base type names. -/
structure Relation where
  field : String
  target : String
  type : String
  deriving DecidableEq, Repr

namespace Relation

def isList (r : Relation) : Bool := marksList r.type

/-- A list is never optional: it may be empty. -/
def isOptional (r : Relation) : Bool := marksOptional r.type && !marksList r.type

end Relation

/-- What a block declares, and as what. -/
structure Heading where
  name : String
  kind : BlockKind
  deriving DecidableEq, Repr

/-- A name alone is that of a model. -/
instance : Coe String Heading := ⟨fun name => ⟨name, .model⟩⟩

/-- What a block declares with its fields, its option lines and its relations. -/
structure Entity extends Heading where
  fields : List Field
  options : List String
  relations : List Relation
  deriving DecidableEq, Repr

end SchemaDiagram

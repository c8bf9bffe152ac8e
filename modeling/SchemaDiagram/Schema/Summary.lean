/-
# The summary of a schema

Counts of lines, blocks of each kind, fields, options and relations, and the
model with the most fields; of several such models the one declared first.

Key definitions: `Summary`, `Summary.of`, `Summary.items`, `ranked`, `largest?`.
-/
import SchemaDiagram.Schema.Basic

namespace SchemaDiagram

/-- The figures shown for a schema. -/
structure Summary where
  lines : Int
  models : Nat
  enums : Nat
  generators : Nat
  datasources : Nat
  fields : Nat
  options : Nat
  relations : Nat
  largest : Option Entity
  deriving DecidableEq, Repr

/-- The first entity has as many fields as the second one, or more. -/
def outranks (a b : Entity) : Bool :=
  decide (b.fields.length ≤ a.fields.length)

/-- The entities in the reverse order of their numbers of fields; those with as many fields
as each other stay in order. -/
def ranked (es : List Entity) : List Entity :=
  es.mergeSort outranks

/-- The entity with the most fields. -/
def largest? (es : List Entity) : Option Entity :=
  (ranked es).head?

/-- A cell of an information panel or a table. -/
inductive Cell where
  | number (n : Int)
  | text (s : String)
  deriving DecidableEq, Repr

namespace Summary

/-- A count of each entity, summed up. -/
def total (count : Entity → Nat) : List Entity → Nat
  | [] => 0
  | e :: es => count e + total count es

/-- The figures for the given block kinds and entities. -/
def of (kinds : List BlockKind) (entities : List Entity) (lines : Int) : Summary where
  lines := lines
  models := entities.length
  enums := kinds.count .enum
  generators := kinds.count .generator
  datasources := kinds.count .datasource
  fields := total (·.fields.length) entities
  options := total (·.options.length) entities
  relations := total (·.relations.length) entities
  largest := largest? entities

/-- The name of the largest model with its field count. -/
def largestText (s : Summary) : String :=
  match s.largest with
  | none => "n/a"
  | some e => e.name ++ " (" ++ toString e.fields.length ++ " fields)"

/-- The labelled figures in the order of the panel. -/
def items (s : Summary) : List (String × Cell) :=
  [("Lines", .number s.lines),
   ("Models", .number s.models),
   ("Enums", .number s.enums),
   ("Datasources", .number s.datasources),
   ("Generators", .number s.generators),
   ("Fields", .number s.fields),
   ("Model Options", .number s.options),
   ("Relations", .number s.relations),
   ("Largest Model", .text s.largestText)]

end Summary
end SchemaDiagram

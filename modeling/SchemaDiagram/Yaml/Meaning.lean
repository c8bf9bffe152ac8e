/-
# What YAML nodes stand for

Only when all of a document follows the grammar are its nodes given values. A
node is looked at once, however often it stands in the document, and a
collection before what stands in it: level by level, so of several faults the
outermost is found first. A mapping takes over the entries of the mappings under
its merge keys, in front of its own.

Key definitions: `Yaml.Meaning`, `Yaml.Survey`, `Survey.visit`,
`Survey.takeOver`, `Survey.expand`, `Graph.meanings`, `Graph.value`.
-/
import SchemaDiagram.Value.Members
import SchemaDiagram.Yaml.Node
import SchemaDiagram.Yaml.Scalar

namespace SchemaDiagram
namespace Yaml

/-- What a node stands for; the parts of a collection are nodes. -/
inductive Meaning where
  | value (v : Value)
  /-- A collection whose parts have not been looked at. -/
  | collection
  | list (items : List Nat)
  | set (items : List Nat)
  | mapping (entries : List (Nat × Nat))
  | pairs (entries : List (Nat × Nat))

/-- Only what is no collection can be a key. -/
def Meaning.isKey : Meaning → Bool
  | value _ => true
  | _ => false

/-- What is known of the nodes of a document. -/
structure Survey where
  nodes : Array Node
  meanings : Array (Option Meaning)
  /-- The collections that are to be looked into, the last first. -/
  waiting : List Nat

/-- An activity that finds out what nodes stand for. -/
abbrev Surveying := StateT Survey Reading

namespace Survey

/-- The node under a number. -/
def node (s : Survey) (n : Nat) : Node :=
  s.nodes[n]?.getD .empty

/-- What is known of a node. -/
def meaning? (s : Survey) (n : Nat) : Option Meaning :=
  s.meanings[n]?.join

/-- The entries of a mapping. -/
def entriesOf (s : Survey) (n : Nat) : List (Nat × Nat) :=
  match (s.node n).content with
  | .mapping es => es
  | _ => []

/-- The node is a mapping. -/
def isMapping (s : Survey) (n : Nat) : Bool :=
  match (s.node n).content with
  | .mapping _ => true
  | _ => false

/-- The text of a scalar, or of a mapping that has one under its content key. -/
def textOf (s : Survey) : Nat → Nat → Reading LooseText
  | 0, _ => .error .tooDeep
  | fuel + 1, n =>
    match (s.node n).content with
    | .scalar t => .ok t
    | .sequence _ => .error .malformed
    | .mapping es =>
      match es.find? fun e => (s.node e.1).tag = .content with
      | some e => s.textOf fuel e.2
      | none => .error .malformed

/-- It is found out what a node stands for. -/
def know (n : Nat) (m : Meaning) : Surveying Unit :=
  modify fun s => { s with meanings := s.meanings.setIfInBounds n (some m) }

/-- A node is looked at, unless it has been: a scalar gets its value, and a
collection waits. -/
def visit (n : Nat) : Surveying Unit := do
  let s ← get
  if (s.meaning? n).isSome then return
  let node := s.node n
  if node.tag ∈ [.sequence, .mapping, .set, .orderedMapping, .pairs] then
    know n .collection
    modify fun s => { s with waiting := n :: s.waiting }
  else
    let t ← s.textOf (s.nodes.size + 1) n
    if node.tag = .time && s.isMapping n then throw (.scalar .timeOfMapping)
    know n (.value (← node.tag.valueOf t))

/-- The nodes under the keys and values of entries are looked at. -/
def visitEntries (es : List (Nat × Nat)) : Surveying Unit :=
  es.forM fun e => do
    visit e.1
    if !((← get).meaning? e.1).any (·.isKey) then throw .malformed
    visit e.2

/-- The node under a number is replaced. -/
def setNode (n : Nat) (node : Node) : Surveying Unit :=
  modify fun s => { s with nodes := s.nodes.setIfInBounds n node }

/-- Keys of content are texts. -/
def settleContentKeys (es : List (Nat × Nat)) : Surveying Unit :=
  es.forM fun e => do
    let node := (← get).node e.1
    if node.tag = .content then setNode e.1 { node with tag := .text }

/-- The entries of a mapping are replaced. -/
def setEntries (n : Nat) (es : List (Nat × Nat)) : Surveying Unit := do
  setNode n { (← get).node n with content := .mapping es }

/-- A mapping takes over what stands under its merge keys: the entries of a
mapping, or of all mappings in a sequence, the last one first. -/
def takeOver : Nat → Nat → Surveying Unit
  | 0, _ => throw .tooDeep
  | fuel + 1, n => do
    let s ← get
    let es := s.entriesOf n
    settleContentKeys es
    let isMerge (e : Nat × Nat) : Bool := (s.node e.1).tag = .merge
    let merges := es.filter isMerge
    if merges.isEmpty then return
    setEntries n (es.filter fun e => !isMerge e)
    let taken ← merges.mapM fun e => do
      let offered ← match ((← get).node e.2).content with
        | .mapping _ => pure [e.2]
        | .sequence items => pure items
        | .scalar _ => throw .malformed
      let parts ← offered.mapM fun m => do
        if !(← get).isMapping m then throw .malformed
        takeOver fuel m
        return (← get).entriesOf m
      return parts.reverse.flatten
    setEntries n (taken.flatten ++ (← get).entriesOf n)

/-- The entry of a mapping that has one only. -/
def singleEntry (n : Nat) : Surveying (Nat × Nat) := do
  match ((← get).node n).content with
  | .mapping [e] => return e
  | _ => throw .malformed

/-- The entries of a mapping with all that it takes over are looked at. -/
def mappingEntries (n : Nat) : Surveying (List (Nat × Nat)) := do
  takeOver ((← get).nodes.size + 1) n
  let es := (← get).entriesOf n
  visitEntries es
  return es

/-- A collection is looked into. -/
def expand (n : Nat) : Surveying Unit := do
  let node := (← get).node n
  match node.tag, node.content with
  | .sequence, .sequence items =>
    items.forM visit
    know n (.list items)
  | .mapping, .mapping _ => know n (.mapping (← mappingEntries n))
  | .set, .mapping _ => know n (.set ((← mappingEntries n).map (·.1)))
  | .orderedMapping, .sequence items | .pairs, .sequence items =>
    let es ← items.mapM fun item => do
      let e ← singleEntry item
      visit e.1
      visit e.2
      return e
    know n (.pairs es)
  | _, _ => throw .malformed

/-- The waiting collections are looked into, then those that wait by then, until
none does. -/
def rounds : Nat → Surveying Unit
  | 0 => return
  | fuel + 1 => do
    let waiting := (← get).waiting
    if waiting.isEmpty then return
    modify fun s => { s with waiting := [] }
    waiting.reverse.forM expand
    rounds fuel

end Survey

/-- What the nodes of a document stand for that can be reached from its top. -/
def Graph.meanings (g : Graph) : Reading (Array (Option Meaning)) := do
  let start : Survey := ⟨g.nodes, Array.replicate g.nodes.size none, []⟩
  let look : Surveying Unit := do
    Survey.visit g.top
    Survey.rounds (g.nodes.size + 1)
  let (_, s) ← look.run start
  return s.meanings

/-- The value of a node, if those of the nodes in it are known; one that encloses
it is not. -/
def Meaning.valueIn (known : Array (Option Value)) : Meaning → Value
  | value v => v
  | collection => .enclosing
  | list items => .list (items.map look)
  | set items => .set (Value.members (items.map look))
  | mapping es => .mapping (es.map fun e => (look e.1, look e.2))
  | pairs es => .list (es.map fun e => .list [look e.1, look e.2])
where
  look (n : Nat) : Value := known[n]?.join.getD .enclosing

/-- The value of a document. -/
def Graph.value (g : Graph) : Reading Value := do
  let meanings ← g.meanings
  let known := g.order.foldl
    (fun known n => known.setIfInBounds n (meanings[n]?.join.map (·.valueIn known)))
    (Array.replicate g.nodes.size none)
  return known[g.top]?.join.getD .null

end Yaml
end SchemaDiagram

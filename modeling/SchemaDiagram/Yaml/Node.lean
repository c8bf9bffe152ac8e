/-
# The nodes of a YAML document

The tokens of a document make up a graph of nodes: scalars, sequences and
mappings. An alias is the node under its anchor once more, so a collection can
stand at several places, and even inside itself.

Key definitions: `Yaml.Content`, `Yaml.Node`, `Yaml.Graph`, `Yaml.Drafting`,
`Drafting.node`, `Graph.ofTokens`.
-/
import SchemaDiagram.Yaml.Tag
import SchemaDiagram.Yaml.Token

namespace SchemaDiagram
namespace Yaml

/-- What a node holds; other nodes stand in it by their numbers. -/
inductive Content where
  | scalar (t : LooseText)
  | sequence (items : List Nat)
  | mapping (entries : List (Nat × Nat))
  deriving DecidableEq, Repr

/-- A node: its kind and what it holds. -/
structure Node where
  tag : Tag
  content : Content
  deriving DecidableEq, Repr

namespace Node

/-- A node for which nothing is written. -/
def empty : Node := ⟨.null, .scalar ""⟩

instance : Inhabited Node := ⟨empty⟩

end Node

/-- The nodes of a document under their numbers. A node comes in the order after
those in it, but for the ones that enclose it. -/
structure Graph where
  nodes : Array Node
  order : List Nat
  top : Nat
  deriving Repr

/-- The node under a number. -/
def Graph.node (g : Graph) (n : Nat) : Node :=
  g.nodes[n]?.getD .empty

/-- What is read of a document, and what is ahead. -/
structure Draft where
  tokens : List Token
  /-- What is met after the last token. -/
  fault : Option DocumentFault
  /-- What the handles of tags stand for. -/
  handles : List (String × String)
  anchors : List (String × Nat)
  /-- The number of nodes that have been started. -/
  count : Nat
  /-- The nodes that are complete, the last first. -/
  complete : List (Nat × Node)
  deriving Repr

/-- An activity that reads a document. -/
abbrev Drafting := StateT Draft Reading

namespace Drafting

/-- The handles that every document knows. -/
def knownHandles : List (String × String) :=
  [("!", "!"), ("!!", Tag.stem)]

/-- The deepest that collections may stand inside each other. -/
def deepest : Nat := 488

/-- The token here. -/
def peek : Drafting Token := do
  let d ← get
  match d.tokens with
  | t :: _ => return t
  | [] => throw (d.fault.getD .malformed)

/-- The token here is passed. -/
def drop : Drafting Unit :=
  modify fun d => { d with tokens := d.tokens.drop 1 }

/-- The number of a new node. -/
def fresh : Drafting Nat :=
  modifyGet fun d => (d.count, { d with count := d.count + 1 })

/-- A node is complete. -/
def complete (n : Nat) (node : Node) : Drafting Unit :=
  modify fun d => { d with complete := (n, node) :: d.complete }

/-- A node for which nothing is written. -/
def nothing : Drafting Nat := do
  let n ← fresh
  complete n .empty
  return n

/-- An anchor is set on a node; none is set twice. -/
def setAnchor (anchor : Option String) (n : Nat) : Drafting Unit := do
  match anchor with
  | none => return
  | some name =>
    if (← get).anchors.any (·.1 = name) then throw .malformed
    modify fun d => { d with anchors := (name, n) :: d.anchors }

/-- The whole name of a tag. -/
def tagName (handle : Option String) (suffix : String) : Drafting String := do
  match handle with
  | none => return suffix
  | some h =>
    match (← get).handles.find? (·.1 = h) with
    | some e => return e.2 ++ suffix
    | none => throw .malformed

/-- The anchor and the tag here, in either order. -/
def marks : Drafting (Option String × Option String) := do
  match ← peek with
  | .anchor a =>
    drop
    match ← peek with
    | .tag handle suffix =>
      drop
      return (some a, some (← tagName handle suffix))
    | _ => return (some a, none)
  | .tag handle suffix =>
    drop
    match ← peek with
    | .anchor a =>
      drop
      return (some a, some (← tagName handle suffix))
    | _ => return (none, some (← tagName handle suffix))
  | _ => return (none, none)

/-- A tag that leaves the kind to the form. -/
def isOpen (name : Option String) : Bool :=
  name.all (· = "!")

/-- The kind of a scalar: by its tag, or by its form if it is plain or has an open
tag. -/
def scalarTag (name : Option String) (isPlain : Bool) (t : LooseText) : Tag :=
  if name = some "!" || (name.isNone && isPlain) then (t.chars?.map Tag.ofPlain).getD .text
  else (name.map Tag.ofName).getD .text

/-- The kind of a collection: by its tag, or that of most. -/
def collectionTag (name : Option String) (common : Tag) : Tag :=
  if isOpen name then common else (name.map Tag.ofName).getD common

/-- A scalar. -/
def leaf (anchor : Option String) (node : Node) : Drafting Nat := do
  let n ← fresh
  setAnchor anchor n
  complete n node
  return n

/-- A collection with its parts, which stand one level below the limit. -/
def collection (anchor : Option String) (tag : Tag) (depth : Nat) (parts : Drafting Content) :
    Drafting Nat := do
  if depth = 0 then throw .tooDeep
  let n ← fresh
  setAnchor anchor n
  complete n ⟨tag, ← parts⟩
  return n

/-- A token that ends a part of a block mapping. -/
def endsBlockPart (t : Token) : Bool :=
  t = .key || t = .value || t = .blockEnd

mutual

/-- The node here. `block` says that it may be a block collection, `loose` that a
sequence in it may start without being indented; `depth` is the number of levels
that are left. -/
def node (block loose : Bool) : Nat → Nat → Drafting Nat
  | 0, _ => throw .malformed
  | fuel + 1, depth => do
    match ← peek with
    | .again name =>
      drop
      match (← get).anchors.find? (·.1 = name) with
      | some a => return a.2
      | none => throw .malformed
    | _ =>
      let (anchor, name) ← marks
      match ← peek with
      | .scalar t isPlain =>
        drop
        leaf anchor ⟨scalarTag name isPlain t, .scalar t⟩
      | .openSequence =>
        collection anchor (collectionTag name .sequence) depth
          (.sequence <$> (drop *> flowItems true fuel (depth - 1) []))
      | .openMapping =>
        collection anchor (collectionTag name .mapping) depth
          (.mapping <$> (drop *> flowEntries true fuel (depth - 1) []))
      | .blockSequence =>
        if !block then throw .malformed
        collection anchor (collectionTag name .sequence) depth
          (.sequence <$> (drop *> blockItems fuel (depth - 1) []))
      | .blockMapping =>
        if !block then throw .malformed
        collection anchor (collectionTag name .mapping) depth
          (.mapping <$> (drop *> blockEntries fuel (depth - 1) []))
      | t =>
        if loose && t = .item then
          collection anchor (collectionTag name .sequence) depth
            (.sequence <$> looseItems fuel (depth - 1) [])
        else if anchor.isSome || name.isSome then
          leaf anchor ⟨if isOpen name then .null else (name.map Tag.ofName).getD .null, .scalar ""⟩
        else throw .malformed
termination_by structural fuel => fuel

/-- A key and its value after the mark of a key; either can be left out before a
token that ends it. -/
def pair (block : Bool) (ends : Token → Bool) : Nat → Nat → Drafting (Nat × Nat)
  | 0, _ => throw .malformed
  | fuel + 1, depth => do
    let t ← peek
    let k ← if t = .value || ends t then nothing else node block block fuel depth
    if (← peek) = .value then
      drop
      let v ← if ends (← peek) then nothing else node block block fuel depth
      return (k, v)
    else return (k, ← nothing)
termination_by structural fuel => fuel

/-- The items of a block sequence after the given ones. -/
def blockItems : Nat → Nat → List Nat → Drafting (List Nat)
  | 0, _, _ => throw .malformed
  | fuel + 1, depth, done => do
    match ← peek with
    | .item =>
      drop
      let t ← peek
      let n ← if t = .item || t = .blockEnd then nothing else node true false fuel depth
      blockItems fuel depth (n :: done)
    | .blockEnd =>
      drop
      return done.reverse
    | _ => throw .malformed
termination_by structural fuel => fuel

/-- The items of a sequence that is not indented, after the given ones. -/
def looseItems : Nat → Nat → List Nat → Drafting (List Nat)
  | 0, _, _ => throw .malformed
  | fuel + 1, depth, done => do
    if (← peek) = .item then
      drop
      let t ← peek
      let n ← if t = .item || endsBlockPart t then nothing else node true false fuel depth
      looseItems fuel depth (n :: done)
    else return done.reverse
termination_by structural fuel => fuel

/-- The entries of a block mapping after the given ones. -/
def blockEntries : Nat → Nat → List (Nat × Nat) → Drafting (List (Nat × Nat))
  | 0, _, _ => throw .malformed
  | fuel + 1, depth, done => do
    match ← peek with
    | .key =>
      drop
      let e ← pair true endsBlockPart fuel depth
      blockEntries fuel depth (e :: done)
    | .blockEnd =>
      drop
      return done.reverse
    | _ => throw .malformed
termination_by structural fuel => fuel

/-- The items of a sequence in brackets after the given ones. A key with its value
is a mapping of its own. -/
def flowItems (first : Bool) : Nat → Nat → List Nat → Drafting (List Nat)
  | 0, _, _ => throw .malformed
  | fuel + 1, depth, done => do
    if !first && (← peek) = .comma then drop
    else if !first && (← peek) ≠ .closeSequence then throw .malformed
    match ← peek with
    | .closeSequence =>
      drop
      return done.reverse
    | .key =>
      let n ← collection none .mapping depth do
        drop
        let e ← pair false (fun t => t = .comma || t = .closeSequence) fuel (depth - 1)
        return .mapping [e]
      flowItems false fuel depth (n :: done)
    | _ =>
      let n ← node false false fuel depth
      flowItems false fuel depth (n :: done)
termination_by structural fuel => fuel

/-- The entries of a mapping in brackets after the given ones. -/
def flowEntries (first : Bool) : Nat → Nat → List (Nat × Nat) → Drafting (List (Nat × Nat))
  | 0, _, _ => throw .malformed
  | fuel + 1, depth, done => do
    if !first && (← peek) = .comma then drop
    else if !first && (← peek) ≠ .closeMapping then throw .malformed
    match ← peek with
    | .closeMapping =>
      drop
      return done.reverse
    | .key =>
      drop
      let e ← pair false (fun t => t = .comma || t = .closeMapping) fuel depth
      flowEntries false fuel depth (e :: done)
    | _ =>
      let k ← node false false fuel depth
      let v ← nothing
      flowEntries false fuel depth ((k, v) :: done)
termination_by structural fuel => fuel

end

/-- The lines before a document, of which the version and some handles are known;
neither is stated twice. -/
def directives (versioned : Bool) (handles : List (String × String)) :
    Nat → Drafting (List (String × String))
  | 0 => throw .malformed
  | fuel + 1 => do
    match ← peek with
    | .directive d =>
      drop
      match d with
      | .version major =>
        if versioned || major ≠ 1 then throw .malformed
        directives true handles fuel
      | .handle name stem =>
        if handles.any (·.1 = name) then throw .malformed
        directives versioned ((name, stem) :: handles) fuel
      | .other => directives versioned handles fuel
    | _ => return handles ++ knownHandles

/-- The end lines here are passed. -/
def dropEnds : Drafting Unit :=
  modify fun d => { d with tokens := d.tokens.dropWhile (· = .documentEnd) }

/-- Nothing of a document stands at this token. -/
def isBoundary : Token → Bool
  | .directive _ => true
  | t => t = .documentStart || t = .documentEnd || t = .textEnd

/-- The top node of the only document, if there is one. -/
def document (fuel : Nat) : Drafting (Option Nat) := do
  match ← peek with
  | .textEnd => return none
  | t =>
    let top ←
      if isBoundary t && t ≠ .documentEnd then do
        let handles ← directives false [] fuel
        if (← peek) ≠ .documentStart then throw .malformed
        drop
        modify fun d => { d with handles := handles }
        if isBoundary (← peek) then nothing else node true false fuel deepest
      else node true false fuel deepest
    dropEnds
    if (← peek) ≠ .textEnd then
      let _ ← directives false [] fuel
      throw .malformed
    return some top

end Drafting

/-- The graph of the nodes that are complete. -/
def Graph.ofDraft (d : Draft) (top : Nat) : Graph :=
  ⟨d.complete.foldl (fun nodes e => nodes.setIfInBounds e.1 e.2) (Array.replicate d.count .empty),
    (d.complete.map (·.1)).reverse, top⟩

/-- The graph of the only document that tokens make up; there may be none. -/
def Graph.ofTokens (r : TokenRun) : Reading (Option Graph) := do
  let start : Draft := ⟨r.tokens, r.fault, Drafting.knownHandles, [], 0, []⟩
  let (top, d) ← (Drafting.document (4 * r.tokens.length + 8)).run start
  return top.map (Graph.ofDraft d)

end Yaml
end SchemaDiagram

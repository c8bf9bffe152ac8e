/-
# Networks

A network is drawn by adding nodes and links one after the other. A node whose
identifier exists is not added again; a link between two nodes that are joined
already, in either direction, is not added; a link to a node that does not
exist is a fault. No call changes what was added before.

Key definitions: `NetworkNode`, `NetworkLink`, `Network`, `Draw`,
`Network.add`, `Network.drawAll`.
-/

namespace SchemaDiagram

/-- How a node looks: a box of fixed width around its label, or the label alone. -/
inductive NodeLook (α : Type) where
  | box (width : α)
  | label
  deriving DecidableEq, Repr

/-- A node with the place of its middle. -/
structure NetworkNode (α : Type) where
  id : String
  label : String
  title : String
  x : α
  y : α
  look : NodeLook α
  deriving DecidableEq, Repr

/-- How a link looks: a labelled curve with an identifier, or a dashed line. -/
inductive LinkLook where
  | curve (id label : String)
  | dashes
  deriving DecidableEq, Repr

/-- A link between two nodes. -/
structure NetworkLink where
  source : String
  target : String
  look : LinkLook
  deriving DecidableEq, Repr

/-- What has been added so far. -/
structure Network (α : Type) where
  nodes : List (NetworkNode α)
  links : List NetworkLink
  deriving DecidableEq, Repr

/-- A call that adds to a network. -/
inductive Draw (α : Type) where
  | node (n : NetworkNode α)
  | link (l : NetworkLink)
  deriving DecidableEq, Repr

namespace Network

variable {α : Type}

/-- The empty network. -/
def empty : Network α := ⟨[], []⟩

/-- A node with the identifier exists. -/
def hasNode (g : Network α) (id : String) : Bool :=
  g.nodes.any fun n => n.id == id

/-- A link joins the two nodes, in either direction. -/
def joins (g : Network α) (a b : String) : Bool :=
  g.links.any fun l => (l.source == a && l.target == b) || (l.source == b && l.target == a)

/-- The network after a call; none if an end of a link does not exist. -/
def add (g : Network α) : Draw α → Option (Network α)
  | .node n => some (if g.hasNode n.id then g else { g with nodes := g.nodes ++ [n] })
  | .link l =>
    if g.hasNode l.source && g.hasNode l.target then
      some (if g.joins l.source l.target then g else { g with links := g.links ++ [l] })
    else none

/-- The network after all calls; a call with a missing end is passed over. -/
def drawAll (g : Network α) (ds : List (Draw α)) : Network α :=
  ds.foldl (fun g d => (g.add d).getD g) g

/-- No call of a list lacks an end when its turn comes. -/
def accepts (g : Network α) : List (Draw α) → Bool
  | [] => true
  | d :: ds =>
    match g.add d with
    | none => false
    | some h => h.accepts ds

end Network
end SchemaDiagram

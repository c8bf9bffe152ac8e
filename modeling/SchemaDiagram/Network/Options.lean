/-
# The options of a drawn network

The network is handed over to be drawn as one record of options for each node
and each link. The colours come from the theme; the text of every node has the
colour of the theme's text, and a node without a fill of its own has a plain
blue one.

Key definitions: `NetworkNode.options`, `NetworkLink.options`,
`Drawing.options`.
-/
import SchemaDiagram.Network.Drawing
import SchemaDiagram.Value.Basic

namespace SchemaDiagram

/-- A record of options. -/
def Value.record (fields : List (String × Value)) : Value :=
  .mapping (fields.map fun f => (.text f.1, f.2))

/-- The fill of a node that names none. -/
def plainFill : String := "#97c2fc"

/-- The options that depend on the look of a node. -/
def NodeLook.options (t : Theme) : NodeLook Float → List (String × Value)
  | .box width =>
    [("shape", .text "box"),
     ("color", .record [("background", .text t.nodeFill), ("border", .text t.nodeBorder),
        ("highlight", .record [("background", .text t.nodeFill), ("border", .text t.nodeHighlight)])]),
     ("widthConstraint", .record [("minimum", .real width), ("maximum", .real width)])]
  | .label => [("shape", .text "text"), ("color", .text plainFill)]

/-- The options of a node. -/
def NetworkNode.options (t : Theme) (n : NetworkNode Float) : Value :=
  .record ([("id", .text n.id), ("label", .text n.label), ("title", .text n.title),
    ("x", .real n.x), ("y", .real n.y), ("physics", .bool false),
    ("font", .record [("color", .text t.foreground)])] ++ n.look.options t)

/-- The options that depend on the look of a link. -/
def LinkLook.options (t : Theme) : LinkLook → List (String × Value)
  | .curve id label =>
    [("id", .text id), ("label", .text label),
     ("color", .record [("color", .text t.edge), ("opacity", .real 0.7)]),
     ("smooth", .record [("type", .text "cubicBezier"), ("forceDirection", .text "horizontal")]),
     ("font", .record [("color", .text t.muted), ("size", .int 11), ("face", .text "JetBrains Mono"),
        ("strokeWidth", .int 3), ("strokeColor", .text t.background)])]
  | .dashes =>
    [("dashes", .list [.int 6, .int 5]),
     ("color", .record [("color", .text t.edge), ("opacity", .real 0.8)]),
     ("smooth", .bool false)]

/-- The options of a link. -/
def NetworkLink.options (t : Theme) (l : NetworkLink) : Value :=
  .record ([("from", .text l.source), ("to", .text l.target)] ++ l.look.options t)

/-- The options of the nodes and of the links, in the order in which they were added. -/
def Drawing.options (d : Drawing) : List Value × List Value :=
  (d.network.nodes.map (·.options d.theme), d.network.links.map (·.options d.theme))

end SchemaDiagram

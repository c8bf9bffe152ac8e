/-
# Drawing a scene as a network

Every node of a scene becomes a box around its middle, every edge a labelled
curve, and every stub a label beside its entity, joined to it by a dashed line.
The drawing has the height of the window in whole units and starts with the
camera where the session has it.

Key definitions: `Scene.draws`, `Drawing`, `Drawing.ofScene`,
`Drawing.moveLine`.
-/
import SchemaDiagram.Decimal.Whole
import SchemaDiagram.Network.Basic
import SchemaDiagram.Network.Theme
import SchemaDiagram.Session.Basic

namespace SchemaDiagram

section

variable {α : Type} [Scalar α]

/-- The node of a drawn entity. -/
def Node.network (n : Node α) : NetworkNode α :=
  ⟨n.name, n.label, n.name, n.box.x + n.box.width / 2.0, n.box.y + n.box.height / 2.0,
    .box n.box.width⟩

/-- The link of an edge. -/
def Edge.network (e : Edge α) : NetworkLink :=
  ⟨e.source, e.target, .curve e.key e.label⟩

/-- The identifier of the node that stands for the target of a stub. -/
def Stub.ghost (s : Stub α) : String := "stub::" ++ s.key

/-- The calls that draw a stub. -/
def Stub.draws (s : Stub α) : List (Draw α) :=
  let p := s.linkPosition
  [.node ⟨s.ghost, s.label, s.source ++ "." ++ s.field ++ " → " ++ s.target, p.x + 40.0,
    p.y + 10.0, .label⟩,
   .link ⟨s.source, s.ghost, .dashes⟩]

/-- The calls that draw a scene. -/
def Scene.draws (s : Scene α) : List (Draw α) :=
  s.nodes.map (fun n => .node n.network) ++ s.edges.map (fun e => .link e.network) ++
    s.stubs.flatMap Stub.draws

end

/-- A drawn network: where the camera looks at first, how high the drawing is,
and its theme. -/
structure Drawing where
  network : Network Float
  center : Point Float
  scale : Float
  height : Int
  theme : Theme

namespace Drawing

/-- The height of a window in whole units. -/
def wholeHeight (height : Float) : Except Fault Int :=
  match wholePart height with
  | .ok n => .ok n
  | .error .infinite => .error .infiniteLength
  | .error _ => .error .undefinedLength

/-- The drawing of a scene of a session. -/
def ofScene (s : Session Float) (scene : Scene Float) (isDark : Bool) : Except Fault Drawing := do
  let center ← s.center
  let height ← wholeHeight s.window.height
  return ⟨Network.empty.drawAll scene.draws, center, s.view.camera.scale, height, .of isDark⟩

/-- The command that moves the camera to its place. -/
def moveLine (d : Drawing) : String :=
  "network.moveTo(\x7bposition: \x7b\"x\": " ++ NumberFormat.strict.render d.center.x ++
    ", \"y\": " ++ NumberFormat.strict.render d.center.y ++ "\x7d, scale: " ++
    NumberFormat.plain.render d.scale ++ "\x7d);"

/-- The height as a length of the page. -/
def heightText (d : Drawing) : String :=
  toString d.height ++ "px"

end Drawing
end SchemaDiagram

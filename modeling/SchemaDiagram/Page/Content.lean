/-
# The content of the page

Beside the sidebar stand the status line, the figures of the schema and three
tabs: the diagram with its controls, the tables of the schema, and the
relations between the selected entities.

Key definitions: `relationsTable`, `Content.diagram`, `Content.details`,
`Content.relations`, `Content.draft`.
-/
import SchemaDiagram.Page.Sidebar

namespace SchemaDiagram

/-- One row for each edge of a route and then for each stub. -/
def relationsTable (r : Route Float) : Table :=
  let column (title : String) (ofEdge : Edge Float → String) (ofStub : Stub Float → String) :=
    (title, (r.edges.map fun e => Cell.text (ofEdge e)) ++ r.stubs.map fun s => .text (ofStub s))
  ⟨[column "From" (·.source) (fun s => s.source ++ "." ++ s.field),
    column "To" (·.target) (·.target),
    column "Cardinality" (·.label) (fun _ => ""),
    column "Shown" (fun _ => "✓") (fun _ => "")]⟩

namespace Content
open Draft

/-- A notice in place of something that is not there yet. -/
def absence (indent icon title : String) (advice : Option String) : String :=
  "<div class=\"empty-state\">\n" ++
  indent ++ "  <div class=\"icon\">" ++ icon ++ "</div>\n" ++
  indent ++ "  <h3>" ++ title ++ "</h3>\n" ++
  (match advice with
    | none => ""
    | some a => indent ++ "  <p>" ++ a ++ "</p>\n") ++
  indent ++ "</div>"

/-- A figure of the schema as text. -/
def cellText : Cell → String
  | .number n => toString n
  | .text s => s

/-- The figures of the schema. -/
def figures (s : Summary) : String :=
  let item (i : String × Cell) :=
    "<div class=\"info-item\"><span class=\"label\">" ++ i.1 ++ "</span><span class=\"value\">" ++
      cellText i.2 ++ "</span></div>"
  "<div class=\"info-grid\">" ++ String.join (s.items.map item) ++ "</div>"

/-- The status line. -/
def status : Draft Unit := do
  let s := (← get).session.status
  if s.isError then draw [] (.error s.message)
  else markdown [] ("<div class=\"status\">" ++ s.message ++ "</div>")

/-- What the user can do with the diagram. -/
def hint : String :=
  "drag to move nodes · scroll to zoom · dashed links point at hidden models · " ++
  "dragged positions are not kept after the next interaction"

/-- The buttons that move the camera. -/
def cameraButtons (place : List Region) : Draft Unit := do
  let window := (← get).session.window
  let middle : Point Float := ⟨window.width / 2.0, window.height / 2.0⟩
  if ← button (place ++ [.column 0 4]) { label := "⊡ Fit" } then effect .fit
  if ← button (place ++ [.column 1 4]) { label := "+ Zoom" } then effect (.wheel middle (-1.0))
  if ← button (place ++ [.column 2 4]) { label := "− Zoom" } then effect (.wheel middle 1.0)

/-- The drawn network; a fault is shown in its place. -/
def network (place : List Region) (scene : Scene Float) : Draft Unit := do
  let v ← get
  match Drawing.ofScene v.session scene v.memory.isDark with
  | .error f => draw place (.error ("Diagram render error: " ++ f.message))
  | .ok d =>
    draw place (.drawing d (d.height + 20))
    markdown place ("<div class=\"erd-hint\">" ++ hint ++ "</div>")

/-- A button for each stub, in four columns, that reveals what it points at. -/
def stubButtons (place : List Region) (stubs : List (Stub Float)) : Draft Unit := do
  if !stubs.isEmpty then
    markdown place (Sidebar.heading "Hidden relations")
    stubs.zipIdx.forM fun (stub, i) => do
      if ← button (place ++ [.column (i % 4) 4])
          { label := stub.label, key := some ("stub_" ++ stub.key)
            help := some (stub.source ++ "." ++ stub.field) } then
        effect (.activate stub)
        restart

/-- The diagram tab. -/
def diagram : Draft Unit := do
  let place : List Region := [.tab "Diagram"]
  if let .scene scene ← perform .scene then
    if scene.isEmpty then
      markdown place
        (absence "        " "◫" "No models selected" (some "Pick models from the selection panel."))
    else
      cameraButtons place
      network place scene
      stubButtons place scene.stubs

/-- The height of a table with so many rows. -/
def tableHeight (rows : Nat) : Nat :=
  min (rows * 35 + 50) 320

/-- The fields of an entity and its options. -/
def entity (schema : Schema) (place : List Region) (e : Entity) : Draft Unit := do
  markdown place ("**" ++ e.name ++ "**")
  match schema.fieldsTable e.name with
  | .error f => throw (.fault f)
  | .ok t => draw place (.table t (some (tableHeight t.height)))
  if !e.options.isEmpty then
    draw place (.code ("\n".intercalate e.options) "text")

/-- The tab of tables. -/
def details (schema : Schema) : Draft Unit := do
  let place : List Region := [.tab "Model Details"]
  draw place (.table schema.entitiesTable none)
  (← get).session.shown.forM (entity schema place)

/-- The tab of relations. -/
def relations : Draft Unit := do
  let place : List Region := [.tab "Relations"]
  let route := (← get).session.route
  if route.edges.isEmpty && route.stubs.isEmpty then
    markdown place (absence "        " "⇌" "No relations between the selected models" none)
  else
    draw place (.table (relationsTable route) none)

/-- Everything beside the sidebar. -/
def draft : Draft Unit := do
  status
  match (← get).session.schema with
  | none =>
    markdown [] (absence "    " "◫" "No schema loaded"
      (some "Upload a .prisma file or load the demo schema from the sidebar."))
    throw .finished
  | some schema =>
    markdown [] (figures schema.summary)
    diagram
    details schema
    relations

end Content
end SchemaDiagram

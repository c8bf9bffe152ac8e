/-
# Sessions

A session is one use of a schema diagram: the schema that is loaded, the canvas
it is drawn on, the size of the window and a status line. A load that succeeds
starts a new canvas; a load that fails leaves everything but the status as it
was.

Key definitions: `Status`, `Session`, `Session.start`, `Session.load`,
`Session.loadFile`, `Session.loadDemo`, `Session.fit`,
`Session.revealNeighbors`, `Session.activate`.
Key theorems: `Session.load_of_error`.
-/
import SchemaDiagram.Canvas.Gesture
import SchemaDiagram.Diagram.Scene
import SchemaDiagram.Schema.RelationGraph
import SchemaDiagram.Session.Demo
import SchemaDiagram.Settings.Basic
import SchemaDiagram.Files.Basic

namespace SchemaDiagram

/-- The last thing said to the user, and whether it was an error. -/
structure Status where
  message : String
  isError : Bool
  deriving DecidableEq, Repr

/-- A reader of schema texts, which may fail with a message. -/
abbrev Reader := String → Except String Schema

/-- The reader that never fails. -/
def Reader.standard : Reader := fun text => .ok (.parse text)

/-- The reader that always fails. -/
def Reader.broken (message : String) : Reader := fun _ => .error message

/-- One use of a schema diagram. -/
structure Session (α : Type) where
  settings : Settings α
  reader : Reader
  schema : Option Schema
  canvas : Canvas α
  window : Extent α
  status : Status

namespace Session

variable {α : Type}

def view (s : Session α) : View α := s.canvas.view

/-- The session with another view. -/
def setView (s : Session α) (v : View α) : Session α :=
  { s with canvas := { s.canvas with view := v } }

/-- The session with another status. -/
def say (s : Session α) (message : String) (isError : Bool) : Session α :=
  { s with status := ⟨message, isError⟩ }

/-- The entity is declared. -/
def knows (s : Session α) (name : String) : Bool :=
  s.schema.any (·.hasEntity name)

/-- The session, unless the entity is unknown. -/
def guard (s : Session α) (name : String) : Except Fault (Session α) :=
  if s.knows name then .ok s else .error (.unknownEntity name)

/-- The selected entities. -/
def shown (s : Session α) : List Entity :=
  shownEntities s.schema s.view

/-- The entities that match the search. -/
def filtered (s : Session α) : List Entity :=
  match s.schema with
  | none => []
  | some m => m.search s.view.query

/-- How many entities are selected and listed. -/
def hint (s : Session α) : String :=
  match s.schema with
  | none => "Load a schema to choose models."
  | some m =>
    if m.entities.isEmpty then "Load a schema to choose models."
    else toString s.view.selected.size ++ " of " ++ toString m.entities.length ++ " selected (" ++
      toString s.filtered.length ++ " shown)"

/-- The search text, without blanks around it. -/
def search (s : Session α) (query : String) : Session α :=
  s.setView { s.view with query := Text.trimString query }

/-- All declared entities selected. -/
def selectAll (s : Session α) : Session α :=
  match s.schema with
  | none => s
  | some m => s.setView (s.view.selectAll m.names)

/-- The neighbours of an entity. -/
def neighbors (s : Session α) (name : String) : Except Fault (List String) :=
  match s.schema with
  | none => .error (.unknownEntity name)
  | some m => m.neighbors name

/-- The neighbours of an entity that are not selected. -/
def hiddenNeighbors (s : Session α) (name : String) : Except Fault (List String) :=
  (s.neighbors name).map fun ns => ns.filter fun n => !s.view.selected.has n

/-- The hidden neighbours of an entity, and the session with them selected. -/
def revealNeighbors (s : Session α) (name : String) : Except Fault (List String × Session α) :=
  (s.hiddenNeighbors name).map fun ns =>
    let t := s.setView (ns.foldl View.select s.view)
    (ns, if ns.isEmpty then t
      else t.say ("Revealed " ++ toString ns.length ++ " related model(s) of " ++ name ++ ".") false)

/-- The path of a schema file, by default the one that the settings name. -/
def schemaPath (s : Session α) (path : String) : Path :=
  if path = "" then s.settings.schemaPath else .parse path

variable [Scalar α]

/-- A session before anything is loaded. -/
def start (settings : Settings α) : Session α :=
  ⟨settings, .standard, none, ⟨.ofBoxes .empty, none⟩, settings.viewport,
    ⟨"Load a schema to begin.", false⟩⟩

/-- The boxes of the selected entities. -/
def shownBoxes (s : Session α) : List (Box α) :=
  s.shown.filterMap fun e => s.view.boxes.find? e.name

/-- The camera fitted to the selected entities; the answer says whether there
were any. -/
def fit (s : Session α) : Except Fault (Bool × Session α) :=
  (Camera.fit s.settings.cameraRule s.shownBoxes s.window).map fun
    | none => (false, s.say "Select at least one model to fit the graph." false)
    | some c => (true, { s with canvas := s.canvas.setCamera c })

/-- The target of a stub revealed and everything framed. If framing fails the
target stays revealed. -/
def activate (s : Session α) (stub : Stub α) : Except Fault Unit × Session α :=
  let t := s.setView (s.view.reveal stub)
  match t.fit with
  | .error f => (.error f, t)
  | .ok (_, u) =>
    (.ok (), u.say ("Revealed related model " ++ stub.target ++ " from " ++ stub.source ++ ".") false)

/-- The route of the current diagram. -/
def route (s : Session α) : Route α :=
  SchemaDiagram.route s.schema s.view

/-- The scene of the current diagram, and the session with its filters on record. -/
def scene (s : Session α) : Scene α × Session α :=
  (SchemaDiagram.scene s.schema s.view, s.setView (keepFilters s.schema s.view))

/-- The pointer moved; when a box moves the answer is the new route. -/
def move (s : Session α) (p : Point α) : Except Fault (Option (Route α) × Session α) :=
  (s.canvas.move p).map fun (moved, c) =>
    let t := { s with canvas := c }
    (moved.map fun _ => t.route, t)

/-- One zoom step; the answer is the new scale. -/
def wheel (s : Session α) (p : Point α) (turn : α) : Except Fault (α × Session α) :=
  (s.view.camera.wheel s.settings.cameraRule p turn).map fun c =>
    (c.scale, { s with canvas := s.canvas.setCamera c })

/-- A drawn height reported; when it changes a box the answer is the new route. -/
def reportHeight (s : Session α) (name : String) (height : α) : Option (Route α) × Session α :=
  let (changed, v) := s.view.reportHeight name height
  let t := s.setView v
  (if changed then some t.route else none, t)

/-- The world point in the middle of the window. -/
def center (s : Session α) : Except Fault (Point α) :=
  s.view.camera.visibleCenter s.window

variable [Sunflower α]

/-- The session with a schema in place of what was loaded. -/
def install (s : Session α) (m : Schema) (label : String) : Session α :=
  let v : View α := .ofBoxes (s.settings.spiral.place m.entities)
  let camera := Camera.centerOn s.settings.cameraRule s.settings.worldCenter
    s.settings.initialScale s.window
  { s with
    schema := some m
    canvas := ⟨{ v with camera := camera }, none⟩
    status := ⟨"Loaded " ++ label ++ ": " ++ toString m.summary.models ++
      " models found. Pick models from the selection panel.", false⟩ }

/-- A schema text read; the answer says whether that succeeded. -/
def load (s : Session α) (text label : String) : Bool × Session α :=
  match s.reader text with
  | .error message => (false, s.say ("Failed to parse schema: " ++ message) true)
  | .ok m => (true, s.install m label)

/-- A schema file read, by default the one that the settings name. A path that
can lead nowhere is a fault. -/
def loadFile (files : Files) (s : Session α) (path : String) : Except Fault Bool × Session α :=
  let p := s.schemaPath path
  let label := p.name.characters
  match files.readText p.text with
  | .error .notEncodable => (.error .pathNotEncodable, s)
  | .error .nullInPath => (.error .nullInPath, s)
  | .error _ =>
    (.ok false, s.say ("Could not load " ++ label ++ " automatically. Use the file picker.") true)
  | .ok text =>
    let (loaded, t) := s.load text label
    (.ok loaded, t)

/-- The demonstration schema loaded, selected and framed. -/
def loadDemo (s : Session α) : Except Fault Bool × Session α :=
  match s.load demoSchema "demo schema" with
  | (false, t) => (.ok false, t)
  | (true, t) =>
    let t := t.selectAll
    match t.fit with
    | .error f => (.error f, t)
    | .ok (_, u) => (.ok true, u)

/-- A load that fails changes the status only. -/
theorem load_of_error {s : Session α} {text label message : String}
    (h : s.reader text = .error message) :
    s.load text label = (false, s.say ("Failed to parse schema: " ++ message) true) := by
  rw [load, h]

end Session
end SchemaDiagram

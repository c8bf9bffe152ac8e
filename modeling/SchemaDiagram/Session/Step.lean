/-
# The operations of a session

Everything that can be asked of a session, as data: an operation is answered
and leads to a new session, whether it succeeds or not. Runs of a session are
lists of operations.

Key definitions: `Op`, `Answer`, `Session.step`, `Session.run`.
Key theorems: `Session.run_append`.
-/
import SchemaDiagram.Session.Basic

namespace SchemaDiagram

/-- What can be asked of a session. -/
inductive Op (α : Type) where
  | load (text label : String)
  | loadFile (path : String)
  | loadDemo
  | setReader (reader : Reader)
  | select (name : String)
  | hide (name : String)
  | toggle (name : String)
  | selectAll
  | clear
  | search (query : String)
  | filtered
  | hint
  | shown
  | setFilter (name : String) (relations others : Option Bool)
  | neighbors (name : String)
  | hiddenNeighbors (name : String)
  | revealNeighbors (name : String)
  | activate (stub : Stub α)
  | resize (window : Extent α)
  | fit
  | center
  | press (at_ : Point α) (entity : Option String) (button : Int)
  | move (at_ : Point α)
  | release
  | wheel (at_ : Point α) (turn : α)
  | reportHeight (name : String) (height : α)
  | route
  | scene

/-- What a session answers. -/
inductive Answer (α : Type) where
  | nothing
  | flag (b : Bool)
  | text (s : String)
  | names (ns : List String)
  | filter (f : FieldFilter)
  | number (x : α)
  | point (p : Point α)
  | route (r : Route α)
  | scene (s : Scene α)

namespace Session

variable {α : Type}

/-- The answer to an operation that leaves the session alone. -/
def asked (s : Session α) (a : Except Fault (Answer α)) : Except Fault (Answer α) × Session α :=
  (a, s)

/-- An operation that changes the session unless it fails. -/
def changed {β : Type} (s : Session α) (answer : β → Answer α) (r : Except Fault (β × Session α)) :
    Except Fault (Answer α) × Session α :=
  match r with
  | .error f => (.error f, s)
  | .ok (b, t) => (.ok (answer b), t)

/-- An operation that answers nothing and cannot fail. -/
def done (s : Session α) : Except Fault (Answer α) × Session α :=
  (.ok .nothing, s)

/-- The answer when an operation gives a route only if something moved. -/
def routeAnswer (r : Option (Route α)) : Answer α :=
  match r with
  | none => .nothing
  | some r => .route r

variable [Scalar α] [Sunflower α]

/-- The answer to an operation and the session after it. -/
def step (files : Files) (s : Session α) : Op α → Except Fault (Answer α) × Session α
  | .load text label =>
    let (loaded, t) := s.load text label
    (.ok (.flag loaded), t)
  | .loadFile path =>
    let (loaded, t) := s.loadFile files path
    (loaded.map .flag, t)
  | .loadDemo =>
    let (loaded, t) := s.loadDemo
    (loaded.map .flag, t)
  | .setReader reader => done { s with reader := reader }
  | .select name =>
    s.changed id ((s.guard name).map fun s => (.nothing, s.setView (s.view.select name)))
  | .hide name => done (s.setView (s.view.deselect name))
  | .toggle name =>
    s.changed .flag ((s.guard name).map fun s =>
      let v := s.view.toggle name
      (v.selected.has name, s.setView v))
  | .selectAll => done s.selectAll
  | .clear => done (s.setView s.view.clearSelection)
  | .search query => done (s.search query)
  | .filtered => s.asked (.ok (.names (s.filtered.map (·.name))))
  | .hint => s.asked (.ok (.text s.hint))
  | .shown => s.asked (.ok (.names (s.shown.map (·.name))))
  | .setFilter name relations others =>
    s.changed .filter ((s.guard name).map fun s =>
      let v := s.view.setFilter name relations others
      (v.filterOf name, s.setView v))
  | .neighbors name => s.asked ((s.neighbors name).map .names)
  | .hiddenNeighbors name => s.asked ((s.hiddenNeighbors name).map .names)
  | .revealNeighbors name => s.changed .names (s.revealNeighbors name)
  | .activate stub =>
    let (r, t) := s.activate stub
    (r.map fun _ => .nothing, t)
  | .resize window => done { s with window := window }
  | .fit => s.changed .flag s.fit
  | .center => s.asked (s.center.map .point)
  | .press at_ entity button => done { s with canvas := s.canvas.press at_ entity button }
  | .move at_ => s.changed routeAnswer (s.move at_)
  | .release => done { s with canvas := s.canvas.release }
  | .wheel at_ turn => s.changed .number (s.wheel at_ turn)
  | .reportHeight name height =>
    let (r, t) := s.reportHeight name height
    (.ok (routeAnswer r), t)
  | .route => s.asked (.ok (.route s.route))
  | .scene =>
    let (scene, t) := s.scene
    (.ok (.scene scene), t)

/-- The answers to a list of operations and the session after them. -/
def run (files : Files) (s : Session α) : List (Op α) → List (Except Fault (Answer α)) × Session α
  | [] => ([], s)
  | op :: ops =>
    let (a, t) := s.step files op
    let (as, u) := run files t ops
    (a :: as, u)

theorem run_append (files : Files) (s : Session α) (a b : List (Op α)) :
    (s.run files (a ++ b)).2 = ((s.run files a).2.run files b).2 := by
  induction a generalizing s with
  | nil => rfl
  | cons op a ih => simp only [List.cons_append, run, ih]

end Session
end SchemaDiagram

/-
# Drafts

A draft draws the page from top to bottom. What it does to the session happens
where it is drawn, so what stands above a button shows the page before the
button was pressed and what stands below shows it after. A draft may end
early, because the page has to be drawn anew, because nothing more is to be
drawn, or because of a fault; what it has drawn and changed by then stays. What
the session notes goes to the journal, whose file can be read like any other.

Key definitions: `Upload`, `Visit`, `Interrupt`, `Draft`, `Draft.button`,
`Draft.checkbox`, `Draft.searchBox`, `Draft.perform`.
Key theorems: `Draft.draw_eq`, `Draft.button_eq`, `Draft.perform_eq`.
-/
import SchemaDiagram.Journal.Basic
import SchemaDiagram.Page.Element

namespace SchemaDiagram

/-- A file that the user hands over. -/
structure Upload where
  name : String
  content : ByteArray

/-- What the page keeps from one draft to the next. -/
structure Memory where
  isDark : Bool
  /-- The content of the last upload that was looked at. -/
  seen : Option ByteArray
  generation : Nat
  ticks : Keyed ControlKey Bool
  searches : Keyed Nat String

/-- The memory before the first draft. -/
def Memory.initial : Memory := ⟨true, none, 0, .empty, .empty⟩

/-- A draft under way: what it can see, what it can change and what it has drawn. -/
structure Visit where
  files : Files
  journal : Journal
  /-- What was noted so far. -/
  notes : List Record
  upload : Option Upload
  /-- The buttons that were pressed. -/
  pressed : List String
  memory : Memory
  session : Session Float
  /-- What the session was asked for so far. -/
  asked : List (Op Float)
  drawn : List Drawn

/-- The files as they are now. -/
def Visit.currentFiles (v : Visit) : Files :=
  v.journal.filesAfter v.files Record.fullLine v.notes

/-- Why a draft ends early. -/
inductive Interrupt where
  | again
  | finished
  | fault (fault : Fault)

/-- A step of drawing the page. -/
abbrev Draft := EStateM Interrupt Visit

namespace Draft

/-- An element drawn below what is there. -/
def draw (regions : List Region) (element : Element) : Draft Unit :=
  modify fun v => { v with drawn := v.drawn ++ [⟨regions, element⟩] }

/-- Text drawn below what is there. -/
def markdown (regions : List Region) (text : String) : Draft Unit :=
  draw regions (.markdown text)

/-- A button drawn; the answer says whether it was pressed. -/
def button (regions : List Region) (b : Button) : Draft Bool := do
  draw regions (.button b)
  return (← get).pressed.contains b.id

/-- A box to tick, which holds the given value unless it holds one already. -/
def checkbox (regions : List Region) (label : String) (control : Control) (value : Bool) :
    Draft Unit := do
  let m := (← get).memory
  let key : ControlKey := ⟨control, m.generation⟩
  let held := (m.ticks.find? key).getD value
  modify fun v => { v with memory := { m with ticks := m.ticks.put key held } }
  draw regions (.checkbox label held key)

/-- The search box, which holds the text searched for unless it holds one
already; the answer is the text it holds. -/
def searchBox (regions : List Region) (label hint : String) : Draft String := do
  let v ← get
  let m := v.memory
  let held := (m.searches.find? m.generation).getD v.session.view.query
  modify fun v => { v with memory := { m with searches := m.searches.put m.generation held } }
  draw regions (.searchBox label held m.generation hint)
  return held

/-- Fresh controls. -/
def refresh : Draft Unit :=
  modify fun v => { v with memory := { v.memory with generation := v.memory.generation + 1 } }

/-- An operation of the session. A fault ends the draft. -/
def perform (op : Op Float) : Draft (Answer Float) := do
  let v ← get
  let files := v.currentFiles
  let (answer, session) := v.session.step files op
  set { v with
    session := session
    notes := v.notes ++ v.session.notes files op
    asked := v.asked ++ [op] }
  match answer with
  | .ok a => return a
  | .error f => throw (.fault f)

/-- An operation of which only the effect matters. -/
def effect (op : Op Float) : Draft Unit := do
  let _ ← perform op

/-- Something said to the user. -/
def say (message : String) (isError : Bool) : Draft Unit :=
  modify fun v =>
    { v with
      session := v.session.say message isError
      notes := v.notes ++ [Status.record ⟨message, isError⟩] }

/-- Fresh controls on a page drawn anew. -/
def restart {α : Type} : Draft α := do
  refresh
  throw .again

/-- Drawing adds one element below all others. -/
theorem draw_eq (regions : List Region) (element : Element) (v : Visit) :
    (draw regions element).run v = .ok () { v with drawn := v.drawn ++ [⟨regions, element⟩] } :=
  rfl

/-- A button is drawn whether it was pressed or not. -/
theorem button_eq (regions : List Region) (b : Button) (v : Visit) :
    (button regions b).run v =
      .ok (v.pressed.contains b.id) { v with drawn := v.drawn ++ [⟨regions, .button b⟩] } :=
  rfl

/-- An operation does to a visit what it does to its session, and is noted. -/
theorem perform_eq (op : Op Float) (v : Visit) :
    (perform op).run v =
      let w : Visit := { v with
        session := (v.session.step v.currentFiles op).2
        notes := v.notes ++ v.session.notes v.currentFiles op
        asked := v.asked ++ [op] }
      match (v.session.step v.currentFiles op).1 with
      | .ok a => .ok a w
      | .error f => .error (.fault f) w := by
  change (match (v.session.step v.currentFiles op).1 with
    | .ok a => (pure a : Draft (Answer Float))
    | .error f => throw (Interrupt.fault f)).run _ = _
  cases (v.session.step v.currentFiles op).1 <;> rfl

end Draft
end SchemaDiagram

/-
# A browser that shows the page

The page is drawn once for each event, and once more if the first draft asks
for it; the second knows nothing of a press. Between events the browser keeps
the session, the memory of the page, what was noted and what is on the page. An
event on something that is not on the page changes nothing. A control that has
gone from the page loses the value it holds, unless the page could not be drawn
to its end.

Key definitions: `Browser`, `Event`, `Reply`, `Browser.draw`,
`Browser.redraw`, `Browser.ready`, `Browser.step`.
-/
import SchemaDiagram.Page.Content

namespace SchemaDiagram

/-- One browser in which the page is open. -/
structure Browser where
  files : Files
  environment : List (String × String)
  memory : Memory
  session : Option (Session Float)
  /-- What was noted since the page was first drawn. -/
  notes : List Record
  upload : Option Upload
  page : List Drawn
  /-- What the session was asked for when the page was last drawn. -/
  asked : List (Op Float)
  /-- How often the page was drawn for the last event. -/
  drafts : Nat

/-- Something the user does. -/
inductive Event where
  | visit
  | press (button : String)
  | flip (control : Control)
  | type (text : String)
  | upload (file : Upload)
  | removeUpload

/-- Why the page cannot be drawn to its end. -/
inductive PageFault where
  | journal (fault : JournalFault)
  | session (fault : Fault)

/-- How an event comes out. -/
inductive Reply where
  | done
  | missing
  | failed (fault : PageFault)

/-- How a draft comes out. -/
inductive Ending where
  | complete
  | again
  | failed (fault : PageFault)

/-- The whole page. A session that has just begun starts with the demonstration
schema. -/
def pageDraft (isNew : Bool) : Draft Unit := do
  Draft.draw [] (.head "Atlas" "◫" "wide" "expanded")
  Draft.draw [] (.style (Theme.of (← get).memory.isDark).palette)
  if isNew then Draft.effect .loadDemo
  Sidebar.draft
  Content.draft

/-- The memory without the controls that were on the page before and are not now. -/
def Memory.forget (m : Memory) (before now : List Drawn) : Memory :=
  let ticks := (before.filterMap Drawn.control?).filter fun k =>
    !(now.any fun d => d.control? == some k)
  let searches := (before.filterMap Drawn.searchBox?).filter fun g =>
    !(now.any fun d => d.searchBox? == some g)
  { m with ticks := ticks.foldl .erase m.ticks, searches := searches.foldl .erase m.searches }

namespace Browser

/-- A browser in which nothing has happened. -/
def start (files : Files) (environment : List (String × String))
    (session : Option (Session Float)) : Browser :=
  ⟨files, environment, .initial, session, [], none, [], [], 0⟩

/-- The settings of the page and its journal. -/
def setUp (b : Browser) : Except PageFault (Settings Float × Journal) := do
  let s ← (loadSettings b.files b.environment "").mapError (.journal ∘ .settings)
  let j ← (Journal.setUp b.files s "" "" Journal.fullForm).mapError .journal
  return (s, j)

/-- The browser with the outcome of a draft. -/
def take (b : Browser) (v : Visit) : Browser :=
  { b with
    memory := v.memory, session := some v.session, notes := v.notes, page := v.drawn
    asked := v.asked }

/-- What a draft starts from. -/
def visit (b : Browser) (s : Settings Float) (j : Journal) (pressed : List String) : Visit :=
  ⟨b.files, j, b.notes, b.upload, pressed, b.memory, b.session.getD (.start s), [], []⟩

/-- The page drawn once, with some buttons pressed. -/
def draw (b : Browser) (pressed : List String) : Ending × Browser :=
  match b.setUp with
  | .error f => (.failed f, { b with page := [], asked := [] })
  | .ok (s, j) =>
    match (pageDraft b.session.isNone).run (b.visit s j pressed) with
    | .ok _ v => (.complete, b.take v)
    | .error .finished v => (.complete, b.take v)
    | .error .again v => (.again, b.take v)
    | .error (.fault f) v => (.failed (.session f), b.take v)

/-- What the user is told of a draft. -/
def Ending.reply : Ending → Reply
  | .failed f => .failed f
  | _ => .done

/-- The browser once the page was drawn for an event; `before` was on it then. -/
def settle (c : Browser) (before : List Drawn) (e : Ending) (drafts : Nat) : Browser :=
  match e with
  | .failed _ => { c with drafts := drafts }
  | _ => { c with memory := c.memory.forget before c.page, drafts := drafts }

/-- The page drawn for an event. -/
def redraw (b : Browser) (pressed : List String) : Reply × Browser :=
  match b.draw pressed with
  | (.again, c) =>
    let (e, d) := c.draw []
    (Ending.reply e, d.settle b.page e 2)
  | (e, c) => (Ending.reply e, c.settle b.page e 1)

/-- The session after a box was ticked or cleared. -/
def ticked (files : Files) (s : Session Float) (control : Control) (value : Bool) :
    Except Fault (Answer Float) × Session Float :=
  match control with
  | .selection entity =>
    match s.step files (.toggle entity) with
    | (.ok (.flag true), t) => t.step files .fit
    | r => r
  | .relations entity => s.step files (.setFilter entity (some value) none)
  | .others entity => s.step files (.setFilter entity none (some value))

/-- The browser with a box ticked if it was clear, and the other way round, unless its
entity is unknown. -/
def flip (b : Browser) (key : ControlKey) : Except (Reply × Browser) Browser :=
  let value := !((b.memory.ticks.find? key).getD false)
  let c := { b with memory := { b.memory with ticks := b.memory.ticks.put key value } }
  match c.session with
  | none => .ok c
  | some s =>
    match ticked b.files s key.control value with
    | (.error f, t) => .error (.failed (.session f), { c with session := some t })
    | (.ok _, t) => .ok { c with session := some t }

/-- The browser for which the page is drawn after an event, and the buttons that were
pressed; if nothing is drawn, what the user is told. -/
def ready (b : Browser) : Event → Except (Reply × Browser) (Browser × List String)
  | .visit => .ok (b, [])
  | .press button =>
    if b.page.any fun d => (d.button?.map (·.id)) == some button then .ok (b, [button])
    else .error (.missing, b)
  | .flip control =>
    let key : ControlKey := ⟨control, b.memory.generation⟩
    if b.page.any fun d => d.control? == some key then (b.flip key).map fun c => (c, [])
    else .error (.missing, b)
  | .type text =>
    match b.page.findSome? Drawn.searchBox? with
    | none => .error (.missing, b)
    | some generation =>
      .ok ({ b with memory :=
        { b.memory with searches := b.memory.searches.put generation text } }, [])
  | .upload file =>
    if b.page.any Drawn.isFileInput then .ok ({ b with upload := some file }, [])
    else .error (.missing, b)
  | .removeUpload =>
    if b.page.any Drawn.isFileInput then .ok ({ b with upload := none }, [])
    else .error (.missing, b)

/-- What the user is told of an event, and the browser after it. -/
def step (b : Browser) (e : Event) : Reply × Browser :=
  match b.ready e with
  | .error r => r
  | .ok (c, pressed) => c.redraw pressed

end Browser
end SchemaDiagram

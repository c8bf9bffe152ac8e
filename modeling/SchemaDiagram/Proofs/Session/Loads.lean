/-
# What a load leaves of the past

A load that succeeds leaves nothing: sessions with the same settings, reader and
window become one and the same session, whatever was done to them before. A load
that fails leaves everything but the status. No operation reads the status, so
sessions that are alike but for it give the same answers and stay alike, and what
follows a failed load is as if it had not been tried.

Key definitions: `Session.runWith`, `Session.Alike`, `Session.Agree`,
`Session.Fresh`, `Op.loads`.
Key theorems: `Session.Alike.step`, `Session.Alike.runWith`,
`Session.load_forgets`, `Session.failed_load_unnoticed`.
-/
import SchemaDiagram.Proofs.Exact
import SchemaDiagram.Proofs.Outcome
import SchemaDiagram.Session.Step

namespace SchemaDiagram

/-- The operations that load a schema. -/
def Op.loads {α : Type} : Op α → Bool
  | .load _ _ | .loadFile _ | .loadDemo => true
  | _ => false

namespace Session

variable {α β γ : Type}

/-! ### Sessions alike -/

/-- The sessions differ at most in their status. -/
structure Alike (s t : Session α) : Prop where
  settings : s.settings = t.settings
  reader : s.reader = t.reader
  schema : s.schema = t.schema
  canvas : s.canvas = t.canvas
  window : s.window = t.window

/-- The answers are equal and the sessions after them alike. -/
def Agree (p q : β × Session α) : Prop := p.1 = q.1 ∧ p.2.Alike q.2

/-- Both fail in the same way, or both succeed and agree. -/
def AgreeOrFail : Except Fault (β × Session α) → Except Fault (β × Session α) → Prop
  | .ok p, .ok q => Agree p q
  | .error f, .error g => f = g
  | _, _ => False

theorem Agree.answer {p q : β × Session α} (h : Agree p q) (f : β → γ) :
    Agree (f p.1, p.2) (f q.1, q.2) :=
  ⟨congrArg f h.1, h.2⟩

theorem AgreeOrFail.cases {p q : Except Fault (β × Session α)} (h : AgreeOrFail p q) :
    (∃ e, p = .error e ∧ q = .error e) ∨ ∃ a b, p = .ok a ∧ q = .ok b ∧ Agree a b := by
  cases p with
  | error e =>
    cases q with
    | error f => exact .inl ⟨e, rfl, congrArg Except.error (Eq.symm h)⟩
    | ok b => exact h.elim
  | ok a =>
    cases q with
    | error f => exact h.elim
    | ok b => exact .inr ⟨a, b, rfl, rfl, h⟩

theorem AgreeOrFail.map {x : Except Fault γ} {f g : γ → β × Session α}
    (h : ∀ c, Agree (f c) (g c)) : AgreeOrFail (x.map f) (x.map g) := by
  cases x with
  | error e => exact rfl
  | ok c => exact h c

namespace Alike

variable {s t : Session α}

theorem refl (s : Session α) : s.Alike s := ⟨rfl, rfl, rfl, rfl, rfl⟩

theorem say_left (s : Session α) (message : String) (isError : Bool) :
    (s.say message isError).Alike s :=
  ⟨rfl, rfl, rfl, rfl, rfl⟩

theorem view (h : s.Alike t) : s.view = t.view :=
  congrArg Canvas.view h.canvas

theorem say (h : s.Alike t) (message : String) (isError : Bool) :
    (s.say message isError).Alike (t.say message isError) :=
  { h with }

theorem setCanvas (h : s.Alike t) {c d : Canvas α} (hcd : c = d) :
    ({ s with canvas := c } : Session α).Alike { t with canvas := d } :=
  { h with canvas := hcd }

theorem setView (h : s.Alike t) {v w : View α} (hvw : v = w) :
    (s.setView v).Alike (t.setView w) :=
  h.setCanvas (by rw [h.canvas, hvw])

/-- An operation that is done to the view and answers from it. -/
theorem onView (h : s.Alike t) (f : View α → β × View α) :
    Agree ((f s.view).1, s.setView (f s.view).2) ((f t.view).1, t.setView (f t.view).2) :=
  ⟨by rw [h.view], h.setView (by rw [h.view])⟩

/-! ### What is asked -/

theorem shown (h : s.Alike t) : s.shown = t.shown := by
  rw [Session.shown, Session.shown, h.schema, h.view]

theorem filtered (h : s.Alike t) : s.filtered = t.filtered := by
  rw [Session.filtered, Session.filtered, h.schema, h.view]

theorem hint (h : s.Alike t) : s.hint = t.hint := by
  rw [Session.hint, Session.hint, h.schema, h.view, h.filtered]

theorem neighbors (h : s.Alike t) (name : String) : s.neighbors name = t.neighbors name := by
  rw [Session.neighbors, Session.neighbors, h.schema]

theorem hiddenNeighbors (h : s.Alike t) (name : String) :
    s.hiddenNeighbors name = t.hiddenNeighbors name := by
  rw [Session.hiddenNeighbors, Session.hiddenNeighbors, h.neighbors, h.view]

/-! ### What may fail -/

theorem asked (h : s.Alike t) {a b : Except Fault (Answer α)} (hab : a = b) :
    Agree (s.asked a) (t.asked b) :=
  ⟨hab, h⟩

theorem changed (h : s.Alike t) (answer : β → Answer α) {p q : Except Fault (β × Session α)}
    (hpq : AgreeOrFail p q) : Agree (s.changed answer p) (t.changed answer q) := by
  obtain ⟨e, rfl, rfl⟩ | ⟨a, b, rfl, rfl, hab⟩ := hpq.cases
  · exact ⟨rfl, h⟩
  · exact ⟨congrArg (fun c => Except.ok (answer c)) hab.1, hab.2⟩

/-- An operation on an entity that is known to both sessions or to neither. -/
theorem guarded (h : s.Alike t) (name : String) (answer : β → Answer α)
    (f : View α → β × View α) :
    Agree (s.changed answer ((s.guard name).map fun s => ((f s.view).1, s.setView (f s.view).2)))
      (t.changed answer ((t.guard name).map fun t => ((f t.view).1, t.setView (f t.view).2))) := by
  have hknows : s.knows name = t.knows name := by rw [knows, knows, h.schema]
  refine h.changed answer ?_
  rw [guard, guard, hknows]
  split
  · exact h.onView f
  · exact rfl

theorem selectAll (h : s.Alike t) : s.selectAll.Alike t.selectAll := by
  unfold Session.selectAll
  rw [h.schema, h.view]
  split
  · exact h
  · exact h.setView rfl

theorem revealNeighbors (h : s.Alike t) (name : String) :
    AgreeOrFail (s.revealNeighbors name) (t.revealNeighbors name) := by
  rw [Session.revealNeighbors, Session.revealNeighbors, h.hiddenNeighbors]
  refine .map fun ns => ⟨rfl, ?_⟩
  have hselect : (s.setView (ns.foldl View.select s.view)).Alike
      (t.setView (ns.foldl View.select t.view)) := h.setView (by rw [h.view])
  dsimp only
  split
  · exact hselect
  · exact hselect.say _ _

theorem shownBoxes (h : s.Alike t) : s.shownBoxes = t.shownBoxes := by
  rw [Session.shownBoxes, Session.shownBoxes, h.shown, h.view]

variable [Scalar α]

theorem route (h : s.Alike t) : s.route = t.route := by
  rw [Session.route, Session.route, h.schema, h.view]

theorem fit (h : s.Alike t) : AgreeOrFail s.fit t.fit := by
  have hframed : Camera.fit s.settings.cameraRule s.shownBoxes s.window =
      Camera.fit t.settings.cameraRule t.shownBoxes t.window := by
    rw [h.settings, h.shownBoxes, h.window]
  rw [Session.fit, hframed]
  refine .map fun c => ?_
  cases c with
  | none => exact ⟨rfl, h.say _ _⟩
  | some c => exact ⟨rfl, h.setCanvas (by rw [h.canvas])⟩

/-- Framing at the end of an operation; if it fails, what was done before stays in
both. -/
theorem fitThen (h : s.Alike t) {f g : Session α → Session α}
    (hfg : ∀ u v : Session α, u.Alike v → (f u).Alike (g v)) (b : β) :
    Agree
      (match s.fit with
        | .error e => (Except.error e, s)
        | .ok (_, u) => (.ok b, f u))
      (match t.fit with
        | .error e => (Except.error e, t)
        | .ok (_, u) => (.ok b, g u)) := by
  obtain ⟨e, hs, ht⟩ | ⟨p, q, hs, ht, hpq⟩ := h.fit.cases
  · rw [hs, ht]
    exact ⟨rfl, h⟩
  · rw [hs, ht]
    exact ⟨rfl, hfg _ _ hpq.2⟩

theorem activate (h : s.Alike t) (stub : Stub α) : Agree (s.activate stub) (t.activate stub) := by
  have hreveal : (s.setView (s.view.reveal stub)).Alike (t.setView (t.view.reveal stub)) :=
    h.setView (by rw [h.view])
  exact hreveal.fitThen (fun _ _ huv => huv.say _ _) ()

theorem scene (h : s.Alike t) : Agree s.scene t.scene :=
  ⟨by rw [Session.scene, Session.scene, h.schema, h.view],
    h.setView (by rw [h.schema, h.view])⟩

theorem center (h : s.Alike t) : s.center = t.center := by
  rw [Session.center, Session.center, h.view, h.window]

theorem move (h : s.Alike t) (p : Point α) : AgreeOrFail (s.move p) (t.move p) := by
  rw [Session.move, h.canvas]
  refine .map fun (moved, c) => ?_
  have hmoved : ({ s with canvas := c } : Session α).Alike { t with canvas := c } :=
    h.setCanvas rfl
  exact ⟨by dsimp only; rw [hmoved.route], hmoved⟩

theorem wheel (h : s.Alike t) (p : Point α) (turn : α) :
    AgreeOrFail (s.wheel p turn) (t.wheel p turn) := by
  have hzoomed : s.view.camera.wheel s.settings.cameraRule p turn =
      t.view.camera.wheel t.settings.cameraRule p turn := by
    rw [h.view, h.settings]
  rw [Session.wheel, hzoomed]
  exact .map fun c => ⟨rfl, h.setCanvas (by rw [h.canvas])⟩

theorem reportHeight (h : s.Alike t) (name : String) (height : α) :
    Agree (s.reportHeight name height) (t.reportHeight name height) := by
  have hreported : (s.setView (s.view.reportHeight name height).2).Alike
      (t.setView (t.view.reportHeight name height).2) := h.setView (by rw [h.view])
  refine ⟨?_, hreported⟩
  simp only [Session.reportHeight]
  rw [hreported.route, h.view]

end Alike

/-! ### Loading -/

variable [Scalar α] [Sunflower α] {s t : Session α}

/-- What is installed depends on the settings, the reader and the window only. -/
theorem install_congr (hsettings : s.settings = t.settings) (hreader : s.reader = t.reader)
    (hwindow : s.window = t.window) (m : Schema) (label : String) :
    s.install m label = t.install m label := by
  rw [install, install, hsettings, hreader, hwindow]

namespace Alike

theorem load (h : s.Alike t) (text label : String) :
    Agree (s.load text label) (t.load text label) := by
  rw [Session.load, Session.load, h.reader]
  split
  · exact ⟨rfl, h.say _ _⟩
  · next m _ =>
    refine ⟨rfl, ?_⟩
    rw [install_congr h.settings h.reader h.window]
    exact .refl _

theorem loadFile (h : s.Alike t) (files : Files) (path : String) :
    Agree (s.loadFile files path) (t.loadFile files path) := by
  have hpath : s.schemaPath path = t.schemaPath path := by
    rw [schemaPath, schemaPath, h.settings]
  simp only [Session.loadFile, hpath]
  split
  · exact ⟨rfl, h⟩
  · exact ⟨rfl, h⟩
  · exact ⟨rfl, h.say _ _⟩
  · next text _ =>
    have hload := h.load text (t.schemaPath path).name.characters
    exact ⟨congrArg Except.ok hload.1, hload.2⟩

theorem loadDemo (h : s.Alike t) : Agree s.loadDemo t.loadDemo := by
  obtain ⟨hloaded, hsession⟩ := h.load demoSchema "demo schema"
  unfold Session.loadDemo
  cases hs : s.load demoSchema "demo schema" with | mk loaded u =>
  cases ht : t.load demoSchema "demo schema" with | mk loaded' v =>
  rw [hs, ht] at hloaded hsession
  obtain rfl : loaded = loaded' := hloaded
  have huv : u.Alike v := hsession
  cases loaded with
  | false => exact ⟨rfl, huv⟩
  | true => exact huv.selectAll.fitThen (fun _ _ h => h) true

/-! ### Runs -/

/-- **Sessions that are alike give the same answers and stay alike**, whatever is
asked of them. -/
theorem step (h : s.Alike t) (files : Files) (op : Op α) :
    Agree (s.step files op) (t.step files op) := by
  cases op with
  | load text label => exact (h.load text label).answer fun b => Except.ok (Answer.flag b)
  | loadFile path => exact (h.loadFile files path).answer (Except.map Answer.flag)
  | loadDemo => exact h.loadDemo.answer (Except.map Answer.flag)
  | setReader reader => exact ⟨rfl, { h with reader := rfl }⟩
  | select name => exact h.guarded name id fun v => (.nothing, v.select name)
  | hide name => exact ⟨rfl, h.setView (by rw [h.view])⟩
  | toggle name =>
    exact h.guarded name .flag fun v => ((v.toggle name).selected.has name, v.toggle name)
  | selectAll => exact ⟨rfl, h.selectAll⟩
  | clear => exact ⟨rfl, h.setView (by rw [h.view])⟩
  | search query => exact ⟨rfl, h.setView (by rw [h.view])⟩
  | filtered => exact h.asked (by rw [h.filtered])
  | hint => exact h.asked (by rw [h.hint])
  | shown => exact h.asked (by rw [h.shown])
  | setFilter name relations others =>
    exact h.guarded name .filter fun v =>
      ((v.setFilter name relations others).filterOf name, v.setFilter name relations others)
  | neighbors name => exact h.asked (by rw [h.neighbors])
  | hiddenNeighbors name => exact h.asked (by rw [h.hiddenNeighbors])
  | revealNeighbors name => exact h.changed .names (h.revealNeighbors name)
  | activate stub => exact (h.activate stub).answer (Except.map fun _ => Answer.nothing)
  | resize window => exact ⟨rfl, { h with window := rfl }⟩
  | fit => exact h.changed .flag h.fit
  | center => exact h.asked (by rw [h.center])
  | press at_ entity button => exact ⟨rfl, h.setCanvas (by rw [h.canvas])⟩
  | move at_ => exact h.changed routeAnswer (h.move at_)
  | release => exact ⟨rfl, h.setCanvas (by rw [h.canvas])⟩
  | wheel at_ turn => exact h.changed .number (h.wheel at_ turn)
  | reportHeight name height =>
    exact (h.reportHeight name height).answer fun r => Except.ok (routeAnswer r)
  | route => exact h.asked (by rw [h.route])
  | scene => exact h.scene.answer fun scene => Except.ok (Answer.scene scene)

end Alike

/-- The answers to a list of operations and the session after them, where every
operation finds the files in a state of its own. -/
def runWith (s : Session α) : List (Files × Op α) → List (Except Fault (Answer α)) × Session α
  | [] => ([], s)
  | (files, op) :: ops =>
    let (a, t) := s.step files op
    let (as, u) := runWith t ops
    (a :: as, u)

/-- **Runs of sessions that are alike** give the same answers, and the sessions after
them are alike. -/
theorem Alike.runWith (h : s.Alike t) (ops : List (Files × Op α)) :
    Agree (s.runWith ops) (t.runWith ops) := by
  induction ops generalizing s t with
  | nil => exact ⟨rfl, h⟩
  | cons op ops ih =>
    have hstep := h.step op.1 op.2
    have hrest := ih hstep.2
    exact ⟨by simp only [Session.runWith, hstep.1, hrest.1], hrest.2⟩

/-! ### A load that succeeds -/

theorem load_of_ok {text label : String} {m : Schema} (h : s.reader text = .ok m) :
    s.load text label = (true, s.install m label) := by
  rw [load, h]

/-- Nothing has been done since the schema was loaded. -/
structure Fresh (s : Session α) : Prop where
  selected : s.view.selected = .empty
  filters : s.view.filters = .empty
  query : s.view.query = ""
  gesture : s.canvas.gesture = none

theorem fresh_install (s : Session α) (m : Schema) (label : String) :
    (s.install m label).Fresh :=
  ⟨rfl, rfl, rfl, rfl⟩

/-- **A load that succeeds forgets the past.** Sessions that agree in settings, reader
and window may have any other past: if the text loads in one it loads in the other,
both are then one and the same session with nothing selected, filtered, searched
or dragged, and so they answer alike to all that follows. -/
theorem load_forgets (hsettings : s.settings = t.settings) (hreader : s.reader = t.reader)
    (hwindow : s.window = t.window) {text label : String} (h : (s.load text label).1 = true) :
    (t.load text label).1 = true ∧ (s.load text label).2 = (t.load text label).2 ∧
      (s.load text label).2.Fresh ∧
      ∀ files ops, s.runWith ((files, .load text label) :: ops) =
        t.runWith ((files, .load text label) :: ops) := by
  cases hm : s.reader text with
  | error message =>
    rw [load_of_error hm] at h
    cases h
  | ok m =>
    have hs : s.load text label = (true, s.install m label) := load_of_ok hm
    have ht : t.load text label = (true, s.install m label) := by
      rw [load_of_ok (hreader ▸ hm), install_congr hsettings hreader hwindow]
    refine ⟨by rw [ht], by rw [hs, ht], ?_, fun files ops => ?_⟩
    · rw [hs]
      exact fresh_install s m label
    · simp only [runWith, step, hs, ht]

/-- A drag in one session and another text in the other are forgotten. -/
theorem load_forgets_dragging :
    letI : Sunflower ℚ := ⟨fun _ => 1, fun _ => 0, fun _ => 0⟩
    let fresh : Session ℚ := .start .stock
    let loaded := (fresh.step ⟨[]⟩ (.load "model A \x7b\n\x7d" "a")).2
    let pressed := (loaded.step ⟨[]⟩ (.press ⟨0, 0⟩ (some "A") 0)).2
    pressed.canvas.gesture.isSome = true ∧
      (fresh.load "model B \x7b\n\x7d" "b").2 = (pressed.load "model B \x7b\n\x7d" "b").2 := by
  let _ : Sunflower ℚ := ⟨fun _ => 1, fun _ => 0, fun _ => 0⟩
  intro fresh loaded pressed
  have hloads : (fresh.load "model B \x7b\n\x7d" "b").1 = true := by rfl
  obtain ⟨-, hsame, -⟩ := load_forgets (t := pressed) rfl rfl rfl hloads
  exact ⟨by rfl, hsame⟩

/-! ### A load that fails -/

theorem eq_say_of_load {text label : String} (h : (s.load text label).1 = false) :
    ∃ message, (s.load text label).2 = s.say message true := by
  cases hm : s.reader text with
  | error message =>
    rw [load_of_error hm]
    exact ⟨_, rfl⟩
  | ok m =>
    rw [load_of_ok hm] at h
    cases h

theorem eq_say_of_loadFile {files : Files} {path : String}
    (h : (s.loadFile files path).1 = .ok false) :
    ∃ message, (s.loadFile files path).2 = s.say message true := by
  simp only [loadFile] at h ⊢
  split at h
  · cases h
  · cases h
  · exact ⟨_, rfl⟩
  · exact eq_say_of_load (Except.ok.inj h)

theorem eq_say_of_loadDemo (h : s.loadDemo.1 = .ok false) :
    ∃ message, s.loadDemo.2 = s.say message true := by
  unfold loadDemo at h ⊢
  split at h
  · next t ht =>
    have hfails : (s.load demoSchema "demo schema").1 = false := by rw [ht]
    have hload := eq_say_of_load hfails
    rw [ht] at hload
    exact hload
  · dsimp only at h
    split at h <;> cases h

/-- Only the status tells that a load has failed. -/
theorem eq_say_of_step {files : Files} {op : Op α} (hop : op.loads = true)
    (h : (s.step files op).1 = .ok (.flag false)) :
    ∃ message, (s.step files op).2 = s.say message true := by
  have hflag : ∀ r : Except Fault Bool, r.map Answer.flag = .ok (.flag false : Answer α) →
      r = .ok false := by
    intro r hr
    obtain ⟨b, hb, hbf⟩ := map_eq_ok_iff.1 hr
    rw [hb, Answer.flag.inj hbf]
  cases op with
  | load text label => exact eq_say_of_load (Answer.flag.inj (Except.ok.inj h))
  | loadFile path => exact eq_say_of_loadFile (hflag _ h)
  | loadDemo => exact eq_say_of_loadDemo (hflag _ h)
  | _ => cases hop

/-- **A load that fails goes unnoticed but for the status.** Only the status changes,
and whatever is asked afterwards is answered as if the load had not been tried. -/
theorem failed_load_unnoticed {files : Files} {op : Op α} (hop : op.loads = true)
    (h : (s.step files op).1 = .ok (.flag false)) :
    (∃ message, (s.step files op).2 = s.say message true) ∧
      ∀ ops, Agree ((s.step files op).2.runWith ops) (s.runWith ops) := by
  obtain ⟨message, hmessage⟩ := eq_say_of_step hop h
  have halike : (s.step files op).2.Alike s := by
    rw [hmessage]
    exact .say_left s message true
  exact ⟨⟨message, hmessage⟩, halike.runWith⟩

/-- A drag goes on over a file that is not there. -/
theorem failed_load_unnoticed_dragging :
    letI : Sunflower ℚ := ⟨fun _ => 1, fun _ => 0, fun _ => 0⟩
    let fresh : Session ℚ := .start .stock
    let loaded := (fresh.step ⟨[]⟩ (.load "model A \x7b\n\x7d" "a")).2
    let pressed := (loaded.step ⟨[]⟩ (.press ⟨0, 0⟩ (some "A") 0)).2
    let failed := (pressed.step ⟨[]⟩ (.loadFile "missing")).2
    pressed.canvas.gesture.isSome = true ∧
      Agree (failed.runWith [(⟨[]⟩, .move ⟨5, 5⟩)]) (pressed.runWith [(⟨[]⟩, .move ⟨5, 5⟩)]) := by
  let _ : Sunflower ℚ := ⟨fun _ => 1, fun _ => 0, fun _ => 0⟩
  intro fresh loaded pressed failed
  have hmissing : (pressed.step ⟨[]⟩ (.loadFile "missing")).1 = .ok (.flag false) := by rfl
  obtain ⟨-, hruns⟩ := failed_load_unnoticed rfl hmissing
  exact ⟨by rfl, hruns _⟩

end Session
end SchemaDiagram

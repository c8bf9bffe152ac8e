/-
# Looking changes nothing

A scene puts filters on record, so a session that is looked at is not the one that is
not. It is that one with initial filters added (`Session.Padded`). Only three kinds of
operations take account of the filters: a filter that is set and a scene read no more
than what such records share, and a load forgets them. So both sessions go on to answer
alike and to differ in no more than initial filters, however often and at whatever
places one is looked at in between.

Key definitions: `Look`, `Call`, `Session.Padded`, `Session.notedBy`.
Key theorems: `Session.Padded.of_ignores`, `Session.Padded.step`, `Session.Padded.look`,
`Session.Padded.runWith`, `Session.looks_unnoticed`.
-/
import SchemaDiagram.Proofs.Diagram.Filters
import SchemaDiagram.Proofs.Session.Cases
import SchemaDiagram.Proofs.Session.Loads

namespace SchemaDiagram

variable {α β γ : Type}

/-- A question about a session, or a scene of it. -/
inductive Look where
  | filtered
  | hint
  | shown
  | neighbors (name : String)
  | hiddenNeighbors (name : String)
  | route
  | scene

def Look.op : Look → Op α
  | .filtered => .filtered
  | .hint => .hint
  | .shown => .shown
  | .neighbors name => .neighbors name
  | .hiddenNeighbors name => .hiddenNeighbors name
  | .route => .route
  | .scene => .scene

/-- A call of a run: an operation of the run itself, or a look added to it. -/
inductive Call (α : Type) where
  | asked (op : Op α)
  | added (look : Look)

namespace Call

def op : Call α → Op α
  | .asked op => op
  | .added look => look.op

/-- The operations of all calls. -/
def ops (calls : List (Files × Call α)) : List (Files × Op α) :=
  calls.map fun (files, c) => (files, c.op)

/-- The operations without the looks that are added. -/
def askedOps : List (Files × Call α) → List (Files × Op α)
  | [] => []
  | (files, .asked op) :: calls => (files, op) :: askedOps calls
  | (_, .added _) :: calls => askedOps calls

/-- Of answers to calls, one by one, those to the calls that are not added. -/
def askedAnswers : List (Files × Call α) → List β → List β
  | (_, .asked _) :: calls, a :: as => a :: askedAnswers calls as
  | (_, .added _) :: calls, _ :: as => askedAnswers calls as
  | _, _ => []

end Call

/-! ### Views and canvases with other filters -/

namespace View

variable (v : View α) (F : Filters)

theorem toggle_refilter (n : String) : (v.refilter F).toggle n = (v.toggle n).refilter F := by
  have hhas : (v.refilter F).selected.has n = v.selected.has n := rfl
  rw [toggle, hhas, toggle]
  split <;> rfl

theorem foldl_select_refilter (ns : List String) :
    ns.foldl View.select (v.refilter F) = (ns.foldl View.select v).refilter F :=
  List.foldl_hom (fun w : View α => w.refilter F) fun _ _ => rfl

variable [Scalar α]

theorem reveal_refilter (stub : Stub α) :
    (v.refilter F).reveal stub = (v.reveal stub).refilter F := by
  have hfind : ((v.refilter F).select stub.target).boxes.find? stub.target =
      (v.select stub.target).boxes.find? stub.target := rfl
  simp only [reveal, hfind]
  split <;> rfl

theorem reportHeight_refilter (n : String) (height : α) :
    (v.refilter F).reportHeight n height =
      ((v.reportHeight n height).1, (v.reportHeight n height).2.refilter F) := by
  have hfind : (v.refilter F).boxes.find? n = v.boxes.find? n := rfl
  simp only [View.reportHeight, hfind]
  split
  · rfl
  · split <;> rfl

end View

/-- The canvas with other filters. -/
def Canvas.refilter (c : Canvas α) (F : Filters) : Canvas α :=
  { c with view := c.view.refilter F }

theorem Canvas.move_refilter [Scalar α] (c : Canvas α) (F : Filters) (p : Point α) :
    (c.refilter F).move p = (c.move p).map fun (moved, d) => (moved, d.refilter F) := by
  have hgesture : (c.refilter F).gesture = c.gesture := rfl
  have hview : (c.refilter F).view = c.view.refilter F := rfl
  unfold Canvas.move
  rw [hgesture, hview]
  split
  · rfl
  · rfl
  · next n start origin _ =>
    have hfind : (c.view.refilter F).boxes.find? n = c.view.boxes.find? n := rfl
    have hcamera : (c.view.refilter F).camera = c.view.camera := rfl
    rw [hfind, hcamera]
    split
    · rfl
    · cases Scalar.quotient (p.x - start.x) c.view.camera.scale with
      | error f => rfl
      | ok dx =>
        cases Scalar.quotient (p.y - start.y) c.view.camera.scale with
        | error f => rfl
        | ok dy => rfl

namespace Session

/-- The session with other filters. -/
def refilter (s : Session α) (F : Filters) : Session α :=
  s.setView (s.view.refilter F)

/-- The names of the entities of which a look puts filters on record. -/
def noted (s : Session α) : Look → List String
  | .scene => s.shown.map (·.name)
  | _ => []

/-! ### Operations that take no account of filters -/

/-- Under other filters the operation gives the same, and leaves them as they are. -/
def Ignores (f : Session α → β × Session α) (s : Session α) : Prop :=
  ∀ F, f (s.refilter F) = ((f s).1, (f s).2.refilter F)

section

variable {s : Session α}

theorem ignores_changed (answer : β → Answer α) {r : Session α → Except Fault (β × Session α)}
    (hr : ∀ F, r (s.refilter F) = (r s).map fun (b, t) => (b, t.refilter F)) :
    Ignores (fun u => u.changed answer (r u)) s := by
  intro F
  dsimp only
  rw [hr F]
  cases r s with
  | error f => rfl
  | ok p => rfl

theorem ignores_toggle (n : String) :
    Ignores (fun u => ((u.view.toggle n).selected.has n, u.setView (u.view.toggle n))) s := by
  intro F
  have htoggle : (s.refilter F).view.toggle n = (s.view.toggle n).refilter F :=
    s.view.toggle_refilter F n
  simp only [htoggle]
  rfl

theorem refilter_selectAll (F : Filters) : (s.refilter F).selectAll = s.selectAll.refilter F := by
  have hschema : (s.refilter F).schema = s.schema := rfl
  rw [selectAll, hschema, selectAll]
  split <;> rfl

theorem refilter_revealNeighbors (n : String) (F : Filters) :
    (s.refilter F).revealNeighbors n =
      (s.revealNeighbors n).map fun (ns, t) => (ns, t.refilter F) := by
  have hhidden : (s.refilter F).hiddenNeighbors n = s.hiddenNeighbors n := rfl
  have hview : (s.refilter F).view = s.view.refilter F := rfl
  rw [revealNeighbors, hhidden, hview, revealNeighbors]
  refine map_eq_map_map fun ns => ?_
  dsimp only
  rw [View.foldl_select_refilter]
  split <;> rfl

variable [Scalar α]

theorem refilter_fit (F : Filters) :
    (s.refilter F).fit = s.fit.map fun (framed, t) => (framed, t.refilter F) := by
  have hboxes : (s.refilter F).shownBoxes = s.shownBoxes := rfl
  have hwindow : (s.refilter F).window = s.window := rfl
  have hsettings : (s.refilter F).settings = s.settings := rfl
  rw [fit, hboxes, hwindow, hsettings, fit]
  refine map_eq_map_map fun c => ?_
  cases c <;> rfl

theorem ignores_activate (stub : Stub α) : Ignores (·.activate stub) s := by
  intro F
  have hreveal : (s.refilter F).setView ((s.refilter F).view.reveal stub) =
      (s.setView (s.view.reveal stub)).refilter F :=
    congrArg s.setView (s.view.reveal_refilter F stub)
  simp only [activate, hreveal, refilter_fit]
  cases (s.setView (s.view.reveal stub)).fit with
  | error f => rfl
  | ok p => rfl

theorem refilter_move (p : Point α) (F : Filters) :
    (s.refilter F).move p = (s.move p).map fun (r, t) => (r, t.refilter F) := by
  have hcanvas : (s.refilter F).canvas = s.canvas.refilter F := rfl
  rw [Session.move, hcanvas, Canvas.move_refilter, Session.move]
  cases s.canvas.move p with
  | error f => rfl
  | ok p => rfl

theorem refilter_wheel (p : Point α) (turn : α) (F : Filters) :
    (s.refilter F).wheel p turn = (s.wheel p turn).map fun (x, t) => (x, t.refilter F) := by
  have hcamera : (s.refilter F).view.camera = s.view.camera := rfl
  have hsettings : (s.refilter F).settings = s.settings := rfl
  rw [Session.wheel, hcamera, hsettings, Session.wheel]
  exact map_eq_map_map fun _ => rfl

theorem ignores_reportHeight (n : String) (height : α) :
    Ignores (·.reportHeight n height) s := by
  intro F
  have hview : (s.refilter F).view = s.view.refilter F := rfl
  simp only [Session.reportHeight, hview, View.reportHeight_refilter]
  rfl

end

/-- A scene leaves the filters of what it draws on record. -/
theorem snd_scene [Scalar α] (s : Session α) :
    s.scene.2 = s.refilter (.recordAll s.view.filters (drawnNames s.schema s.view)) := by
  rw [Session.scene, keepFilters_eq]
  rfl

/-! ### Loads -/

/-- Under other filters the operation gives the same, which holds none of them. -/
def Forgets (f : Session α → β × Session α) (s : Session α) : Prop :=
  ∀ F, f (s.refilter F) = f s

section

variable [Scalar α] [Sunflower α] {s : Session α}

theorem ignores_or_forgets_load (text label : String) :
    Ignores (·.load text label) s ∨ Forgets (·.load text label) s := by
  cases hread : s.reader text with
  | error message =>
    refine .inl fun F => ?_
    have hother : (s.refilter F).reader text = .error message := hread
    dsimp only
    rw [load_of_error hread, load_of_error hother]
    rfl
  | ok m =>
    refine .inr fun F => ?_
    have hother : (s.refilter F).reader text = .ok m := hread
    dsimp only
    rw [load_of_ok hread, load_of_ok hother]
    exact congrArg (Prod.mk true) (install_congr rfl rfl rfl m label)

theorem ignores_or_forgets_loadFile (files : Files) (path : String) :
    Ignores (loadFile files · path) s ∨ Forgets (loadFile files · path) s := by
  have hpath : ∀ F, (s.refilter F).schemaPath path = s.schemaPath path := fun _ => rfl
  simp only [Ignores, Forgets, loadFile, hpath]
  split
  · exact .inl fun _ => rfl
  · exact .inl fun _ => rfl
  · exact .inl fun _ => rfl
  · next text _ =>
    refine (ignores_or_forgets_load (s := s) text (s.schemaPath path).name.characters).imp ?_ ?_
    · intro hload F
      simp only [hload F]
    · intro hload F
      simp only [hload F]

theorem ignores_or_forgets_loadDemo :
    Ignores (fun u : Session α => u.loadDemo) s ∨ Forgets (fun u : Session α => u.loadDemo) s := by
  refine (ignores_or_forgets_load (s := s) demoSchema "demo schema").imp ?_ ?_
  · intro hload F
    have hloadF := hload F
    dsimp only at hloadF ⊢
    unfold loadDemo
    rw [hloadF]
    cases s.load demoSchema "demo schema" with
    | mk loaded t =>
      cases loaded with
      | false => rfl
      | true =>
        dsimp only
        rw [refilter_selectAll, refilter_fit]
        cases t.selectAll.fit with
        | error f => rfl
        | ok p => rfl
  · intro hload F
    have hloadF := hload F
    dsimp only at hloadF ⊢
    rw [loadDemo, hloadF, loadDemo]

end

/-! ### Sessions with filters added -/

/-- The first session is the second with initial filters of some of the names on record. -/
def Padded (names : List String) (s t : Session α) : Prop :=
  ∃ F : Filters, s = t.refilter F ∧ F.Pads names t.view.filters

/-- The answers are equal, and the first session is the second with filters added. -/
def PaddedAnswer (names : List String) (p q : β × Session α) : Prop :=
  p.1 = q.1 ∧ Padded names p.2 q.2

theorem PaddedAnswer.answer {names : List String} {p q : β × Session α}
    (h : PaddedAnswer names p q) (f : β → γ) : PaddedAnswer names (f p.1, p.2) (f q.1, q.2) :=
  ⟨congrArg f h.1, h.2⟩

namespace Padded

variable {names : List String} {s t : Session α}

theorem refl (names : List String) (s : Session α) : Padded names s s :=
  ⟨s.view.filters, rfl, .refl _ _⟩

theorem of_ignores (h : Padded names s t) {f : Session α → β × Session α} (hf : Ignores f t) :
    PaddedAnswer names (f s) (f t) := by
  obtain ⟨F, rfl, hF⟩ := h
  -- the filters of the second session are ignored too
  have hown : f t = ((f t).1, (f t).2.refilter t.view.filters) := hf t.view.filters
  have hfilters : (f t).2.view.filters = t.view.filters := congrArg (·.2.view.filters) hown
  rw [hf F]
  exact ⟨rfl, F, rfl, hfilters ▸ hF⟩

theorem of_ignores_or_forgets (h : Padded names s t) {f : Session α → β × Session α}
    (hf : Ignores f t ∨ Forgets f t) : PaddedAnswer names (f s) (f t) := by
  rcases hf with hignores | hforgets
  · exact h.of_ignores hignores
  · obtain ⟨F, rfl, -⟩ := h
    rw [hforgets F]
    exact ⟨rfl, refl names _⟩

/-- An operation on an entity that is known to both sessions or to neither. -/
theorem guarded (h : Padded names s t) (n : String) (answer : β → Answer α)
    {g : Session α → β × Session α} (hg : PaddedAnswer names (g s) (g t)) :
    PaddedAnswer names (s.changed answer ((s.guard n).map g))
      (t.changed answer ((t.guard n).map g)) := by
  have hknows : s.knows n = t.knows n := by
    obtain ⟨F, rfl, -⟩ := h
    rfl
  rw [guard, guard, hknows]
  split
  · exact hg.answer fun b => Except.ok (answer b)
  · exact ⟨rfl, h⟩

theorem setFilter (h : Padded names s t) (n : String) (relations others : Option Bool) :
    PaddedAnswer names
      ((s.view.setFilter n relations others).filterOf n,
        s.setView (s.view.setFilter n relations others))
      ((t.view.setFilter n relations others).filterOf n,
        t.setView (t.view.setFilter n relations others)) := by
  obtain ⟨F, rfl, hF⟩ := h
  let f : FieldFilter :=
    ⟨relations.getD (t.view.filterOf n).relations, others.getD (t.view.filterOf n).others⟩
  have hset : (t.view.refilter F).setFilter n relations others = t.view.refilter (F.put n f) := by
    have hof : (t.view.refilter F).filterOf n = t.view.filterOf n := hF.of_eq n
    simp only [View.setFilter, hof]
    rfl
  have hown : t.view.setFilter n relations others = t.view.refilter (t.view.filters.put n f) := rfl
  have hput := hF.put n f
  refine ⟨?_, F.put n f, ?_, ?_⟩
  · show ((t.view.refilter F).setFilter n relations others).filterOf n = _
    rw [hset, hown]
    exact hput.of_eq n
  · show (t.refilter F).setView ((t.view.refilter F).setFilter n relations others) = _
    rw [hset]
    rfl
  · exact hput

variable [Scalar α]

theorem scene (h : Padded names s t) : PaddedAnswer names s.scene t.scene := by
  obtain ⟨F, rfl, hF⟩ := h
  have hdrawn : drawnNames t.schema (t.view.refilter F) = drawnNames t.schema t.view := rfl
  refine ⟨scene_refilter hF t.schema t.view, .recordAll F (drawnNames t.schema t.view), ?_, ?_⟩
  · rw [snd_scene, snd_scene]
    rfl
  · rw [snd_scene]
    exact hF.recordAll _

variable [Sunflower α]

/-- **Sessions that differ in initial filters answer alike** and go on to differ in no
more, whatever is asked of them. -/
theorem step (h : Padded names s t) (files : Files) (op : Op α) :
    PaddedAnswer names (s.step files op) (t.step files op) := by
  have ignores : ∀ {op : Op α}, Ignores (Session.step files · op) t →
      PaddedAnswer names (s.step files op) (t.step files op) := fun hop => h.of_ignores hop
  cases op with
  | load text label =>
    exact (h.of_ignores_or_forgets (ignores_or_forgets_load text label)).answer fun b =>
      Except.ok (Answer.flag b)
  | loadFile path =>
    exact (h.of_ignores_or_forgets (ignores_or_forgets_loadFile files path)).answer
      (Except.map Answer.flag)
  | loadDemo =>
    exact (h.of_ignores_or_forgets ignores_or_forgets_loadDemo).answer (Except.map Answer.flag)
  | setReader reader => exact ignores fun _ => rfl
  | select name =>
    have hselect : Ignores
        (fun u : Session α => ((.nothing : Answer α), u.setView (u.view.select name))) t :=
      fun _ => rfl
    exact h.guarded name id (h.of_ignores hselect)
  | hide name => exact ignores fun _ => rfl
  | toggle name => exact h.guarded name .flag (h.of_ignores (ignores_toggle name))
  | selectAll => exact ignores fun F => congrArg done (refilter_selectAll F)
  | clear => exact ignores fun _ => rfl
  | search query => exact ignores fun _ => rfl
  | filtered => exact ignores fun _ => rfl
  | hint => exact ignores fun _ => rfl
  | shown => exact ignores fun _ => rfl
  | setFilter name relations others =>
    exact h.guarded name .filter (h.setFilter name relations others)
  | neighbors name => exact ignores fun _ => rfl
  | hiddenNeighbors name => exact ignores fun _ => rfl
  | revealNeighbors name =>
    exact ignores (ignores_changed .names (refilter_revealNeighbors name))
  | activate stub =>
    exact (h.of_ignores (ignores_activate stub)).answer (Except.map fun _ => Answer.nothing)
  | resize window => exact ignores fun _ => rfl
  | fit => exact ignores (ignores_changed .flag refilter_fit)
  | center => exact ignores fun _ => rfl
  | press at_ entity button => exact ignores fun _ => rfl
  | move at_ => exact ignores (ignores_changed routeAnswer (refilter_move at_))
  | release => exact ignores fun _ => rfl
  | wheel at_ turn => exact ignores (ignores_changed .number (refilter_wheel at_ turn))
  | reportHeight name height =>
    exact (h.of_ignores (ignores_reportHeight name height)).answer fun r =>
      Except.ok (routeAnswer r)
  | route => exact ignores fun _ => rfl
  | scene => exact h.scene.answer fun scene => Except.ok (Answer.scene scene)

/-- What a look adds is initial, and of entities that are shown. -/
theorem look (h : Padded names s t) (files : Files) (look : Look) :
    Padded (names ++ s.noted look) (s.step files look.op).2 t := by
  have hmore : Padded (names ++ s.noted look) s t := by
    obtain ⟨F, hs, hF⟩ := h
    exact ⟨F, hs, hF.mono (List.subset_append_left _ _)⟩
  cases look with
  | scene =>
    obtain ⟨F, rfl, hF⟩ := hmore
    have hdrawn := drawnNames_subset (t.refilter F).schema (t.refilter F).view
    refine ⟨_, ?_, hF.recordAll_left (List.Subset.trans hdrawn (List.subset_append_right _ _))⟩
    exact snd_scene (t.refilter F)
  | _ => exact hmore

end Padded

/-! ### Runs -/

variable [Scalar α] [Sunflower α]

/-- The names of the entities that are shown when a scene is added to the run. -/
def notedBy (s : Session α) : List (Files × Call α) → List String
  | [] => []
  | (files, .asked op) :: calls => notedBy (s.step files op).2 calls
  | (files, .added look) :: calls => s.noted look ++ notedBy (s.step files look.op).2 calls

theorem Padded.runWith {names : List String} {s t : Session α} (h : Padded names s t)
    (calls : List (Files × Call α)) :
    Call.askedAnswers calls (s.runWith (Call.ops calls)).1 =
        (t.runWith (Call.askedOps calls)).1 ∧
      Padded (names ++ s.notedBy calls) (s.runWith (Call.ops calls)).2
        (t.runWith (Call.askedOps calls)).2 := by
  induction calls generalizing names s t with
  | nil =>
    rw [notedBy, List.append_nil]
    exact ⟨rfl, h⟩
  | cons call calls ih =>
    obtain ⟨files, c⟩ := call
    cases c with
    | asked op =>
      obtain ⟨hanswer, hstep⟩ := h.step files op
      obtain ⟨hanswers, hrest⟩ := ih hstep
      exact ⟨congrArg₂ List.cons hanswer hanswers, hrest⟩
    | added look =>
      obtain ⟨hanswers, hrest⟩ := ih (h.look files look)
      rw [List.append_assoc] at hrest
      exact ⟨hanswers, hrest⟩

/-- **Looking changes nothing.** Whatever looks are added to a run and wherever, in every
session: the operations of the run itself are answered as without them, and the session
after the run is the one without them but for its filters. These differ at most in
initial filters that are added, of entities that were selected and declared when a scene
was added. -/
theorem looks_unnoticed (s : Session α) (calls : List (Files × Call α)) :
    let full := s.runWith (Call.ops calls)
    let bare := s.runWith (Call.askedOps calls)
    Call.askedAnswers calls full.1 = bare.1 ∧
      full.2 = bare.2.refilter full.2.view.filters ∧
      Filters.Pads (s.notedBy calls) full.2.view.filters bare.2.view.filters := by
  intro full bare
  obtain ⟨hanswers, F, hfull, hF⟩ := (Padded.refl [] s).runWith calls
  have hfilters : full.2.view.filters = F := congrArg (·.view.filters) hfull
  refine ⟨hanswers, ?_, ?_⟩
  · rw [hfilters]
    exact hfull
  · rw [hfilters]
    exact hF

end Session
end SchemaDiagram

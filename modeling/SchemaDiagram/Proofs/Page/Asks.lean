/-
# What the page asks of a session

While the page is drawn, the session is asked for one operation after the other, and what
comes of it is what these operations make of the session one by one. Some are asked each
time the page is drawn; they change no schema and leave no records. All others, loads
among them, are asked for a button that was pressed, of which there may be several, except
that an upload is handed over.

Key definitions: `Op.isQuiet`, `Asked`, `Visit.Follows`, `Visit.Turns`, `Draft.after`,
`Draft.Asks`.
Key theorems: `Draft.Asks.bind`, `Draft.asks_press`, `Sidebar.asks_loads`,
`Content.asks_draft`.
-/
import SchemaDiagram.Page.Browser
import SchemaDiagram.Proofs.Session.Loads

namespace SchemaDiagram

/-- An operation that is asked each time the page is drawn. -/
def Op.isQuiet {α : Type} : Op α → Bool
  | .search _ => true
  | .setFilter _ none none => true
  | .hiddenNeighbors _ => true
  | .scene => true
  | _ => false

/-- What the page asks of a session, handing over an upload apart. -/
inductive Asked (pressed : List String) : Op Float → Prop
  | quiet {op : Op Float} (h : op.isQuiet = true) : Asked pressed op
  | loadFile (h : "Load example" ∈ pressed) : Asked pressed (.loadFile "")
  | loadDemo (h : "Demo schema" ∈ pressed) : Asked pressed .loadDemo
  | other {op : Op Float} (h : op.loads = false) (hpressed : pressed ≠ []) : Asked pressed op

/-- A session and its records after an operation. -/
def Journal.carryOut (j : Journal) (files : Files) (t : Session Float × List Record)
    (op : Op Float) : Session Float × List Record :=
  let current := j.filesAfter files Record.fullLine t.2
  ((t.1.step current op).2, t.2 ++ t.1.notes current op)

/-- What some operations, one after the other, and drawing make of a visit. -/
structure Visit.Follows (ops : List (Op Float)) (v w : Visit) : Prop where
  files : w.files = v.files
  journal : w.journal = v.journal
  upload : w.upload = v.upload
  pressed : w.pressed = v.pressed
  drawn : v.drawn <+: w.drawn
  asked : w.asked = v.asked ++ ops
  work : (w.session, w.notes) = ops.foldl (v.journal.carryOut v.files) (v.session, v.notes)

theorem Visit.Follows.trans {ops ops' : List (Op Float)} {v w x : Visit}
    (h : Follows ops v w) (h' : Follows ops' w x) : Follows (ops ++ ops') v x where
  files := h'.files.trans h.files
  journal := h'.journal.trans h.journal
  upload := h'.upload.trans h.upload
  pressed := h'.pressed.trans h.pressed
  drawn := h.drawn.trans h'.drawn
  asked := by rw [h'.asked, h.asked, List.append_assoc]
  work := by rw [List.foldl_append, ← h.work, ← h.files, ← h.journal, h'.work]

/-- Operations of a kind make of a visit what is left; the upload last looked at stays
what it was. -/
def Visit.Turns (P : Op Float → Prop) (v w : Visit) : Prop :=
  (∃ ops, (∀ op ∈ ops, P op) ∧ Follows ops v w) ∧ w.memory.seen = v.memory.seen

namespace Visit.Turns

variable {P Q : Op Float → Prop} {v w x : Visit}

/-- Drawing asks for nothing. -/
theorem of_drawn (elements : List Drawn) (m : Memory) (h : m.seen = v.memory.seen) :
    Turns P v { v with drawn := v.drawn ++ elements, memory := m } :=
  ⟨⟨[], nofun, ⟨rfl, rfl, rfl, rfl, List.prefix_append _ _, (List.append_nil _).symm, rfl⟩⟩, h⟩

theorem of_memory (m : Memory) (h : m.seen = v.memory.seen) :
    Turns P v { v with memory := m } :=
  ⟨⟨[], nofun, ⟨rfl, rfl, rfl, rfl, List.prefix_rfl, (List.append_nil _).symm, rfl⟩⟩, h⟩

theorem refl (v : Visit) : Turns P v v :=
  .of_memory v.memory rfl

theorem trans (h : Turns P v w) (h' : Turns P w x) : Turns P v x := by
  obtain ⟨⟨ops, hops, hfollows⟩, hseen⟩ := h
  obtain ⟨⟨ops', hops', hfollows'⟩, hseen'⟩ := h'
  refine ⟨⟨ops ++ ops', fun op hop => ?_, hfollows.trans hfollows'⟩, hseen'.trans hseen⟩
  rcases List.mem_append.1 hop with hop | hop
  · exact hops op hop
  · exact hops' op hop

theorem mono (h : Turns P v w) (hPQ : ∀ op, P op → Q op) : Turns Q v w := by
  obtain ⟨⟨ops, hops, hfollows⟩, hseen⟩ := h
  exact ⟨⟨ops, fun op hop => hPQ op (hops op hop), hfollows⟩, hseen⟩

theorem pressed_eq (h : Turns P v w) : w.pressed = v.pressed := by
  obtain ⟨⟨ops, -, hfollows⟩, -⟩ := h
  exact hfollows.pressed

theorem upload_eq (h : Turns P v w) : w.upload = v.upload := by
  obtain ⟨⟨ops, -, hfollows⟩, -⟩ := h
  exact hfollows.upload

theorem follows_nil (h : Turns (fun _ => False) v w) : Follows [] v w := by
  obtain ⟨⟨ops, hops, hfollows⟩, -⟩ := h
  rwa [List.eq_nil_iff_forall_not_mem.2 hops] at hfollows

end Visit.Turns

namespace Draft

variable {α β : Type}

/-- The visit after a draft, whether it ends early or not. -/
def after (d : Draft α) (v : Visit) : Visit :=
  match d.run v with
  | .ok _ w => w
  | .error _ w => w

theorem after_bind (d : Draft α) (f : α → Draft β) (v : Visit) :
    (d >>= f).after v =
      match d.run v with
      | .ok a w => (f a).after w
      | .error _ w => w := by
  show (match (EStateM.bind d f) v with | .ok _ w => w | .error _ w => w) = _
  unfold EStateM.bind
  show _ = match d v with | .ok a w => (f a).after w | .error _ w => w
  cases d v <;> rfl

/-- With such buttons pressed, the draft asks for operations of a kind only. -/
def Asks (P : Op Float → Prop) (pressed : List String) (d : Draft α) : Prop :=
  ∀ v, v.pressed = pressed → Visit.Turns P v (d.after v)

variable {P Q : Op Float → Prop} {pressed : List String} {d : Draft α} {f : α → Draft β}

/-- No more is left than after a draft if no more is asked for once it is over. -/
theorem turns_after_bind {v : Visit}
    (hf : ∀ a, Visit.Turns P (d.after v) ((f a).after (d.after v))) :
    Visit.Turns P (d.after v) ((d >>= f).after v) := by
  rw [after_bind]
  unfold after at hf ⊢
  cases hd : d.run v with
  | ok a w =>
    rw [hd] at hf
    exact hf a
  | error e w => exact .refl w

theorem Asks.bind (hd : Asks P pressed d) (hf : ∀ a, Asks P pressed (f a)) :
    Asks P pressed (d >>= f) := fun v hv =>
  (hd v hv).trans (turns_after_bind fun a => hf a _ ((hd v hv).pressed_eq.trans hv))

theorem Asks.mono (h : Asks P pressed d) (hPQ : ∀ op, P op → Q op) : Asks Q pressed d :=
  fun v hv => (h v hv).mono hPQ

theorem asks_pure {a : α} : Asks P pressed (pure a) := fun v _ => .refl v

theorem asks_throw {i : Interrupt} : Asks P pressed (throw i : Draft α) := fun v _ => .refl v

theorem asks_get : Asks P pressed get := fun v _ => .refl v

section

variable {regions : List Region}

theorem asks_draw {element : Element} : Asks P pressed (draw regions element) :=
  fun v _ => .of_drawn _ v.memory rfl

theorem asks_markdown {text : String} : Asks P pressed (markdown regions text) := asks_draw

theorem asks_checkbox {label : String} {control : Control} {value : Bool} :
    Asks P pressed (checkbox regions label control value) := fun _ _ => .of_drawn _ _ rfl

theorem asks_searchBox {label hint : String} : Asks P pressed (searchBox regions label hint) :=
  fun _ _ => .of_drawn _ _ rfl

end

theorem asks_refresh : Asks P pressed refresh := fun _ _ => .of_memory _ rfl

theorem asks_restart : Asks P pressed (restart : Draft α) :=
  asks_refresh.bind fun _ => asks_throw

theorem after_perform (op : Op Float) (v : Visit) :
    (perform op).after v = { v with
      session := (v.session.step v.currentFiles op).2
      notes := v.notes ++ v.session.notes v.currentFiles op
      asked := v.asked ++ [op] } := by
  rw [after, perform_eq]
  dsimp only
  cases (v.session.step v.currentFiles op).1 <;> rfl

theorem follows_perform (op : Op Float) (v : Visit) :
    Visit.Follows [op] v ((perform op).after v) := by
  rw [after_perform]
  exact ⟨rfl, rfl, rfl, rfl, List.prefix_rfl, rfl, rfl⟩

theorem asks_perform {op : Op Float} (h : P op) : Asks P pressed (perform op) := fun v _ =>
  ⟨⟨[op], List.forall_mem_singleton.2 h, follows_perform op v⟩, by rw [after_perform]⟩

theorem asks_effect {op : Op Float} (h : P op) : Asks P pressed (effect op) :=
  (asks_perform h).bind fun _ => asks_pure

theorem asks_forM {γ : Type} {l : List γ} {f : γ → Draft Unit}
    (h : ∀ a, Asks P pressed (f a)) : Asks P pressed (l.forM f) := by
  induction l with
  | nil => exact asks_pure
  | cons a l ih => exact (h a).bind fun _ => ih

/-- What follows a button is asked for with it pressed or not. -/
theorem asks_press {regions : List Region} {b : Button} {f : Bool → Draft β}
    (hyes : b.id ∈ pressed → Asks P pressed (f true)) (hno : Asks P pressed (f false)) :
    Asks P pressed (button regions b >>= f) := by
  intro v hv
  rw [after_bind, button_eq]
  refine Visit.Turns.trans (.of_drawn [⟨regions, .button b⟩] v.memory rfl) ?_
  by_cases hpressed : b.id ∈ v.pressed
  · rw [List.contains_iff_mem.2 hpressed]
    exact hyes (hv ▸ hpressed) _ hv
  · rw [Bool.eq_false_iff.2 (mt List.contains_iff_mem.1 hpressed)]
    exact hno _ hv

end Draft

/-! ### The sidebar -/

namespace Sidebar

open Draft

variable {pressed : List String}

/-- Switching the theme asks for nothing. -/
theorem asks_theme {P : Op Float → Prop} : Asks P pressed theme := by
  unfold theme
  refine asks_get.bind fun v => asks_press (fun _ => Asks.bind ?_ fun _ => asks_throw) asks_pure
  exact fun _ _ => .of_memory _ rfl

theorem asks_loads : Asks (Asked pressed) pressed loads := by
  unfold loads
  refine asks_get.bind fun v => ?_
  have hdemo : Asks (Asked pressed) pressed (do
      if ← button [.sidebar, .column 1 2] { label := "Demo schema" } then
        effect .loadDemo
        refresh) :=
    asks_press (fun h => (asks_effect (.loadDemo h)).bind fun _ => asks_refresh) (asks_pure)
  refine asks_press (fun h => ?_) hdemo
  refine (asks_perform (.loadFile h)).bind fun a => ?_
  split
  · exact asks_refresh.bind fun _ => hdemo
  · exact hdemo

theorem asks_search : Asks (Asked pressed) pressed search :=
  asks_searchBox.bind fun _ => asks_effect (.quiet rfl)

/-- What is asked for a button and loads nothing. -/
theorem asked_of_pressed {op : Op Float} {id : String} (h : op.loads = false)
    (hpressed : id ∈ pressed) : Asked pressed op :=
  .other h (List.ne_nil_of_mem hpressed)

theorem asks_selections : Asks (Asked pressed) pressed selections := by
  unfold selections
  have hclear : Asks (Asked pressed) pressed (do
      if ← button [.sidebar, .column 1 2] { label := "Clear" } then
        effect .clear
        restart) :=
    asks_press (fun h => (asks_effect (asked_of_pressed rfl h)).bind fun _ => asks_restart)
      (asks_pure)
  refine asks_press (fun h => ?_) hclear
  refine (asks_effect (asked_of_pressed rfl h)).bind fun _ => ?_
  refine (asks_effect (asked_of_pressed rfl h)).bind fun _ => ?_
  exact asks_restart.bind fun _ => hclear

theorem asks_entities : Asks (Asked pressed) pressed entities := by
  unfold entities
  refine asks_get.bind fun v => ?_
  refine asks_markdown.bind fun _ => ?_
  exact asks_forM fun e => asks_checkbox

theorem asks_fields (name : String) : Asks (Asked pressed) pressed (fields name) := by
  unfold fields
  refine (asks_effect (.quiet rfl)).bind fun _ => ?_
  refine asks_get.bind fun v => ?_
  refine asks_checkbox.bind fun _ => ?_
  refine asks_checkbox.bind fun _ => ?_
  refine (asks_perform (.quiet rfl)).bind fun hidden => ?_
  have hhide : Asks (Asked pressed) pressed (do
      if ← button [.sidebar, .expander name]
          { label := "Hide " ++ name, key := some ("hide_" ++ name) } then
        effect (.hide name)
        restart) :=
    asks_press (fun h => (asks_effect (asked_of_pressed rfl h)).bind fun _ => asks_restart)
      (asks_pure)
  split
  · split
    · refine asks_press (fun h => ?_) hhide
      refine (asks_effect (asked_of_pressed rfl h)).bind fun _ => ?_
      refine (asks_effect (asked_of_pressed rfl h)).bind fun _ => ?_
      exact asks_restart.bind fun _ => hhide
    · exact hhide
  · exact hhide

end Sidebar

/-! ### Beside the sidebar -/

namespace Content

open Draft Sidebar

variable {pressed : List String}

theorem asks_status : Asks (Asked pressed) pressed status := by
  unfold status
  refine asks_get.bind fun v => ?_
  dsimp only
  split
  · exact asks_draw
  · exact asks_markdown

theorem asks_cameraButtons (place : List Region) :
    Asks (Asked pressed) pressed (cameraButtons place) := by
  unfold cameraButtons
  refine asks_get.bind fun v => ?_
  have hout {middle : Point Float} : Asks (Asked pressed) pressed (do
      if ← button (place ++ [.column 2 4]) { label := "− Zoom" } then
        effect (.wheel middle 1.0)) :=
    asks_press (fun h => asks_effect (asked_of_pressed rfl h)) asks_pure
  have hin {middle : Point Float} : Asks (Asked pressed) pressed (do
      if ← button (place ++ [.column 1 4]) { label := "+ Zoom" } then
        effect (.wheel middle (-1.0))
      if ← button (place ++ [.column 2 4]) { label := "− Zoom" } then
        effect (.wheel middle 1.0)) :=
    asks_press (fun h => (asks_effect (asked_of_pressed rfl h)).bind fun _ => hout) hout
  exact asks_press (fun h => (asks_effect (asked_of_pressed rfl h)).bind fun _ => hin) hin

theorem asks_network (place : List Region) (scene : Scene Float) :
    Asks (Asked pressed) pressed (network place scene) := by
  unfold network
  refine asks_get.bind fun v => ?_
  split
  · exact asks_draw
  · exact asks_draw.bind fun _ => asks_markdown

theorem asks_stubButtons (place : List Region) (stubs : List (Stub Float)) :
    Asks (Asked pressed) pressed (stubButtons place stubs) := by
  unfold stubButtons
  split
  · refine asks_markdown.bind fun _ => asks_forM fun ⟨stub, i⟩ => ?_
    exact asks_press (fun h => (asks_effect (asked_of_pressed rfl h)).bind fun _ => asks_restart)
      (asks_pure)
  · exact asks_pure

theorem asks_diagram : Asks (Asked pressed) pressed diagram := by
  unfold diagram
  refine (asks_perform (.quiet rfl)).bind fun a => ?_
  split
  · split
    · exact asks_markdown
    · refine (asks_cameraButtons _).bind fun _ => ?_
      exact (asks_network _ _).bind fun _ => asks_stubButtons _ _
  · exact asks_pure

theorem asks_entity (schema : Schema) (place : List Region) (e : Entity) :
    Asks (Asked pressed) pressed (entity schema place e) := by
  unfold entity
  refine asks_markdown.bind fun _ => ?_
  have hoptions : Asks (Asked pressed) pressed (if !e.options.isEmpty then
      draw place (.code ("\n".intercalate e.options) "text") else pure ()) := by
    split
    · exact asks_draw
    · exact asks_pure
  dsimp only
  split
  · exact asks_throw.bind fun _ => hoptions
  · exact asks_draw.bind fun _ => hoptions

theorem asks_details (schema : Schema) : Asks (Asked pressed) pressed (details schema) := by
  unfold details
  refine asks_draw.bind fun _ => asks_get.bind fun v => ?_
  exact asks_forM fun e => asks_entity schema _ e

theorem asks_relations : Asks (Asked pressed) pressed relations := by
  unfold relations
  refine asks_get.bind fun v => ?_
  dsimp only
  split
  · exact asks_markdown
  · exact asks_draw

theorem asks_draft : Asks (Asked pressed) pressed draft := by
  unfold draft
  refine asks_status.bind fun _ => asks_get.bind fun v => ?_
  split
  · exact asks_markdown.bind fun _ => asks_throw
  · refine asks_markdown.bind fun _ => asks_diagram.bind fun _ => ?_
    exact (asks_details _).bind fun _ => asks_relations

end Content
end SchemaDiagram

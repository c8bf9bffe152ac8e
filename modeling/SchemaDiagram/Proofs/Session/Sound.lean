/-
# What holds in every session

A session is sound when its schema was read from a text, its canvas is sound for
the names of the schema, and its reader gives nothing but what texts declare.
Every session starts sound, and every operation keeps it so, whether it succeeds
or not: a load begins a new canvas without a gesture, and whatever is selected,
filtered or placed is a name of the schema.

Key definitions: `Session.names`, `Session.Permitted`, `Session.Reachable`,
`Session.Sound`.
Key theorems: `Session.Sound.step`, `Session.Reachable.sound`,
`Session.Reachable.stays_in_range`.
-/
import SchemaDiagram.Proofs.Canvas.Sound
import SchemaDiagram.Proofs.Diagram.Disclosure
import SchemaDiagram.Proofs.Schema.Names
import SchemaDiagram.Proofs.Session.Cases

namespace SchemaDiagram

/-- The reader gives what a text declares or fails. -/
def Reader.Faithful (r : Reader) : Prop := ∀ text m, r text = .ok m → m = .parse text

theorem Reader.faithful_standard : Reader.standard.Faithful :=
  fun _ _ h => (Except.ok.inj h).symm

namespace Session

variable {α : Type} [Scalar α]

/-- The names of the entities, none before anything is loaded. -/
def names (s : Session α) : List String :=
  match s.schema with
  | none => []
  | some m => m.names

omit [Scalar α] in
theorem names_of_schema {s : Session α} {m : Schema} (h : s.schema = some m) :
    s.names = m.names := by
  rw [names, h]

omit [Scalar α] in
theorem mem_names_of_knows {s : Session α} {n : String} (h : s.knows n = true) : n ∈ s.names := by
  unfold knows at h
  cases hm : s.schema with
  | none =>
    rw [hm] at h
    cases h
  | some m =>
    rw [hm] at h
    rw [names_of_schema hm]
    exact Schema.hasEntity_iff.1 h

omit [Scalar α] in
theorem names_of_neighbors {s : Session α} {n : String} {near : List String}
    (h : s.neighbors n = .ok near) : ∀ m ∈ near, m ∈ s.names := by
  unfold neighbors at h
  split at h
  · cases h
  · next schema hm =>
    rw [names_of_schema hm]
    unfold Schema.neighbors at h
    split at h
    · obtain rfl := Except.ok.inj h
      exact fun k hk => (List.mem_filter.1 hk).1
    · cases h

/-- A stub that is activated is one of the current route, and a reader that is
put in place is faithful. -/
def Permitted (s : Session α) : Op α → Prop
  | .activate stub => stub ∈ s.route.stubs
  | .setReader reader => reader.Faithful
  | _ => True

/-- The sessions that runs of operations lead to, failing ones included; what files
hold may change between operations. -/
inductive Reachable [Sunflower α] (settings : Settings α) : Session α → Prop
  | start : Reachable settings (.start settings)
  | step {s : Session α} (files : Files) (op : Op α) (hs : Reachable settings s)
    (hop : s.Permitted op) : Reachable settings (s.step files op).2

/-- The session has these settings and fits the schema it has read. -/
structure Sound (settings : Settings α) (s : Session α) : Prop where
  settings_eq : s.settings = settings
  reader : s.reader.Faithful
  schema : ∀ m, s.schema = some m → ∃ text, m = .parse text
  canvas : s.canvas.Sound settings s.names

namespace Sound

variable {settings : Settings α} {s : Session α}

theorem start (settings : Settings α) : (Session.start settings).Sound settings where
  settings_eq := rfl
  reader := Reader.faithful_standard
  schema _ h := nomatch h
  canvas := ⟨.ofBoxes fun _ => Iff.rfl, fun _ _ _ h => nomatch h⟩

theorem setCanvas (h : s.Sound settings) {c : Canvas α} (hc : c.Sound settings s.names) :
    ({ s with canvas := c } : Session α).Sound settings :=
  { h with canvas := hc }

theorem setView (h : s.Sound settings) {v : View α} (hv : v.Sound settings s.names) :
    (s.setView v).Sound settings :=
  h.setCanvas (h.canvas.setView hv)

theorem say (h : s.Sound settings) (message : String) (isError : Bool) :
    (s.say message isError).Sound settings :=
  { h with }

/-! ### Operations that may fail -/

theorem changed {β : Type} (h : s.Sound settings) (answer : β → Answer α)
    {r : Except Fault (β × Session α)} (hr : ∀ b t, r = .ok (b, t) → t.Sound settings) :
    (s.changed answer r).2.Sound settings :=
  of_changed (P := (·.Sound settings)) h answer hr

/-- An operation on a known entity. -/
theorem guarded {β : Type} {n : String} (h : s.Sound settings) (answer : β → Answer α)
    {f : Session α → β × Session α} (hf : n ∈ s.names → (f s).2.Sound settings) :
    (s.changed answer ((s.guard n).map f)).2.Sound settings :=
  of_guarded (P := (·.Sound settings)) h answer fun hk => hf (mem_names_of_knows hk)

/-! ### The camera -/

theorem fit (h : s.Sound settings) {framed : Bool} {t : Session α} (ht : s.fit = .ok (framed, t)) :
    t.Sound settings := by
  obtain ⟨message, rfl⟩ | ⟨c, hc, rfl⟩ := fit_cases ht
  · exact h.say _ _
  · rw [h.settings_eq] at hc
    exact h.setCanvas (h.canvas.setCamera (Camera.allows_fit hc))

theorem move (h : s.Sound settings) {p : Point α} {r : Option (Route α)} {t : Session α}
    (ht : s.move p = .ok (r, t)) : t.Sound settings := by
  obtain ⟨moved, c, hc, rfl, -⟩ := move_cases ht
  exact h.setCanvas (h.canvas.move hc)

theorem wheel (h : s.Sound settings) {p : Point α} {turn x : α} {t : Session α}
    (ht : s.wheel p turn = .ok (x, t)) : t.Sound settings := by
  obtain ⟨c, hc, rfl⟩ := wheel_cases ht
  rw [h.settings_eq] at hc
  exact h.setCanvas (h.canvas.setCamera (Camera.allows_wheel hc))

/-- The names of the schema have boxes, and nothing else is selected. -/
theorem covers (h : s.Sound settings) : s.view.Covers s.names :=
  ⟨fun n hn => (h.canvas.view.boxes n).2 hn, h.canvas.view.selected⟩

/-- Where there is a stub, a text has been read. -/
theorem exists_schema_of_stub (h : s.Sound settings) {stub : Stub α}
    (hs : stub ∈ s.route.stubs) : ∃ text, s.schema = some (.parse text) := by
  cases hm : s.schema with
  | none =>
    rw [Session.route, hm] at hs
    cases hs
  | some m =>
    obtain ⟨text, rfl⟩ := h.schema m hm
    exact ⟨text, rfl⟩

/-- If framing fails, the target stays revealed. -/
theorem activate (h : s.Sound settings) {stub : Stub α} (hs : stub ∈ s.route.stubs) :
    (s.activate stub).2.Sound settings := by
  obtain ⟨text, hm⟩ := h.exists_schema_of_stub hs
  have htarget : stub.target ∈ s.names := by
    rw [Session.route, hm] at hs
    rw [names_of_schema hm]
    exact Schema.target_mem_of_mem_stubs hs
  have hreveal : (s.setView (s.view.reveal stub)).Sound settings :=
    h.setView (h.canvas.view.reveal htarget)
  obtain ⟨f, -, hf⟩ | ⟨framed, u, message, hu, hf⟩ := activate_cases s stub
  · rw [hf]
    exact hreveal
  · rw [hf]
    exact (hreveal.fit hu).say _ _

theorem selectAll (h : s.Sound settings) : s.selectAll.Sound settings := by
  unfold Session.selectAll
  split
  · exact h
  · next m hm =>
    rw [← names_of_schema hm]
    exact h.setView h.canvas.view.selectAll

theorem revealNeighbors (h : s.Sound settings) {n : String} {ns : List String} {t : Session α}
    (ht : s.revealNeighbors n = .ok (ns, t)) : t.Sound settings := by
  obtain ⟨hh, hcases⟩ := revealNeighbors_cases ht
  obtain ⟨near, hnear, rfl⟩ := map_eq_ok_iff.1 hh
  have hhidden : ∀ m ∈ near.filter fun m => !s.view.selected.has m, m ∈ s.names := fun m hm =>
    names_of_neighbors hnear m (List.mem_filter.1 hm).1
  have hselect := h.setView (h.canvas.view.foldl_select hhidden)
  obtain rfl | ⟨message, rfl⟩ := hcases
  · exact hselect
  · exact hselect.say _ _

/-! ### Loading -/

variable [Sunflower α]

/-- A load that succeeds begins a new canvas. -/
theorem install (h : s.Sound settings) (text label : String) :
    (s.install (.parse text) label).Sound settings where
  settings_eq := h.settings_eq
  reader := h.reader
  schema _ hm := ⟨text, (Option.some.inj hm).symm⟩
  canvas := by
    have hview : (View.ofBoxes (s.settings.spiral.place (Schema.parse text).entities)).Sound
        settings (Schema.parse text).names := .ofBoxes fun _ => Spiral.mem_keys_place
    refine ⟨hview.setCamera ?_, fun _ _ _ hg => nomatch hg⟩
    rw [h.settings_eq]
    exact Camera.allows_centerOn _ _ _

theorem load (h : s.Sound settings) (text label : String) :
    (s.load text label).2.Sound settings := by
  obtain ⟨message, hload⟩ | ⟨m, hm, hload⟩ := load_cases s text label <;> rw [hload]
  · exact h.say _ _
  · obtain rfl := h.reader text m hm
    exact h.install text label

theorem loadFile (h : s.Sound settings) (files : Files) (path : String) :
    (s.loadFile files path).2.Sound settings := by
  obtain ⟨f, hload, -⟩ | ⟨message, hload⟩ | ⟨text, label, hload⟩ :=
    loadFile_cases files s path <;> rw [hload]
  · exact h
  · exact h.say _ _
  · exact h.load _ _

theorem loadDemo (h : s.Sound settings) : s.loadDemo.2.Sound settings := by
  have hload := h.load demoSchema "demo schema"
  obtain ⟨t, ht, hdemo⟩ | ⟨t, ht, ⟨f, -, hdemo⟩ | ⟨framed, u, hu, hdemo⟩⟩ := loadDemo_cases s <;>
    rw [ht] at hload <;> rw [hdemo]
  · exact hload
  · exact hload.selectAll
  · exact hload.selectAll.fit hu

/-! ### Runs -/

/-- **Every operation keeps a session sound**, whether it succeeds or not. -/
theorem step (h : s.Sound settings) (files : Files) {op : Op α} (hop : s.Permitted op) :
    (s.step files op).2.Sound settings := by
  cases op with
  | load text label => exact h.load text label
  | loadFile path => exact h.loadFile files path
  | loadDemo => exact h.loadDemo
  | setReader reader => exact { h with reader := hop }
  | select name => exact h.guarded _ fun hn => h.setView (h.canvas.view.select hn)
  | hide name => exact h.setView (h.canvas.view.deselect name)
  | toggle name => exact h.guarded _ fun hn => h.setView (h.canvas.view.toggle hn)
  | selectAll => exact h.selectAll
  | clear => exact h.setView h.canvas.view.clearSelection
  | search query => exact h.setView (h.canvas.view.setQuery _)
  | filtered => exact h
  | hint => exact h
  | shown => exact h
  | setFilter name relations others =>
    exact h.guarded _ fun hn => h.setView (h.canvas.view.setFilter hn relations others)
  | neighbors name => exact h
  | hiddenNeighbors name => exact h
  | revealNeighbors name => exact h.changed _ fun _ _ ht => h.revealNeighbors ht
  | activate stub => exact h.activate hop
  | resize window => exact { h with }
  | fit => exact h.changed _ fun _ _ ht => h.fit ht
  | center => exact h
  | press at_ entity button => exact h.setCanvas (h.canvas.press at_ entity button)
  | move at_ => exact h.changed _ fun _ _ ht => h.move ht
  | release => exact h.setCanvas h.canvas.release
  | wheel at_ turn => exact h.changed _ fun _ _ ht => h.wheel ht
  | reportHeight name height => exact h.setView (h.canvas.view.reportHeight name height)
  | route => exact h
  | scene => exact h.setView (h.canvas.view.keepFilters s.schema)

end Sound

theorem Reachable.sound [Sunflower α] {settings : Settings α} {s : Session α}
    (h : Reachable settings s) : s.Sound settings := by
  induction h with
  | start => exact .start settings
  | step files op _ hop ih => exact ih.step files hop

/-- **Sessions stay in range.** Exactly the names of the schema have boxes, nothing
else is selected, filtered or dragged, and the scale is between its limits, so
that it is positive and the pointer can always be followed. -/
theorem Reachable.stays_in_range [Sunflower ℚ] {settings : Settings ℚ} (hs : settings.InRange)
    {s : Session ℚ} (h : Reachable settings s) :
    (∀ n, n ∈ s.view.boxes.keys ↔ n ∈ s.names) ∧
      (∀ n ∈ s.view.selected.names, n ∈ s.names) ∧
      (∀ n ∈ s.view.filters.keys, n ∈ s.names) ∧
      (∀ n start origin, s.canvas.gesture = some (.drag n start origin) →
        n ∈ s.view.boxes.keys) ∧
      min 0.85 (min settings.zoomMin settings.fitMin) ≤ s.view.camera.scale ∧
      s.view.camera.scale ≤ max 0.85 (max settings.zoomMax settings.fitMax) ∧
      0 < s.view.camera.scale ∧
      (∀ p, ∃ q, s.view.camera.toWorld p = .ok q) ∧
      ∀ p, ∃ moved t, s.move p = .ok (moved, t) := by
  have hsound := h.sound
  have hview := hsound.canvas.view
  have hpos : 0 < s.view.camera.scale := hview.scale.pos hs
  refine ⟨hview.boxes, hview.selected, hview.filters, fun n start origin hg => ?_,
    hview.scale.ge, hview.scale.le hs, hpos, fun p => ?_, fun p => ?_⟩
  · exact (hview.boxes n).2 (hsound.canvas.drag n start origin hg)
  · exact ⟨_, Camera.toWorld_eq hpos.ne' p⟩
  · obtain ⟨moved, c, hc⟩ := Canvas.exists_move_eq_ok hpos.ne' p
    exact ⟨_, _, map_eq_ok_iff.2 ⟨_, hc, rfl⟩⟩

/-- A box that is being dragged can be dragged on. -/
theorem Reachable.stays_in_range_dragging :
    letI : Sunflower ℚ := ⟨fun _ => 1, fun _ => 0, fun _ => 0⟩
    let fresh : Session ℚ := .start .stock
    let loaded := (fresh.step ⟨[]⟩ (.load "model A \x7b\n\x7d" "a")).2
    let pressed := (loaded.step ⟨[]⟩ (.press ⟨0, 0⟩ (some "A") 0)).2
    (Settings.stock : Settings ℚ).InRange ∧ Reachable .stock pressed ∧
      ∃ moved t, pressed.move ⟨5, 5⟩ = .ok (moved, t) := by
  let _ : Sunflower ℚ := ⟨fun _ => 1, fun _ => 0, fun _ => 0⟩
  intro fresh loaded pressed
  have hloaded : Reachable .stock loaded := .step _ _ .start trivial
  have hpressed : Reachable .stock pressed := hloaded.step _ _ trivial
  obtain ⟨-, -, -, -, -, -, -, -, hmove⟩ := stays_in_range Settings.inRange_stock hpressed
  exact ⟨Settings.inRange_stock, hpressed, hmove _⟩

end Session
end SchemaDiagram

/-
# Which uploads are loaded

The text of an upload is loaded in a run exactly if the uploader never held a file in the
runs before or last held one with another content. In between it may have been empty for
any number of runs, so an upload that is taken back and handed over again is not loaded
again.

Key definitions: `Run.Does`, `Run.PressesLoad`.
Key theorems: `Run.exists_asked_outcome`, `Browser.upload_passed_when_new`.
-/
import SchemaDiagram.Proofs.Outcome
import SchemaDiagram.Proofs.Page.Effects
import SchemaDiagram.Proofs.Page.Runs

namespace SchemaDiagram

theorem not_asked_load {pressed : List String} (text label : String) :
    ¬Asked pressed (.load text label) := by
  intro h
  cases h with
  | quiet h => cases h
  | other h _ => cases h

namespace Run

/-- The run makes of the session, and notes, what some operations do one by one. -/
def Does (r : Run) (ops : List (Op Float)) : Prop :=
  ∃ s j u, r.browser.setUp = .ok (s, j) ∧ r.outcome.session = some u ∧
    (u, r.outcome.notes) =
      ops.foldl (j.carryOut r.browser.files) (r.browser.session.getD (.start s), r.browser.notes)

/-- One of the buttons that load a schema was pressed. -/
def PressesLoad (r : Run) : Prop :=
  "Load example" ∈ r.pressed ∨ "Demo schema" ∈ r.pressed

variable {r : Run} {op : Op Float} {ops : List (Op Float)} {u : Upload} {text : String}

theorem loads_eq_false (h : Asked r.pressed op) (hpress : ¬r.PressesLoad) : op.loads = false := by
  cases h with
  | quiet h => cases op <;> first | rfl | cases h
  | loadFile h => exact absurd (.inl h) hpress
  | loadDemo h => exact absurd (.inr h) hpress
  | other h _ => exact h

theorem isQuiet_of_asked (h : Asked r.pressed op) (hpressed : r.pressed = []) :
    op.isQuiet = true := by
  rw [hpressed] at h
  cases h with
  | quiet h => exact h
  | loadFile h => exact absurd h List.not_mem_nil
  | loadDemo h => exact absurd h List.not_mem_nil
  | other _ h => exact absurd rfl h

/-- A run keeps of the session what its operations keep. -/
theorem Does.keeps {s : Session Float} (h : r.Does ops) (hs : r.browser.session = some s) :
    ∃ t, r.outcome.session = some t ∧
      ((∀ op ∈ ops, op.loads = false) → t.schema = s.schema) ∧
      ((∀ op ∈ ops, op.isQuiet = true) → s.Kept t) := by
  obtain ⟨_, j, t, -, hend, hwork⟩ := h
  rw [hs, Option.getD_some] at hwork
  refine ⟨t, hend, fun hops => ?_, fun hops => ?_⟩
  · have hschema := Journal.schema_carryOut j r.browser.files (s, r.browser.notes) hops
    rwa [← hwork] at hschema
  · have hkept := Journal.kept_carryOut j r.browser.files (s, r.browser.notes) hops
    rwa [← hwork] at hkept

/-- A run that comes to look at a text loads it, unless it is what was last looked at. Before
that it asks for the demonstration schema in a session that has just begun; what it asks
after that hands over no upload. -/
theorem exists_asked_outcome (hlooks : r.looks = true) (hu : r.browser.upload = some u)
    (htext : Files.decode? u.content = some text) :
    ∃ opening rest, (∀ op ∈ opening, Opening r.browser.session.isNone op) ∧
      (∀ op ∈ rest, Asked r.pressed op) ∧
      r.outcome.asked = opening ++
        (if r.browser.memory.seen = some u.content then [] else [.load text u.name]) ++ rest ∧
      r.Does r.outcome.asked := by
  cases hsetUp : r.browser.setUp with
  | error f =>
    rw [looks, outcome_of_error hsetUp] at hlooks
    cases hlooks
  | ok p =>
    obtain ⟨hnot, -⟩ | ⟨-, -, w, ⟨⟨opening, hopening, habove⟩, hseen⟩, ⟨rest, hrest, hbelow⟩, -⟩ :=
      draft_cases hsetUp
    · rw [hlooks] at hnot
      cases hnot
    · have hupload := Sidebar.follows_upload (habove.upload.trans hu) htext
      rw [hseen] at hupload
      have hwhole := (habove.trans hupload).trans hbelow
      have hasked : r.outcome.asked = opening ++
          (if r.browser.memory.seen = some u.content then [] else [.load text u.name]) ++ rest := by
        rw [outcome_of_setUp hsetUp]
        exact hwhole.asked
      have hdoes : r.Does r.outcome.asked := by
        rw [Does, hasked, outcome_of_setUp hsetUp]
        exact ⟨p.1, p.2, _, hsetUp, rfl, hwhole.work⟩
      exact ⟨opening, rest, hopening, hrest, hasked, hdoes⟩

/-- A run loads the text that it holds exactly if it comes to look at it and it is not what
was last looked at. -/
theorem load_mem_asked_iff (hu : r.browser.upload = some u)
    (htext : Files.decode? u.content = some text) :
    .load text u.name ∈ r.outcome.asked ↔
      r.looks = true ∧ r.browser.memory.seen ≠ some u.content := by
  cases hlooks : r.looks with
  | false =>
    refine ⟨fun hload => ?_, fun h => by cases h.1⟩
    cases (outcome_of_not_looks hlooks).2.1 _ hload
  | true =>
    obtain ⟨opening, rest, hopening, hrest, hasked, -⟩ := exists_asked_outcome hlooks hu htext
    rw [hasked, List.mem_append, List.mem_append]
    constructor
    · rintro ((hload | hload) | hload)
      · cases (hopening _ hload).2
      · refine ⟨rfl, fun hseen => ?_⟩
        rw [if_pos hseen] at hload
        cases hload
      · exact absurd (hrest _ hload) (not_asked_load text u.name)
    · rintro ⟨-, hseen⟩
      rw [if_neg hseen]
      exact .inl (.inr List.mem_cons_self)

/-- A run that holds what was last looked at keeps the session. -/
theorem exists_kept_of_seen {s : Session Float} (hs : r.browser.session = some s)
    (hu : r.browser.upload = some u) (htext : Files.decode? u.content = some text)
    (hseen : r.browser.memory.seen = some u.content) :
    ∃ t, r.outcome.session = some t ∧ (¬r.PressesLoad → t.schema = s.schema) ∧
      (r.pressed = [] → s.Kept t) := by
  cases hlooks : r.looks with
  | false =>
    exact ⟨s, (outcome_of_not_looks hlooks).2.2 s hs, fun _ => rfl, fun _ => .refl s⟩
  | true =>
    obtain ⟨opening, rest, hopening, hrest, hasked, hdoes⟩ := exists_asked_outcome hlooks hu htext
    rw [if_pos hseen, opening_eq_nil hs hopening] at hasked
    rw [hasked] at hdoes
    obtain ⟨t, ht, hschema, hkept⟩ := hdoes.keeps hs
    refine ⟨t, ht, fun hpress => hschema fun op hop => ?_, fun hpressed => hkept fun op hop => ?_⟩
    · exact loads_eq_false (hrest op hop) hpress
    · exact isQuiet_of_asked (hrest op hop) hpressed

end Run

namespace Browser

variable {before : List Run} {r : Run} {u : Upload} {text : String}

/-- **When an upload is loaded**: whatever is done to the page from one run to the next, a
run that holds a text and comes to look at it loads it, and once, if no run that did so
before held a file or the last one that did held another content. A page that can be drawn
comes to look unless the theme is switched; so if it is not while the uploader holds a file,
what counts is what the uploader held last. Whatever the events, a page that holds a file can
be drawn (`history_runs`). An upload that is not loaded leaves the schema
alone unless a button that loads one was pressed, and the session if none was. -/
theorem upload_passed_when_new (h : History (before ++ [r])) (hu : r.browser.upload = some u)
    (htext : Files.decode? u.content = some text) :
    (.load text u.name ∈ r.outcome.asked ↔
      r.looks = true ∧ lastHeld (before.filter Run.looks) ≠ some u.content) ∧
    ((∀ p ∈ before ++ [r], p.browser.upload.isSome = true →
        p.browser.Drawable ∧ "theme_btn" ∉ p.pressed) →
      (.load text u.name ∈ r.outcome.asked ↔ lastHeld before ≠ some u.content)) ∧
    (∀ p ∈ before ++ [r], p.browser.Drawable → (p.looks = true ↔ "theme_btn" ∉ p.pressed)) ∧
    (r.looks = true → ∃ opening rest, (∀ op ∈ opening, Opening r.browser.session.isNone op) ∧
      (∀ op ∈ rest, Asked r.pressed op) ∧ r.Does r.outcome.asked ∧
      r.outcome.asked = opening ++
        (if lastHeld (before.filter Run.looks) = some u.content then []
          else [.load text u.name]) ++ rest) ∧
    (lastHeld (before.filter Run.looks) = some u.content → ∀ s, r.browser.session = some s →
      ∃ t, r.outcome.session = some t ∧ (¬r.PressesLoad → t.schema = s.schema) ∧
        (r.pressed = [] → s.Kept t)) := by
  have hiff := Run.load_mem_asked_iff hu htext
  refine ⟨?_, fun hall => ?_, fun p _ => Run.looks_iff, fun hlooks => ?_, fun hseen s hs => ?_⟩
  · rwa [h.seen_eq] at hiff
  · have hlooks : ∀ p ∈ before ++ [r], p.browser.upload.isSome = true → p.looks = true :=
      fun p hp hheld => (Run.looks_iff (hall p hp hheld).1).2 (hall p hp hheld).2
    have hbefore : lastHeld (before.filter Run.looks) = lastHeld before :=
      lastHeld_filter fun p hp => hlooks p (List.mem_append_left _ hp)
    have hr : r.looks = true := hlooks r (by simp) (by rw [hu]; rfl)
    rwa [h.seen_eq, hbefore, hr, eq_self_iff_true, true_and] at hiff
  · obtain ⟨opening, rest, hopening, hrest, hasked, hdoes⟩ :=
      Run.exists_asked_outcome hlooks hu htext
    rw [h.seen_eq] at hasked
    exact ⟨opening, rest, hopening, hrest, hdoes, hasked⟩
  · exact Run.exists_kept_of_seen hs hu htext (h.seen_eq.trans hseen)

/-- The browser when another upload, or none, was handed over. -/
def holding (b : Browser) (upload : Option Upload) : Browser :=
  { b with upload := upload }

theorem Drawable.holding {b : Browser} (h : b.Drawable) (upload : Option Upload) :
    (b.holding upload).Drawable :=
  h

theorem history_start (files : Files) (environment : List (String × String))
    (session : Option (Session Float)) (pressed : List String) :
    History ([] ++ [⟨start files environment session, pressed⟩]) :=
  .snoc .nil rfl

/-- A run may find the uploader holding something else, and any buttons pressed. -/
theorem history_holding {runs : List Run} (h : History (runs ++ [r])) (upload : Option Upload)
    (pressed : List String) :
    History (runs ++ [r] ++ [⟨r.outcome.holding upload, pressed⟩]) :=
  .snoc h (seenAfter_concat runs r).symm

/-- The page without files and settings. -/
theorem drawable_plain : (start (.ofList []) [] (some (Session.start .stock))).Drawable := by
  have hsetUp : (start (.ofList []) [] (some (Session.start .stock))).setUp.toOption.any
      (fun _ => true) = true := by
    decide +kernel
  obtain ⟨⟨s, j⟩, hok, -⟩ := exists_eq_ok_of_any hsetUp
  exact ⟨⟨s, j, hok⟩, rfl⟩

/-- A first upload is loaded, though buttons were pressed at the same time. -/
theorem upload_passed_when_new_first :
    let u : Upload := ⟨"a.prisma", "model A \x7b\n\x7d\n".toUTF8⟩
    let first : Run := ⟨start (.ofList []) [] (some (Session.start .stock)), []⟩
    let r : Run := ⟨first.outcome.holding (some u), ["Demo schema", "Select all"]⟩
    History [first, r] ∧ r.browser.upload = some u ∧
      Files.decode? u.content = some "model A \x7b\n\x7d\n" ∧
      .load "model A \x7b\n\x7d\n" "a.prisma" ∈ r.outcome.asked := by
  intro u first r
  have hfirst : History ([] ++ [first]) := history_start _ _ _ []
  have hhistory : History ([] ++ [first] ++ [r]) := history_holding hfirst (some u) r.pressed
  have htext : Files.decode? u.content = some "model A \x7b\n\x7d\n" := by decide +kernel
  have hdrawable : r.browser.Drawable :=
    (Run.drawable_outcome (r := first) drawable_plain).holding (some u)
  have hall : ∀ p ∈ [first, r], p.browser.upload.isSome = true →
      p.browser.Drawable ∧ "theme_btn" ∉ p.pressed :=
    List.forall_mem_cons.2 ⟨fun h => (by cases h), List.forall_mem_singleton.2 fun _ =>
      ⟨hdrawable, by decide⟩⟩
  refine ⟨hhistory, rfl, htext, ?_⟩
  exact ((upload_passed_when_new hhistory rfl htext).2.1 hall).2 nofun

/-- An upload that is taken back and handed over again is not loaded again. -/
theorem upload_not_passed_again :
    let u : Upload := ⟨"a.prisma", "model A \x7b\n\x7d\n".toUTF8⟩
    let first : Run := ⟨start (.ofList []) [] (some (Session.start .stock)), []⟩
    let handed : Run := ⟨first.outcome.holding (some u), []⟩
    let taken : Run := ⟨handed.outcome.holding none, []⟩
    let again : Run := ⟨taken.outcome.holding (some u), []⟩
    History [first, handed, taken, again] ∧
      (∀ p ∈ [first, handed, taken, again], p.looks = true) ∧
      taken.browser.upload = none ∧ again.browser.upload = some u ∧
      Files.decode? u.content = some "model A \x7b\n\x7d\n" ∧
      .load "model A \x7b\n\x7d\n" "a.prisma" ∉ again.outcome.asked := by
  intro u first handed taken again
  have hfirst : History ([] ++ [first]) := history_start _ _ _ []
  have hhistory : History ([] ++ [first] ++ [handed] ++ [taken] ++ [again]) :=
    history_holding (history_holding (history_holding hfirst (some u) []) none []) (some u) []
  have htext : Files.decode? u.content = some "model A \x7b\n\x7d\n" := by decide +kernel
  have hhanded : handed.browser.Drawable :=
    (Run.drawable_outcome (r := first) drawable_plain).holding (some u)
  have htaken : taken.browser.Drawable := (Run.drawable_outcome hhanded).holding none
  have hagain : again.browser.Drawable := (Run.drawable_outcome htaken).holding (some u)
  have hall : ∀ p ∈ [first, handed, taken, again], p.looks = true := by
    have hlooks {p : Run} (h : p.browser.Drawable) (hp : p.pressed = []) : p.looks = true :=
      (Run.looks_iff h).2 (by rw [hp]; exact List.not_mem_nil)
    refine List.forall_mem_cons.2 ⟨hlooks (p := first) drawable_plain rfl, ?_⟩
    refine List.forall_mem_cons.2 ⟨hlooks hhanded rfl, ?_⟩
    exact List.forall_mem_cons.2 ⟨hlooks htaken rfl,
      List.forall_mem_singleton.2 (hlooks hagain rfl)⟩
  have hseen : again.browser.memory.seen = some u.content := by
    have hbefore : [first, handed, taken].filter Run.looks = [first, handed, taken] :=
      List.filter_eq_self.2 fun p hp => hall p (List.mem_append_left [again] hp)
    rw [hhistory.seen_eq]
    show lastHeld ([first, handed, taken].filter Run.looks) = _
    rw [hbefore]
    rfl
  refine ⟨hhistory, hall, rfl, rfl, htext, fun hload => ?_⟩
  exact ((Run.load_mem_asked_iff rfl htext).1 hload).2 hseen

end Browser
end SchemaDiagram

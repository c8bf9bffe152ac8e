/-
# Runs of the page

The page runs over and over, each time for a browser in which something was done: buttons
were pressed, one or several, boxes were ticked, a text was typed, a file was handed over
or taken back, or all of that at once. What the page looked at last stays in its memory
from one run to the next, and nothing else of what comes before counts. Whatever the runs,
it is the content that the uploader held last when a run came to look at it
(`History.seen_eq`).

Key definitions: `Run`, `Run.looks`, `seenAfter`, `History`, `lastHeld`, `Browser.runs`,
`Browser.Prepares`, `Browser.After`.
Key theorems: `Run.seen_outcome`, `History.seenAfter_eq`, `Browser.After.step`,
`Browser.history_runs`.
-/
import SchemaDiagram.Proofs.Page.Upload

namespace SchemaDiagram

/-- A run of the page: the browser for which it is drawn, and the buttons that were
pressed. -/
structure Run where
  browser : Browser
  pressed : List String

namespace Run

/-- The browser once the run is over. -/
def outcome (r : Run) : Browser :=
  (r.browser.draw r.pressed).2

/-- The run comes to the element that takes an upload. -/
def looks (r : Run) : Bool :=
  r.outcome.page.any Drawn.isFileInput

end Run

/-- What was last looked at, once some runs are over. -/
def seenAfter (runs : List Run) : Option ByteArray :=
  runs.getLast?.bind fun r => r.outcome.memory.seen

/-- Runs of the page in one browser: each finds in mind what was last looked at, and the
first finds nothing. -/
inductive History : List Run → Prop
  | nil : History []
  | snoc {runs : List Run} {r : Run} (h : History runs)
    (hseen : r.browser.memory.seen = seenAfter runs) : History (runs ++ [r])

/-- The content that the uploader held last in some runs. -/
def lastHeld (runs : List Run) : Option ByteArray :=
  (runs.filterMap fun r => r.browser.upload).getLast?.map (·.content)

theorem seenAfter_concat (runs : List Run) (r : Run) :
    seenAfter (runs ++ [r]) = r.outcome.memory.seen := by
  rw [seenAfter, List.getLast?_concat, Option.bind_some]

theorem lastHeld_concat (runs : List Run) (r : Run) :
    lastHeld (runs ++ [r]) = (r.browser.upload.map (·.content)).or (lastHeld runs) := by
  rw [lastHeld, List.filterMap_append, lastHeld]
  cases hu : r.browser.upload <;> simp [hu]

/-- Runs that hold nothing do not count. -/
theorem lastHeld_filter {runs : List Run} {p : Run → Bool}
    (h : ∀ r ∈ runs, r.browser.upload.isSome = true → p r = true) :
    lastHeld (runs.filter p) = lastHeld runs := by
  rw [lastHeld, List.filterMap_filter, lastHeld]
  refine congrArg (fun us => (List.getLast? us).map _) (List.filterMap_congr fun r hr => ?_)
  cases hu : r.browser.upload with
  | none => exact ite_self none
  | some u => exact if_pos (h r hr (by rw [hu]; rfl))

/-! ### One run -/

/-- The page can be drawn for the session that there is. -/
def Browser.Drawable (b : Browser) : Prop :=
  (∃ s j, b.setUp = .ok (s, j)) ∧ b.session.isSome = true

/-- The browser takes and holds an upload only where the page can be drawn. -/
def Browser.Hosting (b : Browser) : Prop :=
  b.upload.isSome = true ∨ b.page.any Drawn.isFileInput = true → b.Drawable

namespace Run

variable {r : Run} {s : Settings Float} {j : Journal}

/-- What the run starts from. -/
def visit (r : Run) (s : Settings Float) (j : Journal) : Visit :=
  r.browser.visit s j r.pressed

theorem outcome_of_setUp (h : r.browser.setUp = .ok (s, j)) :
    r.outcome =
      r.browser.take ((pageDraft r.browser.session.isNone).after (r.visit s j)) := by
  rw [outcome, Browser.draw, h, Draft.after, visit]
  dsimp only
  split <;> next heq => rw [heq]

theorem outcome_of_error {f : PageFault} (h : r.browser.setUp = .error f) :
    r.outcome = { r.browser with page := [], asked := [] } := by
  rw [outcome, Browser.draw, h]

/-- A run ends above the element that takes an upload, or comes to look at the upload. -/
theorem draft_cases (h : r.browser.setUp = .ok (s, j)) :
    let isNew := r.browser.session.isNone
    let v := r.visit s j
    (r.looks = false ∧ Visit.Turns (Opening isNew) v ((pageDraft isNew).after v) ∧
        (isNew = false → "theme_btn" ∈ r.pressed)) ∨
      r.looks = true ∧ "theme_btn" ∉ r.pressed ∧
        ∃ w, Visit.Turns (Opening isNew) v w ∧
          Visit.Turns (Asked r.pressed) (Sidebar.upload.after w) ((pageDraft isNew).after v) := by
  intro isNew v
  have hlooks : r.looks = ((pageDraft isNew).after v).drawn.any Drawn.isFileInput := by
    rw [looks, outcome_of_setUp h]
    rfl
  rw [hlooks]
  obtain ⟨hturns, hany, htheme⟩ | hlooked := pageDraft_cases isNew v
  · exact .inl ⟨hany, hturns, htheme⟩
  · exact .inr hlooked

/-- What a run does on opening a session it does in none that there is already. -/
theorem opening_eq_nil {t : Session Float} (ht : r.browser.session = some t)
    {ops : List (Op Float)} (hops : ∀ op ∈ ops, Opening r.browser.session.isNone op) :
    ops = [] := by
  refine List.eq_nil_iff_forall_not_mem.2 fun op hop => ?_
  have hnew := (hops op hop).1
  rw [ht] at hnew
  cases hnew

/-- A run that does not come to look at the upload asks for the demonstration schema at
most, and for nothing in a session that there is already. -/
theorem outcome_of_not_looks (h : r.looks = false) :
    r.outcome.memory.seen = r.browser.memory.seen ∧
      (∀ op ∈ r.outcome.asked, op = .loadDemo) ∧
      ∀ t, r.browser.session = some t → r.outcome.session = some t := by
  cases hsetUp : r.browser.setUp with
  | error f =>
    rw [outcome_of_error hsetUp]
    exact ⟨rfl, nofun, fun t ht => ht⟩
  | ok p =>
    obtain ⟨-, ⟨⟨ops, hops, hfollows⟩, hseen⟩, -⟩ | ⟨hlooks, -⟩ := draft_cases hsetUp
    · rw [outcome_of_setUp hsetUp]
      refine ⟨hseen, fun op hop => ?_, fun t ht => ?_⟩
      · have hasked : ((pageDraft r.browser.session.isNone).after (r.visit p.1 p.2)).asked = ops :=
          hfollows.asked
        exact (hops op (hasked ▸ hop)).2
      · have hwork := hfollows.work
        rw [opening_eq_nil ht hops] at hwork
        refine congrArg some ((Prod.mk.inj hwork).1.trans ?_)
        rw [visit, Browser.visit, ht]
        rfl
    · rw [h] at hlooks
      cases hlooks

/-- Only switching the theme keeps a page that can be drawn from looking. -/
theorem looks_iff (h : r.browser.Drawable) : r.looks = true ↔ "theme_btn" ∉ r.pressed := by
  obtain ⟨⟨s, j, hsetUp⟩, hsession⟩ := h
  obtain ⟨hlooks, -, htheme⟩ | ⟨hlooks, htheme, -⟩ := draft_cases hsetUp
  · have hpressed := htheme (by simpa using hsession)
    rw [hlooks]
    exact ⟨nofun, fun hn => absurd hpressed hn⟩
  · exact ⟨fun _ => htheme, fun _ => hlooks⟩

/-- The page can be drawn again. -/
theorem drawable_outcome (h : r.browser.Drawable) : r.outcome.Drawable := by
  obtain ⟨⟨s, j, hsetUp⟩, -⟩ := h
  rw [outcome_of_setUp hsetUp]
  exact ⟨⟨s, j, hsetUp⟩, rfl⟩

theorem hosting_outcome (h : r.browser.Hosting) : r.outcome.Hosting := by
  intro htakes
  cases hsetUp : r.browser.setUp with
  | error f =>
    rw [outcome_of_error hsetUp] at htakes ⊢
    obtain hheld | hpage := htakes
    · exact h (.inl hheld)
    · cases hpage
  | ok p =>
    rw [outcome_of_setUp hsetUp]
    exact ⟨⟨p.1, p.2, hsetUp⟩, rfl⟩

/-- A run that comes to look at the upload has looked at it then. -/
theorem seen_outcome (r : Run) :
    r.outcome.memory.seen =
      if r.looks then (r.browser.upload.map (·.content)).or r.browser.memory.seen
      else r.browser.memory.seen := by
  cases hlooks : r.looks with
  | false => exact (outcome_of_not_looks hlooks).1
  | true =>
    cases hsetUp : r.browser.setUp with
    | error f =>
      rw [looks, outcome_of_error hsetUp] at hlooks
      cases hlooks
    | ok p =>
      obtain ⟨hnot, -⟩ | ⟨-, -, w, habove, hbelow⟩ := draft_cases hsetUp
      · rw [hlooks] at hnot
        cases hnot
      · rw [outcome_of_setUp hsetUp, if_pos rfl]
        have hseen := hbelow.2
        rw [(Sidebar.frame_upload w).1, habove.upload_eq, habove.2] at hseen
        exact hseen

end Run

/-! ### One run after the other -/

/-- The page has in mind what the uploader held last when a run came to look at it. -/
theorem History.seenAfter_eq {runs : List Run} (h : History runs) :
    seenAfter runs = lastHeld (runs.filter Run.looks) := by
  induction h with
  | nil => rfl
  | @snoc runs r _ hseen ih =>
    rw [seenAfter_concat, Run.seen_outcome, hseen, ih, List.filter_append]
    cases hlooks : r.looks with
    | false =>
      rw [List.filter_cons_of_neg (by simp [hlooks]), List.filter_nil, List.append_nil]
      rfl
    | true => rw [List.filter_cons_of_pos hlooks, List.filter_nil, lastHeld_concat, if_pos rfl]

/-- A run finds in mind what the uploader held last when a run before came to look at it. -/
theorem History.seen_eq {before : List Run} {r : Run} (h : History (before ++ [r])) :
    r.browser.memory.seen = lastHeld (before.filter Run.looks) := by
  generalize hruns : before ++ [r] = runs at h
  cases h with
  | nil => exact absurd hruns (by simp)
  | snoc h hseen =>
    obtain ⟨rfl, hr⟩ := List.append_inj' hruns rfl
    obtain rfl := (List.cons.inj hr).1
    rw [hseen, h.seenAfter_eq]

namespace Browser

/-- The runs in which the page is drawn for some presses, or for none. -/
def redraws (b : Browser) (pressed : List String) : List Run :=
  match b.draw pressed with
  | (.again, c) => [⟨b, pressed⟩, ⟨c, []⟩]
  | _ => [⟨b, pressed⟩]

/-- The runs for an event. -/
def runsFor (b : Browser) (e : Event) : List Run :=
  match b.ready e with
  | .error _ => []
  | .ok (c, pressed) => c.redraws pressed

/-- The runs for some events, one after the other. -/
def runs (b : Browser) : List Event → List Run
  | [] => []
  | e :: events => b.runsFor e ++ (b.step e).2.runs events

/-- The browser that an event leads to before the page is drawn, if it is. -/
def prepared : Except (Reply × Browser) (Browser × List String) → Browser
  | .error (_, c) => c
  | .ok (c, _) => c

/-- What an event may do to the browser before the page is drawn: other boxes are ticked,
another text is typed, and another file is handed over where the page takes one. -/
structure Prepares (b c : Browser) : Prop where
  files : c.files = b.files
  environment : c.environment = b.environment
  session : c.session.isSome = b.session.isSome
  page : c.page = b.page
  seen : c.memory.seen = b.memory.seen
  upload : c.upload.isSome = true →
    b.upload.isSome = true ∨ b.page.any Drawn.isFileInput = true

theorem Prepares.refl (b : Browser) : b.Prepares b :=
  ⟨rfl, rfl, rfl, rfl, rfl, .inl⟩

theorem prepares_ready (b : Browser) (e : Event) : b.Prepares (prepared (b.ready e)) := by
  cases e with
  | visit => exact .refl b
  | press button =>
    rw [ready]
    split <;> exact .refl b
  | flip control =>
    rw [ready]
    split
    · unfold flip
      dsimp only
      split
      · exact ⟨rfl, rfl, rfl, rfl, rfl, .inl⟩
      · next hsession =>
        have hsome : b.session.isSome = true := by rw [hsession]; rfl
        split <;> exact ⟨rfl, rfl, hsome.symm, rfl, rfl, .inl⟩
    · exact .refl b
  | type text =>
    rw [ready]
    split
    · exact .refl b
    · exact ⟨rfl, rfl, rfl, rfl, rfl, .inl⟩
  | upload file =>
    rw [ready]
    split
    · next htakes => exact ⟨rfl, rfl, rfl, rfl, rfl, fun _ => .inr htakes⟩
    · exact .refl b
  | removeUpload =>
    rw [ready]
    split
    · next htakes => exact ⟨rfl, rfl, rfl, rfl, rfl, fun _ => .inr htakes⟩
    · exact .refl b

variable {b c : Browser} {before : List Run}

theorem Prepares.drawable (h : b.Prepares c) (hb : b.Drawable) : c.Drawable := by
  obtain ⟨⟨s, j, hsetUp⟩, hsession⟩ := hb
  refine ⟨⟨s, j, ?_⟩, h.session.trans hsession⟩
  rwa [setUp, h.files, h.environment]

theorem Prepares.hosting (h : b.Prepares c) (hb : b.Hosting) : c.Hosting := by
  rintro (hheld | hpage)
  · exact h.drawable (hb (h.upload hheld))
  · rw [h.page] at hpage
    exact h.drawable (hb (.inr hpage))

/-- The browser after some runs. -/
structure After (before : List Run) (b : Browser) : Prop where
  history : History before
  seen : b.memory.seen = seenAfter before
  hosting : b.Hosting
  hosted : ∀ p ∈ before, p.browser.Hosting

namespace After

theorem start (files : Files) (environment : List (String × String))
    (session : Option (Session Float)) : After [] (start files environment session) where
  history := .nil
  seen := rfl
  hosting := by
    rintro (hheld | hpage)
    · cases hheld
    · cases hpage
  hosted := List.forall_mem_nil _

theorem prepared (h : After before b) (e : Event) : After before (prepared (b.ready e)) :=
  { h with
    seen := (b.prepares_ready e).seen.trans h.seen
    hosting := (b.prepares_ready e).hosting h.hosting }

/-- Once the page is drawn, only controls are forgotten. -/
theorem settle (h : After before b) (page : List Drawn) (e : Ending) (drafts : Nat) :
    After before (b.settle page e drafts) := by
  cases e <;> exact ⟨h.history, h.seen, h.hosting, h.hosted⟩

theorem run (h : After before b) (pressed : List String) :
    After (before ++ [⟨b, pressed⟩]) (Run.outcome ⟨b, pressed⟩) where
  history := .snoc h.history h.seen
  seen := (seenAfter_concat before ⟨b, pressed⟩).symm
  hosting := Run.hosting_outcome h.hosting
  hosted := List.forall_mem_append.2 ⟨h.hosted, List.forall_mem_singleton.2 h.hosting⟩

/-- Drawing the page, once or twice, goes on with the runs before. -/
theorem redraw (h : After before b) (pressed : List String) :
    After (before ++ b.redraws pressed) (b.redraw pressed).2 := by
  have hfirst := h.run pressed
  unfold redraws Browser.redraw
  rw [Run.outcome] at hfirst
  rcases hdraw : b.draw pressed with ⟨_ | _ | f, c⟩ <;> rw [hdraw] at hfirst
  · exact hfirst.settle b.page .complete 1
  · have hagain := hfirst.run []
    rw [List.append_assoc] at hagain
    exact hagain.settle b.page (c.draw []).1 2
  · exact hfirst.settle b.page (.failed f) 1

theorem step (h : After before b) (e : Event) :
    After (before ++ b.runsFor e) (b.step e).2 := by
  have hready := h.prepared e
  unfold runsFor Browser.step
  cases hr : b.ready e with
  | error r =>
    rw [hr] at hready
    rwa [List.append_nil]
  | ok p =>
    rw [hr] at hready
    exact hready.redraw p.2

theorem exists_runs (h : After before b) (events : List Event) :
    ∃ c, After (before ++ b.runs events) c := by
  induction events generalizing b before with
  | nil =>
    rw [runs, List.append_nil]
    exact ⟨b, h⟩
  | cons e events ih =>
    rw [runs, ← List.append_assoc]
    exact ih (h.step e)

end After

/-- The runs for events are runs of the page in one browser, and in those that hold an upload
the page can be drawn. -/
theorem history_runs (files : Files) (environment : List (String × String))
    (session : Option (Session Float)) (events : List Event) :
    History ((start files environment session).runs events) ∧
      ∀ p ∈ (start files environment session).runs events,
        p.browser.upload.isSome = true → p.browser.Drawable := by
  obtain ⟨_, hafter⟩ := (After.start files environment session).exists_runs events
  exact ⟨hafter.history, fun p hp hheld => hafter.hosted p hp (.inl hheld)⟩

end Browser
end SchemaDiagram

/-
# The upload on the page

The page looks at the upload once while it is drawn, unless it ends before it has drawn
the element that takes one: because the theme was switched, or because a session that has
just begun could not show the demonstration schema. An upload with the content that was
last looked at is left alone; any other is kept in mind and, if it is text, loaded. Before
that nothing is asked of a session that there is already, and after it no upload is handed
over.

Key definitions: `Sidebar.handOver`, `aboveUpload`, `belowUpload`, `Opening`.
Key theorems: `Sidebar.frame_upload`, `Sidebar.follows_upload`, `pageDraft_eq`,
`pageDraft_cases`.
-/
import Mathlib
import SchemaDiagram.Proofs.Page.Asks

namespace SchemaDiagram

open Draft

/-! ### Looking at the upload -/

namespace Sidebar

/-- The visit with the element that takes an upload drawn. -/
def withInput (v : Visit) : Visit :=
  { v with
    drawn := v.drawn ++
      [⟨[.sidebar], .fileInput "Upload schema file" ["prisma", "txt"] "schema_upload"⟩] }

/-- The visit with an upload kept in mind. -/
def withSeen (u : Upload) (v : Visit) : Visit :=
  { v with memory := { v.memory with seen := some u.content } }

/-- What the page does with an upload that it has not looked at. -/
def handOver (u : Upload) : Draft Unit := do
  modify (withSeen u)
  match Files.decode? u.content with
  | none => say "Could not read the selected file." true
  | some text =>
    if let .flag true ← perform (.load text u.name) then refresh

/-- An upload with another content than the last one is handed over. -/
theorem after_upload (v : Visit) :
    upload.after v =
      match v.upload with
      | none => withInput v
      | some u =>
        if v.memory.seen = some u.content then withInput v
        else (handOver u).after (withInput v) := by
  obtain ⟨files, journal, notes, _ | u, pressed, memory, session, asked, drawn⟩ := v
  · rfl
  · change Draft.after (if u.isNew memory.seen then handOver u else pure ()) _ = _
    by_cases h : memory.seen = some u.content
    · have hold : ¬u.isNew memory.seen = true := fun hnew => Upload.isNew_iff.1 hnew h
      rw [if_neg hold]
      dsimp only
      rw [if_pos h]
      rfl
    · rw [if_pos (Upload.isNew_iff.2 h)]
      dsimp only
      rw [if_neg h]
      rfl

variable {v : Visit} {u : Upload}

/-- After a text is loaded nothing else is asked. -/
theorem turns_handOver {text : String} (h : Files.decode? u.content = some text) (v : Visit) :
    Visit.Turns (fun _ => False) ((perform (.load text u.name)).after (withSeen u v))
      ((handOver u).after v) := by
  unfold handOver
  rw [h, after_bind]
  refine turns_after_bind (v := withSeen u v) fun a => ?_
  split
  · exact asks_refresh _ rfl
  · exact .refl _

/-- An upload that is new is kept in mind, whether it is text or not. -/
theorem frame_handOver (u : Upload) (v : Visit) :
    ((handOver u).after v).memory.seen = some u.content ∧
      ((handOver u).after v).pressed = v.pressed ∧ v.drawn <+: ((handOver u).after v).drawn := by
  cases h : Files.decode? u.content with
  | none =>
    unfold handOver
    rw [h]
    exact ⟨rfl, rfl, List.prefix_rfl⟩
  | some text =>
    have hrest := turns_handOver h v
    rw [after_perform] at hrest
    exact ⟨hrest.2, hrest.pressed_eq, hrest.follows_nil.drawn⟩

/-- The upload, if there is one, is what was last looked at. -/
theorem frame_upload (v : Visit) :
    (upload.after v).memory.seen = (v.upload.map (·.content)).or v.memory.seen ∧
      (upload.after v).pressed = v.pressed ∧ (withInput v).drawn <+: (upload.after v).drawn := by
  rw [after_upload]
  cases v.upload with
  | none => exact ⟨rfl, rfl, List.prefix_rfl⟩
  | some u =>
    dsimp only
    split
    · next hseen => exact ⟨hseen, rfl, List.prefix_rfl⟩
    · exact frame_handOver u (withInput v)

theorem any_isFileInput_upload (v : Visit) :
    (upload.after v).drawn.any Drawn.isFileInput = true := by
  obtain ⟨more, hmore⟩ := (frame_upload v).2.2
  rw [← hmore, withInput, List.any_append, List.any_append, Bool.or_eq_true, Bool.or_eq_true]
  exact .inl (.inr rfl)

/-- An upload that is text is loaded unless it is what was last looked at. -/
theorem follows_upload {text : String} (hu : v.upload = some u)
    (htext : Files.decode? u.content = some text) :
    Visit.Follows (if v.memory.seen = some u.content then [] else [.load text u.name]) v
      (upload.after v) := by
  have hdrawn : Visit.Follows [] v (withInput v) :=
    ⟨rfl, rfl, rfl, rfl, List.prefix_append _ _, (List.append_nil _).symm, rfl⟩
  rw [after_upload, hu]
  dsimp only
  split
  · exact hdrawn
  · have hseen : Visit.Follows [] (withInput v) (withSeen u (withInput v)) :=
      ⟨rfl, rfl, rfl, rfl, List.prefix_rfl, (List.append_nil _).symm, rfl⟩
    have hload := (follows_perform (.load text u.name) (withSeen u (withInput v))).trans
      (turns_handOver htext (withInput v)).follows_nil
    exact (hdrawn.trans hseen).trans hload

/-- The button that switches the theme is known by its key; it is all that is drawn. -/
theorem exists_run_theme (v : Visit) :
    ∃ w b, w.drawn = v.drawn ++ [⟨[.sidebar], .button b⟩] ∧
      theme.run v = if "theme_btn" ∈ v.pressed then .error .again w else .ok () w := by
  have hid (label : String) :
      Button.id { label := label, key := some "theme_btn" } = "theme_btn" := rfl
  unfold theme
  simp only [EStateM.run_bind, EStateM.run_get, button_eq, hid]
  by_cases h : "theme_btn" ∈ v.pressed
  · simp only [if_pos h, List.contains_iff_mem.2 h]
    exact ⟨_, _, rfl, rfl⟩
  · simp only [if_neg h, Bool.eq_false_iff.2 (mt List.contains_iff_mem.1 h)]
    exact ⟨_, _, rfl, rfl⟩

end Sidebar

/-! ### The whole page -/

/-- What comes in the sidebar before the page looks at the upload. -/
def underBanner : Draft Unit := do
  markdown [.sidebar] Sidebar.banner
  Sidebar.theme
  markdown [.sidebar] (Sidebar.heading "01 // Load Schema")

/-- What comes before the page looks at the upload. -/
def aboveUpload (isNew : Bool) : Draft Unit := do
  draw [] (.head "Atlas" "◫" "wide" "expanded")
  draw [] (.style (Theme.of (← get).memory.isDark).palette)
  if isNew then effect .loadDemo
  underBanner

/-- What comes in the sidebar after the page looked at the upload. -/
def belowUpload : Draft Unit := do
  Sidebar.loads
  markdown [.sidebar] (Sidebar.heading "02 // Models")
  Sidebar.search
  Sidebar.selections
  Sidebar.entities
  let shown := (← get).session.shown
  if !shown.isEmpty then
    markdown [.sidebar] (Sidebar.heading "03 // Fields")
    shown.forM fun e => Sidebar.fields e.name

theorem pageDraft_eq (isNew : Bool) :
    pageDraft isNew =
      aboveUpload isNew >>= fun _ =>
        Sidebar.upload >>= fun _ => belowUpload >>= fun _ => Content.draft := by
  unfold pageDraft Sidebar.draft aboveUpload underBanner belowUpload
  cases isNew <;> simp only [bind_assoc, Bool.false_eq_true, if_false, if_true]

/-- What is asked above: the demonstration schema, in a session that has just begun. -/
def Opening (isNew : Bool) (op : Op Float) : Prop :=
  isNew = true ∧ op = .loadDemo

variable {isNew : Bool}

theorem asks_aboveUpload {pressed : List String} :
    Asks (Opening isNew) pressed (aboveUpload isNew) := by
  unfold aboveUpload
  refine asks_draw.bind fun _ => asks_get.bind fun v => asks_draw.bind fun _ => ?_
  have hrest : Asks (Opening isNew) pressed underBanner :=
    asks_markdown.bind fun _ => Sidebar.asks_theme.bind fun _ => asks_markdown
  dsimp only
  split
  · next hnew => exact (asks_effect ⟨hnew, rfl⟩).bind fun _ => hrest
  · exact hrest

theorem asks_belowUpload {pressed : List String} : Asks (Asked pressed) pressed belowUpload := by
  unfold belowUpload
  refine Sidebar.asks_loads.bind fun _ => ?_
  refine asks_markdown.bind fun _ => ?_
  refine Sidebar.asks_search.bind fun _ => ?_
  refine Sidebar.asks_selections.bind fun _ => ?_
  refine Sidebar.asks_entities.bind fun _ => ?_
  refine asks_get.bind fun v => ?_
  dsimp only
  split
  · exact asks_markdown.bind fun _ => asks_forM fun e => Sidebar.asks_fields e.name
  · exact asks_pure

/-- What comes under the banner takes no upload, and ends early if the theme is switched. -/
theorem underBanner_cases (v : Visit) :
    ∃ w, w.drawn.any Drawn.isFileInput = v.drawn.any Drawn.isFileInput ∧
      ((∃ i, underBanner.run v = .error i w) ∧ "theme_btn" ∈ v.pressed ∨
        underBanner.run v = .ok () w ∧ "theme_btn" ∉ v.pressed) := by
  obtain ⟨w, b, hdrawn, hw⟩ := Sidebar.exists_run_theme
    { v with drawn := v.drawn ++ [⟨[.sidebar], .markdown Sidebar.banner⟩] }
  have hany : w.drawn.any Drawn.isFileInput = v.drawn.any Drawn.isFileInput := by
    rw [hdrawn]
    simp [Drawn.isFileInput]
  unfold underBanner
  simp only [EStateM.run_bind, draw_eq, markdown, hw]
  by_cases h : "theme_btn" ∈ v.pressed
  · simp only [if_pos h]
    exact ⟨w, hany, .inl ⟨⟨_, rfl⟩, h⟩⟩
  · simp only [if_neg h]
    refine ⟨_, ?_, .inr ⟨rfl, h⟩⟩
    rw [List.any_append, hany]
    simp [Drawn.isFileInput]

/-- The page ends above the element that takes an upload if the theme is switched, and in a
session that there is already only then. -/
theorem aboveUpload_cases (isNew : Bool) (v : Visit) :
    ∃ w, w.drawn.any Drawn.isFileInput = v.drawn.any Drawn.isFileInput ∧
      ((∃ i, (aboveUpload isNew).run v = .error i w) ∧
          (isNew = false → "theme_btn" ∈ v.pressed) ∨
        (aboveUpload isNew).run v = .ok () w ∧ "theme_btn" ∉ v.pressed) := by
  let u : Visit := { v with drawn := v.drawn ++ [⟨[], .head "Atlas" "◫" "wide" "expanded"⟩] ++
    [⟨[], .style (Theme.of v.memory.isDark).palette⟩] }
  have hany : u.drawn.any Drawn.isFileInput = v.drawn.any Drawn.isFileInput := by
    simp [u, Drawn.isFileInput]
  cases isNew with
  | false =>
    have hrun : (aboveUpload false).run v = underBanner.run u := rfl
    rw [hrun]
    obtain ⟨w, hw, hcases⟩ := underBanner_cases u
    exact ⟨w, hw.trans hany, hcases.imp_left fun h => ⟨h.1, fun _ => h.2⟩⟩
  | true =>
    have hnever : true = false → "theme_btn" ∈ v.pressed := fun hnew => by cases hnew
    -- the demonstration schema may fail to be framed
    have hrun : (aboveUpload true).run v = (perform .loadDemo >>= fun _ => underBanner).run u := by
      unfold aboveUpload effect
      simp only [EStateM.run_bind, EStateM.run_get, draw_eq, if_true, u]
      cases (perform .loadDemo).run u <;> rfl
    have hshown := after_perform .loadDemo u
    rw [hrun, EStateM.run_bind]
    rw [after] at hshown
    cases hdemo : (perform .loadDemo).run u with
    | error i w =>
      rw [hdemo] at hshown
      obtain rfl := hshown
      refine ⟨_, ?_, .inl ⟨⟨i, rfl⟩, hnever⟩⟩
      exact hany
    | ok a t =>
      rw [hdemo] at hshown
      obtain ⟨w, hw, hcases⟩ := underBanner_cases t
      obtain rfl := hshown
      exact ⟨w, hw.trans hany, hcases.imp_left fun h => ⟨h.1, hnever⟩⟩

/-- The page ends above the element that takes an upload, or it looks at the upload, and
what it asks after that does not hand it over. -/
theorem pageDraft_cases (isNew : Bool) (v : Visit) :
    (Visit.Turns (Opening isNew) v ((pageDraft isNew).after v) ∧
        ((pageDraft isNew).after v).drawn.any Drawn.isFileInput =
          v.drawn.any Drawn.isFileInput ∧
        (isNew = false → "theme_btn" ∈ v.pressed)) ∨
      ((pageDraft isNew).after v).drawn.any Drawn.isFileInput = true ∧
        "theme_btn" ∉ v.pressed ∧
        ∃ w, Visit.Turns (Opening isNew) v w ∧
          Visit.Turns (Asked v.pressed) (Sidebar.upload.after w) ((pageDraft isNew).after v) := by
  have habove : Visit.Turns (Opening isNew) v ((aboveUpload isNew).after v) :=
    asks_aboveUpload v rfl
  obtain ⟨w, hw, ⟨⟨i, hends⟩, htheme⟩ | ⟨hgoes, htheme⟩⟩ := aboveUpload_cases isNew v
  · have hafter : (pageDraft isNew).after v = (aboveUpload isNew).after v := by
      rw [pageDraft_eq, after_bind, hends, after, hends]
    have hstate : (aboveUpload isNew).after v = w := by rw [after, hends]
    rw [hafter]
    exact .inl ⟨habove, by rw [hstate, hw], htheme⟩
  · have hstate : (aboveUpload isNew).after v = w := by rw [after, hgoes]
    rw [hstate] at habove
    have hpressed : (Sidebar.upload.after w).pressed = v.pressed :=
      (Sidebar.frame_upload w).2.1.trans habove.pressed_eq
    have hbelow : Visit.Turns (Asked v.pressed) (Sidebar.upload.after w)
        ((pageDraft isNew).after v) := by
      rw [pageDraft_eq, after_bind, hgoes]
      exact turns_after_bind fun _ =>
        (asks_belowUpload.bind fun _ => Content.asks_draft) _ hpressed
    refine .inr ⟨?_, htheme, w, habove, hbelow⟩
    obtain ⟨⟨ops, -, hfollows⟩, -⟩ := hbelow
    obtain ⟨more, hmore⟩ := hfollows.drawn
    rw [← hmore, List.any_append, Sidebar.any_isFileInput_upload, Bool.true_or]

end SchemaDiagram

/-
# The sidebar

The sidebar switches the theme, loads schemas, searches and selects entities
and filters the fields of those that are selected.

Key definitions: `Upload.isNew`, `Sidebar.upload`, `Sidebar.draft`.
Key theorems: `Upload.isNew_iff`.
-/
import SchemaDiagram.Page.Draft

namespace SchemaDiagram

/-- An upload is looked at when its content differs from that of the last one
that was. -/
def Upload.isNew (u : Upload) (seen : Option ByteArray) : Bool :=
  decide (seen.map (·.data) ≠ some u.content.data)

theorem Upload.isNew_iff {u : Upload} {seen : Option ByteArray} :
    u.isNew seen = true ↔ seen ≠ some u.content := by
  rw [Upload.isNew, decide_eq_true_iff]
  apply not_congr
  cases seen with
  | none => simp
  | some b => simp [ByteArray.ext_iff]

namespace Sidebar
open Draft

/-- The name of the program. -/
def banner : String :=
  "\n<div style=\"padding:4px 12px 0; font-family:'JetBrains Mono',monospace;\">\n" ++
  "  <div style=\"font-size:20px;font-weight:700;color:var(--text);letter-spacing:1px;" ++
  "margin-bottom:3px;\">ATLAS</div>\n" ++
  "  <div style=\"font-size:11px;color:var(--text3);font-family:'Inter',sans-serif;" ++
  "line-height:1.4;\">\n" ++
  "    Explore Prisma schemas model by model</div>\n</div>"

/-- A heading of the sidebar. -/
def heading (title : String) : String :=
  "<div class=\"sidebar-section\">" ++ title ++ "</div>"

/-- The button that switches between the themes. -/
def theme : Draft Unit := do
  let isDark := (← get).memory.isDark
  let label := if isDark then "☀  Light mode" else "☾  Dark mode"
  if ← button [.sidebar] { label := label, key := some "theme_btn" } then
    modify fun v => { v with memory := { v.memory with isDark := !isDark } }
    throw .again

/-- A new upload is loaded if it is text. -/
def upload : Draft Unit := do
  draw [.sidebar] (.fileInput "Upload schema file" ["prisma", "txt"] "schema_upload")
  let v ← get
  match v.upload with
  | none => return
  | some u =>
    if u.isNew v.memory.seen then
      modify fun v => { v with memory := { v.memory with seen := some u.content } }
      match Files.decode? u.content with
      | none => say "Could not read the selected file." true
      | some text =>
        if let .flag true ← perform (.load text u.name) then refresh

/-- The buttons that load a schema file or the demonstration schema. -/
def loads : Draft Unit := do
  let path := (← get).session.settings.schemaPath.text
  let help : LooseText := "Read " ++ path ++ " from the working directory"
  if ← button [.sidebar, .column 0 2] { label := "Load example", help := some help } then
    if let .flag true ← perform (.loadFile "") then refresh
  if ← button [.sidebar, .column 1 2] { label := "Demo schema" } then
    effect .loadDemo
    refresh

/-- The search box. -/
def search : Draft Unit := do
  effect (.search (← searchBox [.sidebar] "Search models" "filter by name…"))

/-- The buttons that select everything and nothing. -/
def selections : Draft Unit := do
  if ← button [.sidebar, .column 0 2] { label := "Select all" } then
    effect .selectAll
    effect .fit
    restart
  if ← button [.sidebar, .column 1 2] { label := "Clear" } then
    effect .clear
    restart

/-- A box to tick for each entity that matches the search. -/
def entities : Draft Unit := do
  let s := (← get).session
  markdown [.sidebar] ("<div class=\"sidebar-hint\">" ++ s.hint ++ "</div>")
  s.filtered.forM fun e =>
    checkbox [.sidebar] e.name (.selection e.name) (s.view.selected.has e.name)

/-- The field filters and the buttons of a selected entity. -/
def fields (name : String) : Draft Unit := do
  let place : List Region := [.sidebar, .expander name]
  effect (.setFilter name none none)
  let filter := (← get).session.view.filterOf name
  checkbox place "Show relation fields" (.relations name) filter.relations
  checkbox place "Show other fields" (.others name) filter.others
  if let .names hidden ← perform (.hiddenNeighbors name) then
    if !hidden.isEmpty then
      if ← button place
          { label := "Reveal " ++ toString hidden.length ++ " related", key := some ("nb_" ++ name) } then
        effect (.revealNeighbors name)
        effect .fit
        restart
  if ← button place { label := "Hide " ++ name, key := some ("hide_" ++ name) } then
    effect (.hide name)
    restart

/-- The whole sidebar. -/
def draft : Draft Unit := do
  markdown [.sidebar] banner
  theme
  markdown [.sidebar] (heading "01 // Load Schema")
  upload
  loads
  markdown [.sidebar] (heading "02 // Models")
  search
  selections
  entities
  let shown := (← get).session.shown
  if !shown.isEmpty then
    markdown [.sidebar] (heading "03 // Fields")
    shown.forM fun e => fields e.name

end Sidebar
end SchemaDiagram

/-
# Where settings come from

A document gives some fields, environment variables give some, and the stock
values give the rest. For each field a variable goes before the document, and
what is shadowed is not looked at. Names match in either case; of several
variables for one field the last counts, of several names in a document the
first. Names of no field are passed over, unless they say how variables are read.
All wrong fields are reported in the order of the fields.

Key definitions: `SettingsSource.order`, `Sources`, `Sources.raw?`, `Checked`,
`Sources.settings`, `Settings.ofEntries`, `documentEntries`, `loadSettings`.
Key theorems: `Sources.raw?_eq`, `Sources.rawData?_eq`, `Checked.issues_both`,
`Settings.ordered_of_order`.
-/
import SchemaDiagram.Settings.Basic
import SchemaDiagram.Settings.Convert
import SchemaDiagram.Settings.Variable
import SchemaDiagram.Value.Json
import SchemaDiagram.Yaml.Document

namespace SchemaDiagram

/-- What may give a field its value. -/
inductive SettingsSource where
  | variables
  | document
  deriving DecidableEq, Repr

/-- The sources in the order in which they count. -/
def SettingsSource.order : List SettingsSource :=
  [.variables, .document]

/-- The variables of the environment, read by a rule, and the entries of a
document. -/
structure Sources where
  rule : VariableRule
  values : List (String × Value)
  entries : List (String × Value)

namespace Sources

/-- The value in the variable of a field; of several that differ in case the last. -/
def variableValue? (s : Sources) (name : String) : Option Value := do
  let wanted ← s.rule.name? name
  VariableRule.last? s.values wanted

/-- The entry of a field: of several names that differ in case the first, and of
several entries of that name the last. -/
def entryValue? (s : Sources) (name : String) : Option Value := do
  let written ← s.entries.find? fun e => Text.lowerString e.1 = name
  VariableRule.last? s.entries written.1

/-- The value that a source gives for a field. -/
def value? (s : Sources) (name : String) : SettingsSource → Option Value
  | .variables => s.variableValue? name
  | .document => s.entryValue? name

/-- The value given for a field by the first source that gives one. -/
def raw? (s : Sources) (name : String) : Option Value :=
  SettingsSource.order.findSome? (s.value? name)

/-- The value that a source gives for a field whose variable holds data; null data is as
good as no variable, and a variable that holds none is a fault. Without a variable of its
own, the field is a mapping if there are variables of its parts. -/
def data? (s : Sources) (name : String) : SettingsSource → Except SettingsFault (Option Value)
  | .variables =>
    match s.variableValue? name with
    | none => .ok (if s.rule.hasParts s.values name then some (.mapping []) else none)
    | some (.text t) =>
      match Json.parse? t with
      | none => .error .centerText
      | some .null => .ok none
      | some v => .ok (some v)
    | some v => .ok (some v)
  | .document => .ok (s.entryValue? name)

/-- The value given for a field of data. All sources are asked, and the first counts that
gives one. -/
def rawData? (s : Sources) (name : String) : Except SettingsFault (Option Value) := do
  let values ← SettingsSource.order.mapM (s.data? name)
  return values.findSome? id

/-- A variable goes before the document. -/
theorem raw?_eq (s : Sources) (name : String) :
    s.raw? name = (s.variableValue? name).or (s.entryValue? name) := by
  rw [raw?, SettingsSource.order, List.findSome?_cons, List.findSome?_cons, value?, value?]
  cases s.variableValue? name <;> cases s.entryValue? name <;> rfl

theorem rawData?_eq (s : Sources) (name : String) :
    s.rawData? name = (s.data? name .variables).map fun v => v.or (s.entryValue? name) := by
  rw [rawData?, SettingsSource.order, List.mapM_cons, List.mapM_cons]
  cases s.data? name .variables with
  | error f => rfl
  | ok v =>
    show Except.ok ([v, s.entryValue? name].findSome? id) = _
    cases v <;> cases s.entryValue? name <;> rfl

end Sources

/-- A value, or all the issues that stand in its way. -/
inductive Checked (β : Type) where
  | good (value : β)
  | bad (issues : List Issue)

namespace Checked

variable {β γ : Type}

def issues : Checked β → List Issue
  | good _ => []
  | bad is => is

/-- A function applied to a value, with the issues of both. -/
def both : Checked (β → γ) → Checked β → Checked γ
  | good f, good b => good (f b)
  | f, b => bad (f.issues ++ b.issues)

theorem issues_both (f : Checked (β → γ)) (b : Checked β) :
    (f.both b).issues = f.issues ++ b.issues := by
  cases f <;> cases b <;> simp [both, issues]

end Checked

section

variable [BoundRule]

namespace Sources

/-- A field of the settings, read by a conversion, with its stock value. -/
def read {β : Type} (s : Sources) (convert : Value → Except Cause β) (name : String) (stock : β) :
    Checked β :=
  match s.raw? name with
  | none => .good stock
  | some v =>
    match convert v with
    | .ok b => .good b
    | .error c => .bad [⟨.field name, c⟩]

/-- A number above zero. -/
def positive (s : Sources) (name : String) (stock : Float) : Checked Float :=
  s.read (Convert.bounded [.above 0]) name stock

/-- A number not below zero. -/
def notNegative (s : Sources) (name : String) (stock : Float) : Checked Float :=
  s.read (Convert.bounded [.atLeast 0]) name stock

/-- The world centre from the value given for it. -/
def center (raw : Option Value) : Checked (Point Float) :=
  match raw with
  | none => .good Settings.stock.worldCenter
  | some v =>
    match Convert.pair "world_center" v with
    | .ok p => .good p
    | .error is => .bad is

/-- All fields, in their order. -/
def fields (s : Sources) (rawCenter : Option Value) : Checked (Settings Float) :=
  let d : Settings Float := .stock
  (Checked.good Settings.mk)
    |>.both (center rawCenter)
    |>.both (s.positive "node_width" d.nodeWidth)
    |>.both (s.positive "spiral_spacing" d.spiralSpacing)
    |>.both (s.notNegative "base_height" d.baseHeight)
    |>.both (s.notNegative "field_height" d.fieldHeight)
    |>.both (s.read (Convert.boundedWhole [.atLeast 0]) "field_cap" d.fieldCap)
    |>.both (s.notNegative "option_height" d.optionHeight)
    |>.both (s.positive "initial_scale" d.initialScale)
    |>.both (s.read (Convert.bounded [.above 1]) "zoom_in_factor" d.zoomInFactor)
    |>.both (s.read (Convert.bounded [.below 1, .above 0]) "zoom_out_factor" d.zoomOutFactor)
    |>.both (s.positive "zoom_min" d.zoomMin)
    |>.both (s.positive "zoom_max" d.zoomMax)
    |>.both (s.notNegative "fit_margin" d.fitMargin)
    |>.both (s.positive "fit_min" d.fitMin)
    |>.both (s.positive "fit_max" d.fitMax)
    |>.both (s.positive "viewport_width" d.viewportWidth)
    |>.both (s.positive "viewport_height" d.viewportHeight)
    |>.both (s.read Convert.path "default_schema_path" d.schemaPath)
    |>.both (s.read Convert.text "log_level" d.logLevel)
    |>.both (s.read Convert.optionalPath "log_file" d.logFile)

end Sources

/-- The settings, if both of their ranges are in order; the first that is not is
reported. -/
def Settings.order (s : Settings Float) : Except SettingsFault (Settings Float) :=
  if s.zoomMax < s.zoomMin then
    .error (.invalid [⟨.whole, .unordered "zoom" s.zoomMin s.zoomMax⟩])
  else if s.fitMax < s.fitMin then
    .error (.invalid [⟨.whole, .unordered "fit" s.fitMin s.fitMax⟩])
  else .ok s

omit [BoundRule] in
theorem Settings.ordered_of_order {s t : Settings Float} (h : s.order = .ok t) :
    t = s ∧ ¬ s.zoomMax < s.zoomMin ∧ ¬ s.fitMax < s.fitMin := by
  unfold Settings.order at h
  split at h
  · cases h
  · next hz =>
    split at h
    · cases h
    · next hf => exact ⟨(Except.ok.inj h).symm, hz, hf⟩

namespace Sources

/-- The settings that the sources make up. -/
def settings (s : Sources) : Except SettingsFault (Settings Float) := do
  let rawCenter ← s.rawData? "world_center"
  match s.fields rawCenter with
  | .good t => t.order
  | .bad issues => .error (.invalid issues)

end Sources

/-- The settings that the environment and the entries of a document make up. -/
def Settings.ofEntries (environment : List (String × String)) (entries : List (String × Value)) :
    Except SettingsFault (Settings Float) := do
  let rule ← VariableRule.ofEntries entries
  Sources.settings ⟨rule, rule.read environment, entries⟩

/-- The named entries of a mapping, if all its keys are texts. A broken text names
nothing. -/
def namedEntries? : List (Value × Value) → Option (List (String × Value))
  | [] => some []
  | (.text name, v) :: es => (namedEntries? es).map ((name, v) :: ·)
  | (.brokenText _, _) :: es => namedEntries? es
  | _ => none

/-- The entries that a settings document gives. -/
def documentEntries (path : String) (text : TextRun) : Except SettingsFault (List (String × Value)) :=
  match Yaml.parse text with
  | .error f => .error (.document f)
  | .ok v =>
    if v.isNothing then .ok []
    else match v with
      | .mapping es =>
        match namedEntries? es with
        | some named => .ok named
        | none => .error .nameNotText
      | _ => .error (.notMapping path)

/-- The document of settings: the one at the path, or else at the path that the
environment names. -/
def settingsPath? (environment : List (String × String)) (path : String) : Option String :=
  if path ≠ "" then some path
  else (environment.reverse.find? fun e => e.1 = "ATLAS_CONFIG").bind fun e =>
    if e.2 = "" then none else some e.2

/-- The settings made up of a document and the environment. -/
def loadSettings (files : Files) (environment : List (String × String)) (path : String) :
    Except SettingsFault (Settings Float) :=
  match settingsPath? environment path with
  | none => Settings.ofEntries environment []
  | some p =>
    match files.readRun p with
    | .error f => .error (.file f)
    | .ok text => do
      let entries ← documentEntries p text
      Settings.ofEntries environment entries

end

end SchemaDiagram

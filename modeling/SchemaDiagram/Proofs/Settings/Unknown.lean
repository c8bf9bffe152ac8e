/-
# Names that no field has

An entry of a settings document whose name is that of no field, in whatever case, changes
nothing: neither the settings nor what is reported about them. This takes a name that is a
text and none of the keywords, which say how values are looked up. A key that is no text
is a fault of the whole document, whatever else stands in it.

Key definitions: `MappingAt`, `VariableRule.isKeyword`, `Value.IsUnknown`.
Key theorems: `Sources.settings_congr`, `Settings.ofEntries_insert`,
`MappingAt.loadSettings_eq`, `unknown_entry_passed_over`, `numbered_entry_refused`.
-/
import Mathlib
import SchemaDiagram.Proofs.Outcome
import SchemaDiagram.Proofs.Settings.Fields

namespace SchemaDiagram

open SettingsField (all)

/-! ### Entries that are not looked at -/

variable {before after : List (String × Value)} {name : String} {value : Value}

namespace VariableRule

/-- A name that is kept for saying where values are looked up, and how. -/
def isKeyword (name : String) : Bool :=
  ["_env_", "_cli_", "__"].any (fun stem => stem.toList.isPrefixOf name.toList) ||
    ["_case_sensitive", "_secrets_dir", "_build_sources",
      "_nested_model_default_partial_update"].contains name

theorem last?_insert {wanted : String} (h : name ≠ wanted) :
    last? (before ++ (name, value) :: after) wanted = last? (before ++ after) wanted := by
  simp only [last?, List.reverse_append, List.reverse_cons, List.append_assoc, List.find?_append]
  rw [List.find?_singleton, if_neg (by simpa using h), Option.none_or]

/-- Only keywords say how variables are read. -/
theorem ofEntries_insert (h : isKeyword name = false) :
    ofEntries (before ++ (name, value) :: after) = ofEntries (before ++ after) := by
  have hne {keyword : String} (hkeyword : isKeyword keyword = true) : name ≠ keyword := by
    rintro rfl
    rw [h] at hkeyword
    cases hkeyword
  rw [ofEntries, last?_insert (hne (by decide)), last?_insert (hne (by decide)),
    last?_insert (hne (by decide)), last?_insert (hne (by decide)),
    last?_insert (hne (by decide))]
  rfl

end VariableRule

namespace Sources

variable {rule : VariableRule} {values : List (String × Value)}

/-- An entry is looked at for the field that has its name in lower case, and for no other. -/
theorem entryValue?_insert {field : String} (h : Text.lowerString name ≠ field) :
    entryValue? ⟨rule, values, before ++ (name, value) :: after⟩ field =
      entryValue? ⟨rule, values, before ++ after⟩ field := by
  have hfind : (before ++ (name, value) :: after).find? (fun e => Text.lowerString e.1 = field) =
      (before ++ after).find? fun e => Text.lowerString e.1 = field := by
    rw [List.find?_append, List.find?_append, List.find?_cons_of_neg (by simpa using h)]
  show (List.find? _ _).bind _ = (List.find? _ _).bind _
  rw [hfind]
  cases hwritten : (before ++ after).find? fun e => Text.lowerString e.1 = field with
  | none => rfl
  | some written =>
    have hlower : Text.lowerString written.1 = field := by simpa using List.find?_some hwritten
    refine VariableRule.last?_insert ?_
    rintro rfl
    exact h hlower

/-- The fields depend on what is given for them alone. -/
theorem fields_congr {s t : Sources} {raw : Option Value}
    (h : ∀ f ∈ all, s.given raw f.name = t.given raw f.name) : s.fields raw = t.fields raw := by
  have hgood (u : Settings Float) : s.fields raw = .good u ↔ t.fields raw = .good u := by
    rw [fields_eq_good_iff, fields_eq_good_iff]
    exact forall₂_congr fun f hf => by rw [h f hf]
  cases hs : s.fields raw with
  | good u => exact ((hgood u).1 hs).symm
  | bad is =>
    cases ht : t.fields raw with
    | good u =>
      rw [(hgood u).2 ht] at hs
      cases hs
    | bad js =>
      have hissues : (s.fields raw).issues = (t.fields raw).issues := by
        rw [issues_fields, issues_fields]
        rw [List.flatMap_def, List.flatMap_def]
        exact congrArg List.flatten (List.map_congr_left fun f hf => by rw [h f hf])
      rw [hs, ht] at hissues
      exact congrArg Checked.bad hissues

/-- Entries that agree for all fields make up the same settings. -/
theorem settings_congr {entries entries' : List (String × Value)}
    (h : ∀ f ∈ all, entryValue? ⟨rule, values, entries⟩ f.name =
      entryValue? ⟨rule, values, entries'⟩ f.name) :
    settings ⟨rule, values, entries⟩ = settings ⟨rule, values, entries'⟩ := by
  have hvariable (field : String) : variableValue? ⟨rule, values, entries⟩ field =
      variableValue? ⟨rule, values, entries'⟩ field := rfl
  have hcenter : entryValue? ⟨rule, values, entries⟩ "world_center" =
      entryValue? ⟨rule, values, entries'⟩ "world_center" := h .center List.mem_cons_self
  have hraw : rawData? ⟨rule, values, entries⟩ "world_center" =
      rawData? ⟨rule, values, entries'⟩ "world_center" := by
    rw [rawData?_eq, rawData?_eq, hcenter]
    rfl
  have hfields (raw : Option Value) : fields ⟨rule, values, entries⟩ raw =
      fields ⟨rule, values, entries'⟩ raw := by
    refine fields_congr fun f hf => ?_
    rw [given, given, raw?_eq, raw?_eq, hvariable, h f hf]
  simp only [settings, hraw, hfields]

end Sources

/-- **An entry under the name of no field** does not count for settings. -/
theorem Settings.ofEntries_insert {environment : List (String × String)}
    (hunknown : Text.lowerString name ∉ all.map (·.name))
    (hkeyword : VariableRule.isKeyword name = false) :
    Settings.ofEntries environment (before ++ (name, value) :: after) =
      Settings.ofEntries environment (before ++ after) := by
  have hsettings (rule : VariableRule) :
      Sources.settings ⟨rule, rule.read environment, before ++ (name, value) :: after⟩ =
        Sources.settings ⟨rule, rule.read environment, before ++ after⟩ :=
    Sources.settings_congr fun f hf => Sources.entryValue?_insert fun hname =>
      hunknown (hname ▸ List.mem_map_of_mem hf)
  simp only [Settings.ofEntries, VariableRule.ofEntries_insert hkeyword, hsettings]

/-! ### Documents -/

/-- The document of settings holds a mapping of these entries. -/
inductive MappingAt (files : Files) (environment : List (String × String)) (path : String)
    (entries : List (Value × Value)) : Prop
  | intro {p : String} {text : TextRun} (at_ : settingsPath? environment path = some p)
    (read : files.readRun p = .ok text) (parse : Yaml.parse text = .ok (.mapping entries))

/-- The key is a text, if only a broken one. -/
def Value.isName : Value → Bool
  | text _ => true
  | brokenText _ => true
  | _ => false

/-- The key is a text and the name of no field, in whatever case, and no keyword. -/
def Value.IsUnknown : Value → Prop
  | text name => Text.lowerString name ∉ all.map (·.name) ∧ VariableRule.isKeyword name = false
  | brokenText _ => True
  | _ => False

theorem namedEntries?_append (es fs : List (Value × Value)) :
    namedEntries? (es ++ fs) =
      (namedEntries? es).bind fun named => (namedEntries? fs).map (named ++ ·) := by
  induction es with
  | nil => cases h : namedEntries? fs <;> simp [namedEntries?, h]
  | cons e es ih =>
    obtain ⟨key, value⟩ := e
    cases key with
    | text name =>
      rw [List.cons_append, namedEntries?, namedEntries?, ih]
      cases namedEntries? es <;> cases namedEntries? fs <;> rfl
    | brokenText t => rw [List.cons_append, namedEntries?, namedEntries?, ih]
    | _ => rfl

theorem documentEntries_of_mapping (path : String) {text : TextRun} {es : List (Value × Value)}
    (h : Yaml.parse text = .ok (.mapping es)) :
    documentEntries path text =
      match namedEntries? es with
      | some named => .ok named
      | none => .error .nameNotText := by
  unfold documentEntries
  simp only [h]
  -- what is parsed must not be evaluated by the case split
  clear h
  cases es <;> rfl

/-- Settings are loaded from the named entries of a mapping, if all its keys are texts. -/
theorem MappingAt.loadSettings_eq {files : Files} {environment : List (String × String)}
    {path : String} {es : List (Value × Value)} (h : MappingAt files environment path es) :
    loadSettings files environment path =
      match namedEntries? es with
      | some named => Settings.ofEntries environment named
      | none => .error .nameNotText := by
  obtain ⟨hat, hread, hparse⟩ := h
  simp only [loadSettings, hat, hread, documentEntries_of_mapping _ hparse]
  cases namedEntries? es <;> rfl

/-- **Names that no field has.** With an entry under such a name, settings are loaded, or
refused, as without it. A key that is no text is a fault. -/
theorem unknown_entry_passed_over {files files' : Files} {environment : List (String × String)}
    {path : String} {before after : List (Value × Value)} {key value : Value}
    (h : MappingAt files environment path (before ++ after))
    (h' : MappingAt files' environment path (before ++ (key, value) :: after)) :
    (key.IsUnknown → loadSettings files' environment path = loadSettings files environment path) ∧
      (key.isName = false → loadSettings files' environment path = .error .nameNotText) := by
  rw [h.loadSettings_eq, h'.loadSettings_eq, namedEntries?_append, namedEntries?_append]
  clear h h'
  constructor
  · intro hunknown
    cases key with
    | text name =>
      obtain ⟨hfields, hkeyword⟩ := hunknown
      rw [namedEntries?]
      cases namedEntries? before with
      | none => rfl
      | some named =>
        cases namedEntries? after with
        | none => rfl
        | some rest => exact Settings.ofEntries_insert hfields hkeyword
    | brokenText t => rw [namedEntries?]
    | _ => exact hunknown.elim
  · intro hname
    have hnone : namedEntries? ((key, value) :: after) = none := by
      cases key with
      | text name => cases hname
      | brokenText t => cases hname
      | _ => rfl
    rw [hnone]
    cases namedEntries? before <;> rfl

/-- A file with a text on its own is read as that text. -/
theorem readRun_single (s : String) :
    (Files.ofList [(["atlas.yaml"], s.toUTF8)]).readRun "atlas.yaml" =
      .ok ⟨Text.unifyLineEnds s.toList, true⟩ := by
  have hfind (content : ByteArray) :
      (Files.ofList [(["atlas.yaml"], content)]).find "atlas.yaml" = .ok content := rfl
  rw [Files.readRun, hfind, ← TextRun.ofBytes_toUTF8]
  rfl

/-- An entry of no field beside a wrong variable. -/
theorem unknown_entry_passed_over_colour :
    let files : Files := .ofList [(["atlas.yaml"], "\x7b\x7d\n".toUTF8)]
    let files' : Files := .ofList [(["atlas.yaml"], "Colour: red\n".toUTF8)]
    let environment := [("ATLAS_ZOOM_MAX", "-1")]
    MappingAt files environment "atlas.yaml" [] ∧
      MappingAt files' environment "atlas.yaml" [(.text "Colour", .text "red")] ∧
      loadSettings files' environment "atlas.yaml" =
        loadSettings files environment "atlas.yaml" := by
  intro files files' environment
  have h : MappingAt files environment "atlas.yaml" [] :=
    .intro rfl (readRun_single _) (by cbv)
  have h' : MappingAt files' environment "atlas.yaml" [(.text "Colour", .text "red")] :=
    .intro rfl (readRun_single _) (by cbv)
  have hfields : Text.lowerString "Colour" ∉ all.map (·.name) := by decide +kernel
  have hkeyword : VariableRule.isKeyword "Colour" = false := by decide
  have hplain : MappingAt files environment "atlas.yaml" ([] ++ []) := h
  exact ⟨h, h', (unknown_entry_passed_over hplain h').1 ⟨hfields, hkeyword⟩⟩

/-- A keyword takes a variable away from its field. -/
example :
    let files : Files := .ofList [(["atlas.yaml"], "_env_prefix: X_\n".toUTF8)]
    (loadSettings files [("ATLAS_LOG_LEVEL", "debug")] "atlas.yaml").toOption.any
      (fun s : Settings Float => decide (s.logLevel = "INFO")) = true := by
  decide +kernel

/-- Settings that are in order are refused with a number as one more key. -/
theorem numbered_entry_refused :
    let plain : Files := .ofList [(["atlas.yaml"], "field_cap: 5\n".toUTF8)]
    let numbered : Files := .ofList [(["atlas.yaml"], "field_cap: 5\n1: x\n".toUTF8)]
    (∃ s, loadSettings plain [] "atlas.yaml" = .ok s ∧ s.fieldCap = 5) ∧
      loadSettings numbered [] "atlas.yaml" = .error .nameNotText := by
  intro plain numbered
  have hplain : (loadSettings plain [] "atlas.yaml").toOption.any
      (fun s : Settings Float => decide (s.fieldCap = 5)) = true := by
    decide +kernel
  obtain ⟨s, hs, hcap⟩ := exists_eq_ok_of_any hplain
  have hnumbered : MappingAt numbered [] "atlas.yaml"
      [(.text "field_cap", .int 5), (.int 1, .text "x")] :=
    .intro rfl (readRun_single _) (by cbv)
  refine ⟨⟨s, hs, of_decide_eq_true hcap⟩, ?_⟩
  rw [hnumbered.loadSettings_eq]
  rfl

end SchemaDiagram

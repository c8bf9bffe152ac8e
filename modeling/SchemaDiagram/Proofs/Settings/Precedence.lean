/-
# What becomes of what is given

A field of the settings is given a value by its variable, or else by its entry in the
document. That value alone decides what becomes of the field: it is converted, or refused
and reported under the name of the field, in the order of the fields; without a value the
field is in stock. So what a variable shadows is never reported, and no other variable or
entry changes the field. Null in the variable of the world centre is as good as no
variable.

Key definitions: `Settled`, `variableText?`, `SettingsField.given?`, `Sourced`.
Key theorems: `Sources.settled_settings`, `lowerString_variable`, `Sourced.given_eq`,
`Sourced.loadSettings_eq`, `precedence_per_field`, `null_is_no_center`.
-/
import Mathlib
import SchemaDiagram.Proofs.Keyed
import SchemaDiagram.Proofs.Settings.Accepted

namespace SchemaDiagram

open SettingsField (all center)

/-! ### What the sources settle -/

/-- What becomes of the values given for the fields. -/
structure Settled (given : SettingsField → Option Value)
    (result : Except SettingsFault (Settings Float)) : Prop where
  /-- Some value is refused, or a range is out of order. -/
  invalid_iff :
    (∃ is, result = .error (.invalid is)) ↔
      (∃ f ∈ all, f.refuses (given f) = true) ∨
        ∃ t, (∀ f ∈ all, f.Takes (given f) t) ∧ (t.zoomMax < t.zoomMin ∨ t.fitMax < t.fitMin)
  /-- Exactly the fields with refused values are reported, in their order. -/
  reported :
    (∃ f ∈ all, f.refuses (given f) = true) →
      ∃ is, result = .error (.invalid is) ∧
        (is.map (·.location.name?)).eraseDups =
          (all.filter fun f => f.refuses (given f)).map (some ·.name)
  /-- A field whose value is not refused is not reported. -/
  unreported :
    ∀ is, result = .error (.invalid is) → ∀ f ∈ all, f.refuses (given f) = false →
      ∀ i ∈ is, i.location.name? ≠ some f.name
  /-- Each field has its own value. -/
  taken :
    (¬ ∃ is, result = .error (.invalid is)) →
      ∃ t, result = .ok t ∧ ∀ f ∈ all, f.Takes (given f) t

theorem Settled.takes_of_ok {given : SettingsField → Option Value}
    {result : Except SettingsFault (Settings Float)} {t : Settings Float}
    (h : Settled given result) (ht : result = .ok t) : ∀ f ∈ all, f.Takes (given f) t := by
  have hvalid : ¬ ∃ is, result = .error (.invalid is) := by
    rintro ⟨is, his⟩
    rw [ht] at his
    cases his
  obtain ⟨u, hu, htakes⟩ := h.taken hvalid
  rw [ht] at hu
  exact Except.ok.inj hu ▸ htakes

theorem SettingsField.nodup_names : (all.map fun f => some f.name).Nodup := by
  decide

/-- Settings with a range out of order are refused as a whole. -/
theorem Settings.order_cases (t : Settings Float) :
    (t.zoomMax < t.zoomMin ∨ t.fitMax < t.fitMin) ∧
        (∃ c, t.order = .error (.invalid [⟨.whole, c⟩])) ∨
      ¬ (t.zoomMax < t.zoomMin ∨ t.fitMax < t.fitMin) ∧ t.order = .ok t := by
  unfold Settings.order
  split
  · next hzoom => exact .inl ⟨.inl hzoom, _, rfl⟩
  · next hzoom =>
    split
    · next hfit => exact .inl ⟨.inr hfit, _, rfl⟩
    · next hfit => exact .inr ⟨not_or.2 ⟨hzoom, hfit⟩, rfl⟩

namespace Settled

variable {given : SettingsField → Option Value}

/-- A report on exactly the refused fields settles them. -/
theorem of_refused {is : List Issue} (hrefused : ∃ f ∈ all, f.refuses (given f) = true)
    (hnames : (is.map (·.location.name?)).eraseDups =
      (all.filter fun f => f.refuses (given f)).map (some ·.name)) :
    Settled given (.error (.invalid is)) where
  invalid_iff := ⟨fun _ => .inl hrefused, fun _ => ⟨is, rfl⟩⟩
  reported _ := ⟨is, rfl, hnames⟩
  unreported js hjs f hf hfine i hi hname := by
    obtain rfl : is = js := SettingsFault.invalid.inj (Except.error.inj hjs)
    have hmem : some f.name ∈ (is.map (·.location.name?)).eraseDups :=
      List.mem_eraseDups.2 (List.mem_map.2 ⟨i, hi, hname⟩)
    rw [hnames] at hmem
    obtain ⟨g, hg, hgf⟩ := List.mem_map.1 hmem
    obtain ⟨hgall, hgrefused⟩ := List.mem_filter.1 hg
    obtain rfl : g = f := List.inj_on_of_nodup_map SettingsField.nodup_names hgall hf hgf
    rw [hfine] at hgrefused
    cases hgrefused
  taken hvalid := absurd ⟨is, rfl⟩ hvalid

/-- Settings that take all values, and are the only ones to do so, settle the fields once
their ranges are looked at. -/
theorem of_takes {t : Settings Float} (htakes : ∀ f ∈ all, f.Takes (given f) t)
    (honly : ∀ u, (∀ f ∈ all, f.Takes (given f) u) → u = t) : Settled given t.order := by
  have hfine : ¬ ∃ f ∈ all, f.refuses (given f) = true := by
    rintro ⟨f, hf, hrefused⟩
    rw [SettingsField.refuses_eq_false_of_takes (htakes f hf)] at hrefused
    cases hrefused
  obtain ⟨hrange, c, horder⟩ | ⟨hrange, horder⟩ := t.order_cases
  · rw [horder]
    exact {
      invalid_iff := ⟨fun _ => .inr ⟨t, htakes, hrange⟩, fun _ => ⟨_, rfl⟩⟩
      reported := fun hrefused => absurd hrefused hfine
      unreported := fun is his f _ _ i hi => by
        obtain rfl := SettingsFault.invalid.inj (Except.error.inj his)
        obtain rfl := List.mem_singleton.1 hi
        exact nofun
      taken := fun hvalid => absurd ⟨_, rfl⟩ hvalid }
  · rw [horder]
    refine ⟨⟨fun ⟨_, h⟩ => (by cases h), ?_⟩, fun h => absurd h hfine,
      fun _ h => (by cases h), fun _ => ⟨t, rfl, htakes⟩⟩
    rintro (hrefused | ⟨u, hu, hunordered⟩)
    · exact absurd hrefused hfine
    · exact absurd (honly u hu ▸ hunordered) hrange

end Settled

namespace Sources

variable {s : Sources} {raw : Option Value}

/-- The names in a report are those of the refused fields. -/
theorem names_of_bad {is : List Issue} (h : s.fields raw = .bad is) :
    (is.map (·.location.name?)).eraseDups =
      (all.filter fun f => f.refuses (s.given raw f.name)).map (some ·.name) := by
  have his : is = all.flatMap fun f => (f.checked (s.given raw f.name)).issues := by
    rw [← issues_fields, h, Checked.issues]
  have hnames : ∀ f ∈ all, ∀ n ∈ (f.checked (s.given raw f.name)).issues.map (·.location.name?),
      n = some f.name := by
    intro f _ n hn
    obtain ⟨i, hi, rfl⟩ := List.mem_map.1 hn
    exact SettingsField.name?_of_mem_issues hi
  rw [his, List.map_flatMap, eraseDups_flatMap hnames SettingsField.nodup_names]
  refine congrArg _ (List.filter_congr fun f _ => ?_)
  rw [List.isEmpty_map, SettingsField.isEmpty_issues_checked, Bool.not_not]

/-- What becomes of the fields is decided field by field. -/
theorem settled_settings {given : SettingsField → Option Value}
    (hraw : s.rawData? "world_center" = .ok raw)
    (hgiven : ∀ f ∈ all, s.given raw f.name = given f) : Settled given s.settings := by
  have htakes (t : Settings Float) :
      s.fields raw = .good t ↔ ∀ f ∈ all, f.Takes (given f) t := by
    rw [fields_eq_good_iff]
    exact forall₂_congr fun f hf => by rw [hgiven f hf]
  cases hfields : s.fields raw with
  | bad is =>
    have hsettings : s.settings = .error (.invalid is) := by
      simp only [settings, hraw, bind, Except.bind, hfields]
    rw [hsettings]
    refine .of_refused ?_ ?_
    · by_contra hnone
      obtain ⟨t, ht⟩ := exists_fields_eq_good_iff.2 fun f hf =>
        Bool.eq_false_iff.2 fun hrefused => hnone ⟨f, hf, hgiven f hf ▸ hrefused⟩
      rw [hfields] at ht
      cases ht
    · rw [names_of_bad hfields]
      exact congrArg _ (List.filter_congr fun f hf => by rw [hgiven f hf])
  | good t =>
    have hsettings : s.settings = t.order := by
      simp only [settings, hraw, bind, Except.bind, hfields]
    rw [hsettings]
    refine .of_takes ((htakes t).1 hfields) fun u hu => ?_
    have hgood : Checked.good t = Checked.good u := hfields ▸ (htakes u).2 hu
    exact (Checked.good.inj hgood).symm

end Sources

/-! ### Variables and entries -/

/-- The text in the variable of a field. Cases are not told apart; of several variables the
last counts. -/
def variableText? (environment : List (String × String)) (name : String) : Option String :=
  (Keyed.ofList (environment.map fun e => (Text.lowerString e.1, e.2))).find?
    (Text.lowerString ("ATLAS_" ++ name))

/-- What is given for a field: what its variable stands for, or else its entry. -/
def SettingsField.given? (f : SettingsField) (environment : List (String × String))
    (entries : List (String × Value)) : Option Value :=
  ((variableText? environment f.name).bind f.decode).or ((Keyed.ofList entries).find? f.name)

/-- The document of settings holds a mapping of these entries, or there is none. -/
inductive DocumentOf (files : Files) (environment : List (String × String)) (path : String) :
    List (String × Value) → Prop
  | none : settingsPath? environment path = none → DocumentOf files environment path []
  | mapping {p : String} {text : TextRun} {entries : List (String × Value)} :
      settingsPath? environment path = some p → files.readRun p = .ok text →
      Yaml.parse text = .ok (.mapping (entries.map fun e => (.text e.1, e.2))) →
      DocumentOf files environment path entries

/-- Entries under the names of fields, and variables of which that of the world centre, if
there is one, holds data. -/
structure Sourced (files : Files) (environment : List (String × String)) (path : String)
    (entries : List (String × Value)) : Prop where
  document : DocumentOf files environment path entries
  named : ∀ e ∈ entries, e.1 ∈ all.map (·.name)
  data : ∀ t, variableText? environment center.name = some t → (Json.parse? t).isSome = true

/-! #### Names in lower case -/

/-- The characters in the names of fields. -/
def isNameChar (c : Char) : Bool :=
  c.isLower || c == '_'

theorem mapCase_nameChar {c : Char} (h : isNameChar c = true) :
    Text.mapCase Text.smallForms c = c := by
  have hnone : ∀ n < 123, 95 ≤ n → Text.smallForms.findSome? (·.image? n) = none := by
    decide +kernel
  have hrange : 95 ≤ c.toNat ∧ c.toNat < 123 := by
    rw [isNameChar, Bool.or_eq_true, beq_iff_eq] at h
    rcases h with h | rfl
    · simp only [Char.isLower, Bool.and_eq_true, decide_eq_true_eq] at h
      obtain ⟨hlow, hhigh⟩ := h
      have hlow' : 'a'.toNat ≤ c.toNat := hlow
      have hhigh' : c.toNat ≤ 'z'.toNat := hhigh
      have ha : 'a'.toNat = 97 := rfl
      have hz : 'z'.toNat = 122 := rfl
      omega
    · decide
  rw [Text.mapCase, hnone c.toNat hrange.2 hrange.1]

theorem lowerFrom_nameChars {cs : List Char} (h : ∀ c ∈ cs, isNameChar c = true)
    (before : List Char) : Text.lowerFrom before cs = cs := by
  induction cs generalizing before with
  | nil => rfl
  | cons c cs ih =>
    obtain ⟨hc, hcs⟩ := List.forall_mem_cons.1 h
    have hsigma : c ≠ 'Σ' := by rintro rfl; revert hc; decide
    have hdotted : c ≠ 'İ' := by rintro rfl; revert hc; decide
    rw [Text.lowerFrom, Text.small, if_neg hsigma, if_neg hdotted, mapCase_nameChar hc, ih hcs]
    rfl

theorem isNameChar_of_mem_name {name : String} (h : name ∈ all.map (·.name)) :
    ∀ c ∈ name.toList, isNameChar c = true := by
  have hall : ∀ n ∈ all.map (·.name), n.toList.all isNameChar = true := by decide +kernel
  exact List.all_eq_true.1 (hall name h)

theorem lowerString_name {name : String} (h : name ∈ all.map (·.name)) :
    Text.lowerString name = name := by
  rw [Text.lowerString, Text.lower, lowerFrom_nameChars (isNameChar_of_mem_name h),
    String.ofList_toList]

/-- The name of the variable of a field in lower case. -/
theorem lowerString_variable {name : String} (h : name ∈ all.map (·.name)) :
    Text.lowerString ("ATLAS_" ++ name) = "atlas_" ++ name := by
  have hmap : "ATLAS_".toList.map (Text.mapCase Text.smallForms) = "atlas_".toList := by
    decide +kernel
  have hstem (cs : List Char) : Text.lowerFrom [] ("ATLAS_".toList ++ cs) =
      "atlas_".toList ++ Text.lowerFrom "_SALTA".toList cs := by
    rw [← hmap]
    rfl
  rw [Text.lowerString, Text.lower, String.toList_append, hstem,
    lowerFrom_nameChars (isNameChar_of_mem_name h), String.ofList_append,
    String.ofList_toList, String.ofList_toList]

/-! #### What the model reads -/

namespace VariableRule

theorem last?_eq_find? (entries : List (String × Value)) (name : String) :
    last? entries name = (Keyed.ofList entries).find? name := by
  rw [Keyed.find?_ofList, List.getLast?_filter, last?]

theorem last?_eq_none {entries : List (String × Value)} {name : String}
    (h : ∀ e ∈ entries, e.1 ≠ name) : last? entries name = none := by
  have hnone : entries.reverse.find? (fun e => e.1 = name) = none :=
    List.find?_eq_none.2 fun e he => by simpa using h e (List.mem_reverse.1 he)
  rw [last?, hnone, Option.map_none]

/-- Entries of fields say nothing about how variables are read. -/
theorem ofEntries_eq {entries : List (String × Value)}
    (h : ∀ e ∈ entries, e.1 ∈ all.map (·.name)) : ofEntries entries = .ok {} := by
  have hlast {name : String} (hname : name ∉ all.map (·.name)) : last? entries name = none :=
    last?_eq_none fun e he heq => hname (heq ▸ h e he)
  rw [ofEntries, hlast (by decide), hlast (by decide), hlast (by decide), hlast (by decide),
    hlast (by decide)]
  rfl

end VariableRule

theorem namedEntries?_map (entries : List (String × Value)) :
    namedEntries? (entries.map fun e => (.text e.1, e.2)) = some entries := by
  induction entries with
  | nil => rfl
  | cons e es ih => rw [List.map_cons, namedEntries?, ih, Option.map_some]

theorem documentEntries_eq (path : String) {text : TextRun} {entries : List (String × Value)}
    (h : Yaml.parse text = .ok (.mapping (entries.map fun e => (.text e.1, e.2)))) :
    documentEntries path text = .ok entries := by
  unfold documentEntries
  simp only [h, namedEntries?_map]
  clear h
  cases entries <;> rfl

namespace Sourced

variable {files : Files} {environment : List (String × String)} {path : String}
  {entries : List (String × Value)}

/-- The sources from which settings are loaded. -/
def sources (environment : List (String × String)) (entries : List (String × Value)) : Sources :=
  ⟨{}, VariableRule.read {} environment, entries⟩

theorem variableValue?_eq (name : String) :
    (sources environment entries).variableValue? name =
      (variableText? environment name).map .text := by
  have hname : VariableRule.name? {} name = some (Text.lowerString ("ATLAS_" ++ name)) := rfl
  have hread : VariableRule.read {} environment =
      (environment.map fun e => (Text.lowerString e.1, e.2)).map fun e => (e.1, .text e.2) := by
    rw [List.map_map]
    exact congrArg _ (List.filter_eq_self.2 fun _ _ => rfl)
  show (VariableRule.name? {} name).bind (VariableRule.last? (VariableRule.read {} environment)) = _
  rw [hname, Option.bind_some, VariableRule.last?_eq_find?, hread, variableText?,
    Keyed.find?_ofList, Keyed.find?_ofList, List.filter_map, List.getLast?_map, Option.map_map,
    Option.map_map]
  rfl

theorem entryValue?_eq (hnamed : ∀ e ∈ entries, e.1 ∈ all.map (·.name)) {name : String} :
    (sources environment entries).entryValue? name = (Keyed.ofList entries).find? name := by
  have hlower : ∀ e ∈ entries, Text.lowerString e.1 = e.1 := fun e he =>
    lowerString_name (hnamed e he)
  show (entries.find? fun e => Text.lowerString e.1 = name).bind
    (fun written => VariableRule.last? entries written.1) = _
  rw [← VariableRule.last?_eq_find?]
  cases hfind : entries.find? fun e => Text.lowerString e.1 = name with
  | none =>
    refine (VariableRule.last?_eq_none fun e he heq => ?_).symm
    have hne := List.find?_eq_none.1 hfind e he
    rw [hlower e he, decide_eq_true heq] at hne
    exact hne rfl
  | some written =>
    have hwritten : Text.lowerString written.1 = name := by simpa using List.find?_some hfind
    rw [hlower written (List.mem_of_find?_eq_some hfind)] at hwritten
    rw [Option.bind_some, hwritten]

/-- Only the variable of the world centre is more than a text. -/
theorem decode_of_mem : ∀ f ∈ all,
    f.decode = if f.name = center.name then center.decode else fun t => some (.text t) := by
  simp only [all, List.forall_mem_cons]
  exact ⟨rfl, rfl, rfl, rfl, rfl, rfl, rfl, rfl, rfl, rfl, rfl, rfl, rfl, rfl, rfl, rfl, rfl,
    rfl, rfl, rfl, fun _ h => absurd h List.not_mem_nil⟩

theorem rawData?_eq (h : Sourced files environment path entries) :
    (sources environment entries).rawData? center.name =
      .ok (center.given? environment entries) := by
  rw [Sources.rawData?_eq, Sources.data?, variableValue?_eq, entryValue?_eq h.named,
    SettingsField.given?]
  cases ht : variableText? environment center.name with
  | none => rfl
  | some t =>
    obtain ⟨v, hv⟩ := Option.isSome_iff_exists.1 (h.data t ht)
    simp only [Option.map_some, Option.bind_some, center, hv]
    cases v <;> rfl

theorem given_eq (h : Sourced files environment path entries) {f : SettingsField} (hf : f ∈ all) :
    (sources environment entries).given (center.given? environment entries) f.name =
      f.given? environment entries := by
  have hdecode := decode_of_mem f hf
  by_cases hname : f.name = center.name
  · rw [if_pos hname] at hdecode
    rw [SettingsField.given?, SettingsField.given?, hname, hdecode]
    exact if_pos rfl
  · rw [if_neg hname] at hdecode
    rw [Sources.given_of_ne hname, Sources.raw?_eq, variableValue?_eq, entryValue?_eq h.named,
      SettingsField.given?, hdecode]
    cases variableText? environment f.name <;> rfl

theorem loadSettings_eq (h : Sourced files environment path entries) :
    loadSettings files environment path = (sources environment entries).settings := by
  have hentries : Settings.ofEntries environment entries =
      (sources environment entries).settings := by
    rw [Settings.ofEntries, VariableRule.ofEntries_eq h.named]
    rfl
  cases h.document with
  | none hpath =>
    rw [loadSettings, hpath]
    exact hentries
  | mapping hpath hread hparse =>
    rw [loadSettings, hpath]
    simp only [hread, documentEntries_eq _ hparse]
    exact hentries

theorem settled (h : Sourced files environment path entries) :
    Settled (·.given? environment entries) (loadSettings files environment path) := by
  rw [h.loadSettings_eq]
  exact Sources.settled_settings h.rawData?_eq fun f hf => h.given_eq hf

end Sourced

/-- **Precedence is per field.** What is given for the fields settles them one by one; what
an accepted variable shadows is not reported; and a field is the same in all settings that
have the same variable and the same entry for it. -/
theorem precedence_per_field {files : Files} {environment : List (String × String)}
    {path : String} {entries : List (String × Value)}
    (h : Sourced files environment path entries) :
    Settled (·.given? environment entries) (loadSettings files environment path) ∧
    (∀ f ∈ all, ∀ t v x, variableText? environment f.name = some t → f.decode t = some v →
      f.read v = .ok x → ∀ is, loadSettings files environment path = .error (.invalid is) →
      ∀ i ∈ is, i.location.name? ≠ some f.name) ∧
    ∀ {files' : Files} {environment' : List (String × String)} {path' : String}
      {entries' : List (String × Value)}, Sourced files' environment' path' entries' →
      ∀ f ∈ all, variableText? environment' f.name = variableText? environment f.name →
      (Keyed.ofList entries').find? f.name = (Keyed.ofList entries).find? f.name →
      ∀ s s', loadSettings files environment path = .ok s →
      loadSettings files' environment' path' = .ok s' → f.get s' = f.get s := by
  have hsettled := h.settled
  refine ⟨hsettled, ?_, ?_⟩
  · intro f hf t v x ht hv hx is his
    refine hsettled.unreported is his f hf ?_
    rw [SettingsField.given?, ht, Option.bind_some, hv, Option.some_or, SettingsField.refuses,
      Option.any_some, hx]
    rfl
  · intro files' environment' path' entries' h' f hf hvariable hentry s s' hs hs'
    have hgiven : f.given? environment' entries' = f.given? environment entries := by
      rw [SettingsField.given?, SettingsField.given?, hvariable, hentry]
    have htakes := hsettled.takes_of_ok hs f hf
    have htakes' := h'.settled.takes_of_ok hs' f hf
    rw [hgiven] at htakes'
    exact SettingsField.get_eq_of_takes htakes' htakes

/-- A wrong entry that a variable shadows, beside two wrong variables. -/
theorem precedence_per_field_shadowed :
    let files : Files := .ofList [(["atlas.yaml"], "zoom_min: bad\n".toUTF8)]
    let environment := [("ATLAS_ZOOM_MIN", "0.5"), ("ATLAS_ZOOM_MAX", "-1"),
      ("ATLAS_WORLD_CENTER", "[1, null]")]
    ∃ is, loadSettings files environment "atlas.yaml" = .error (.invalid is) ∧
      (is.map (·.location.name?)).eraseDups = [some "world_center", some "zoom_max"] := by
  intro files environment
  let text : TextRun := ⟨"zoom_min: bad\n".toList, true⟩
  let entries : List (String × Value) := [("zoom_min", .text "bad")]
  have hparse : Yaml.parse text = .ok (.mapping (entries.map fun e => (.text e.1, e.2))) := by
    cbv
  have hlower : environment.map (fun e => (Text.lowerString e.1, e.2)) =
      [("atlas_zoom_min", "0.5"), ("atlas_zoom_max", "-1"),
        ("atlas_world_center", "[1, null]")] := by
    decide +kernel
  have hvariable : ∀ f ∈ all, variableText? environment f.name =
      (Keyed.ofList [("atlas_zoom_min", "0.5"), ("atlas_zoom_max", "-1"),
        ("atlas_world_center", "[1, null]")]).find? ("atlas_" ++ f.name) := fun f hf => by
    rw [variableText?, hlower, lowerString_variable (List.mem_map_of_mem hf)]
  have hcenter : variableText? environment center.name = some "[1, null]" := by
    rw [hvariable center List.mem_cons_self]
    rfl
  have hsourced : Sourced files environment "atlas.yaml" entries :=
    { document := .mapping rfl (show files.readRun "atlas.yaml" = .ok text from rfl) hparse
      named := by decide
      data := fun t ht => by
        rw [hcenter] at ht
        obtain rfl := Option.some.inj ht
        decide +kernel }
  obtain ⟨hsettled, -, -⟩ := precedence_per_field hsourced
  have hrefused : (all.filter fun f => f.refuses (f.given? environment entries)).map
      (fun f => some f.name) = [some "world_center", some "zoom_max"] := by
    rw [List.filter_congr fun f hf => by rw [SettingsField.given?, hvariable f hf]]
    decide +kernel
  have hsome : ∃ f ∈ all, f.refuses (f.given? environment entries) = true :=
    ⟨center, List.mem_cons_self, by rw [SettingsField.given?, hcenter]; decide +kernel⟩
  obtain ⟨is, his, hnames⟩ := hsettled.reported hsome
  exact ⟨is, his, hnames.trans hrefused⟩

/-- Null in the variable of the world centre would be refused as a value; it is passed
over, and the entry of the document counts. -/
theorem null_is_no_center :
    let files : Files := .ofList [(["atlas.yaml"], "world_center: [1, 2]\n".toUTF8)]
    let environment := [("ATLAS_WORLD_CENTER", "null")]
    variableText? environment center.name = some "null" ∧ Json.parse? "null" = some .null ∧
      center.refuses (some .null) = true ∧
      ∃ s, loadSettings files environment "atlas.yaml" = .ok s ∧ s.worldCenter = ⟨1.0, 2.0⟩ := by
  intro files environment
  have hloads : (loadSettings files environment "atlas.yaml").toOption.any
      (fun s => decide (s.worldCenter = ⟨1.0, 2.0⟩)) = true := by
    decide +kernel
  obtain ⟨s, hs, hcenter⟩ := exists_eq_ok_of_any hloads
  exact ⟨by decide +kernel, rfl, rfl, s, hs, of_decide_eq_true hcenter⟩

end SchemaDiagram

/-
# The fields of the settings

A field of the settings has a name under which values are given for it, a way to read a
value, and bounds. What is read keeps the bounds, and so does what the field holds where
nothing is given; what is wrong with a value is reported under the name of the field. The
settings are read field by field, each from the value that is given for it.

Key definitions: `SettingsField`, `SettingsField.all`, `SettingsField.Takes`,
`SettingsField.refuses`, `Checked.Yields`, `Sources.given`.
Key theorems: `Convert.named_of_pair_eq_error`, `Checked.yields_both`,
`Sources.issues_fields`, `Sources.fields_eq_good_iff`, `Sources.exists_fields_eq_good_iff`.
-/
import SchemaDiagram.Settings.Source

namespace SchemaDiagram

/-! ### What is reported -/

/-- The field that an issue is about. -/
def Location.name? : Location → Option String
  | whole => none
  | field name => some name
  | item name _ => some name

namespace Convert

theorem name?_of_mem_itemIssues {name : String} {k : Nat} {vs : List Value} :
    ∀ i ∈ itemIssues name k vs, i.location.name? = some name := by
  induction vs generalizing k with
  | nil =>
    intro i hi
    obtain ⟨j, -, rfl⟩ := List.mem_map.1 hi
    rfl
  | cons v vs ih =>
    rw [itemIssues]
    split
    · exact ih
    · exact List.forall_mem_cons.2 ⟨rfl, ih⟩

/-- Nothing is wrong with the items of a pair only if enough of them are there and all
are numbers. -/
theorem forall_real_of_itemIssues_eq_nil {name : String} {k : Nat} {vs : List Value}
    (h : itemIssues name k vs = []) : 2 - k ≤ vs.length ∧ ∀ v ∈ vs, ∃ x, real v = .ok x := by
  induction vs generalizing k with
  | nil =>
    rw [itemIssues, List.map_eq_nil_iff, List.range_eq_nil] at h
    exact ⟨by rw [h]; exact Nat.zero_le _, by simp⟩
  | cons v vs ih =>
    rw [itemIssues] at h
    split at h
    · next x hx =>
      obtain ⟨hlength, hall⟩ := ih h
      refine ⟨by rw [List.length_cons]; omega, List.forall_mem_cons.2 ⟨⟨x, hx⟩, hall⟩⟩
    · cases h

/-- Whatever is wrong with a pair is reported under its name. -/
theorem named_of_pair_eq_error {name : String} {v : Value} {is : List Issue}
    (h : pair name v = .error is) : is ≠ [] ∧ ∀ i ∈ is, i.location.name? = some name := by
  rw [pair] at h
  split at h
  · obtain rfl := Except.error.inj h
    exact ⟨List.cons_ne_nil _ _, by simp [Location.name?]⟩
  · next vs _ =>
    split at h
    · obtain rfl := Except.error.inj h
      exact ⟨List.cons_ne_nil _ _, by simp [Location.name?]⟩
    · next hshort =>
      split at h
      · cases h
      · next hpair =>
        obtain rfl := Except.error.inj h
        refine ⟨fun hnil => ?_, name?_of_mem_itemIssues⟩
        obtain ⟨hlength, hall⟩ := forall_real_of_itemIssues_eq_nil hnil
        have htwo : vs.length = 2 := by omega
        match vs, htwo, hall, hpair with
        | [a, b], _, hall, hpair =>
          obtain ⟨x, hx⟩ := hall a (by simp)
          obtain ⟨y, hy⟩ := hall b (by simp)
          exact hpair x y (by rw [List.map_cons, List.map_cons, hx, hy]; rfl)

end Convert

namespace Checked

variable {β γ : Type}

/-- What is read, or all that is wrong with it. -/
def ofExcept : Except (List Issue) β → Checked β
  | .ok x => good x
  | .error is => bad is

theorem ofExcept_eq_good_iff {r : Except (List Issue) β} {x : β} :
    ofExcept r = good x ↔ r = .ok x := by
  cases r <;> simp [ofExcept]

theorem exists_of_mem_issues_ofExcept {r : Except (List Issue) β} {i : Issue}
    (h : i ∈ (ofExcept r).issues) : ∃ is, r = .error is ∧ i ∈ is := by
  cases r with
  | error is => exact ⟨is, rfl, h⟩
  | ok x => cases h

/-- There is a value, and it is as wanted. -/
def Yields (b : Checked β) (wanted : β → Prop) : Prop :=
  ∃ x, b = good x ∧ wanted x

theorem yields_eq {b : Checked β} {x : β} : b.Yields (· = x) ↔ b = good x := by
  simp [Yields]

theorem yields_good {x : β} {wanted : β → Prop} : (good x).Yields wanted ↔ wanted x := by
  simp [Yields]

theorem yields_both {f : Checked (β → γ)} {b : Checked β} {wanted : γ → Prop} :
    (f.both b).Yields wanted ↔ b.Yields fun x => f.Yields fun g => wanted (g x) := by
  cases f <;> cases b <;> simp [both, Yields]

theorem yields_true {b : Checked β} : (b.Yields fun _ => True) ↔ ∃ x, b = good x := by
  simp [Yields]

theorem yields_const {b : Checked β} {p : Prop} :
    (b.Yields fun _ => p) ↔ p ∧ ∃ x, b = good x := by
  simp [Yields, and_comm]

theorem yields_and_left {b : Checked β} {p : Prop} {wanted : β → Prop} :
    (b.Yields fun x => p ∧ wanted x) ↔ p ∧ b.Yields wanted := by
  simp only [Yields, and_left_comm, exists_and_left]

theorem yields_eq_and {b : Checked β} {x : β} {p : Prop} :
    (b.Yields fun y => y = x ∧ p) ↔ b = good x ∧ p := by
  simp [Yields, and_left_comm]

end Checked

/-! ### Fields -/

/-- A field of the settings. -/
structure SettingsField where
  γ : Type
  name : String
  /-- The value that the text of a variable of the field stands for, if it does. -/
  decode : String → Option Value
  read : Value → Except (List Issue) γ
  /-- What the field holds in given settings. -/
  get : Settings Float → γ
  /-- The bounds of the field. -/
  Allows : γ → Prop
  allows_of_read : ∀ {v x}, read v = .ok x → Allows x
  allows_stock : Allows (get .stock)
  named : ∀ {v is}, read v = .error is → is ≠ [] ∧ ∀ i ∈ is, i.location.name? = some name

namespace SettingsField

/-- A field with a conversion that finds one thing wrong at most. -/
def single {γ : Type} (name : String) (convert : Value → Except Cause γ)
    (get : Settings Float → γ) (Allows : γ → Prop)
    (allows_of_convert : ∀ {v x}, convert v = .ok x → Allows x)
    (allows_stock : Allows (get .stock)) : SettingsField where
  γ := γ
  name := name
  decode t := some (.text t)
  read v := (convert v).mapError fun c => [⟨.field name, c⟩]
  get := get
  Allows := Allows
  allows_of_read {v x} h := by
    cases hv : convert v with
    | error c => rw [hv] at h; cases h
    | ok y =>
      rw [hv] at h
      obtain rfl := Except.ok.inj h
      exact allows_of_convert hv
  allows_stock := allows_stock
  named {v is} h := by
    cases hv : convert v with
    | error c =>
      rw [hv] at h
      obtain rfl := Except.error.inj h
      exact ⟨List.cons_ne_nil _ _, by simp [Location.name?]⟩
    | ok y => rw [hv] at h; cases h

/-- A field with a number within bounds; the number in stock is defined and within them. -/
def number [BoundRule] [LawfulBoundRule] (name : String) (bounds : List Bound)
    (get : Settings Float → Float) (hdefined : (get .stock).isNaN = false)
    (hstock : ∀ b ∈ bounds, b.excludes (get .stock) = false) : SettingsField :=
  single name (Convert.bounded bounds) get (fun x => ∀ b ∈ bounds, BoundRule.refuses b x = false)
    (fun h => (Convert.bounded_ok_iff.1 h).2)
    fun b hb => (LawfulBoundRule.refuses_defined hdefined b).trans (hstock b hb)

/-- A field of any kind without bounds. -/
def free {γ : Type} (name : String) (convert : Value → Except Cause γ)
    (get : Settings Float → γ) : SettingsField :=
  single name convert get (fun _ => True) (fun _ => trivial) trivial

theorem forall_of_boundedWhole {bounds : List Bound} {v : Value} {n : Int}
    (h : Convert.boundedWhole bounds v = .ok n) : ∀ b ∈ bounds, b.admitsWhole n = true := by
  unfold Convert.boundedWhole at h
  split at h
  · cases h
  · split at h
    · cases h
    · next hf =>
      obtain rfl := Except.ok.inj h
      exact fun b hb => by simpa using List.find?_eq_none.1 hf b hb

/-- The most fields that a box is measured with. -/
def cap : SettingsField :=
  single "field_cap" (Convert.boundedWhole [.atLeast 0]) (·.fieldCap)
    (fun n => ∀ b ∈ [Bound.atLeast 0], b.admitsWhole n = true) forall_of_boundedWhole (by decide)

/-- The world centre, whose variable holds data. Null is as good as no variable. -/
def center : SettingsField where
  γ := Point Float
  name := "world_center"
  decode t :=
    match Json.parse? t with
    | some .null => none
    | v => v
  read := Convert.pair "world_center"
  get := (·.worldCenter)
  Allows _ := True
  allows_of_read _ := trivial
  allows_stock := trivial
  named := Convert.named_of_pair_eq_error

/-- All fields, in the order in which they are declared. -/
def all [BoundRule] [LawfulBoundRule] : List SettingsField :=
  [center,
   number "node_width" [.above 0] (·.nodeWidth) (by decide) (by decide),
   number "spiral_spacing" [.above 0] (·.spiralSpacing) (by decide) (by decide),
   number "base_height" [.atLeast 0] (·.baseHeight) (by decide) (by decide),
   number "field_height" [.atLeast 0] (·.fieldHeight) (by decide) (by decide),
   cap,
   number "option_height" [.atLeast 0] (·.optionHeight) (by decide) (by decide),
   number "initial_scale" [.above 0] (·.initialScale) (by decide) (by decide),
   number "zoom_in_factor" [.above 1] (·.zoomInFactor) (by decide) (by decide),
   number "zoom_out_factor" [.below 1, .above 0] (·.zoomOutFactor) (by decide) (by decide),
   number "zoom_min" [.above 0] (·.zoomMin) (by decide) (by decide),
   number "zoom_max" [.above 0] (·.zoomMax) (by decide) (by decide),
   number "fit_margin" [.atLeast 0] (·.fitMargin) (by decide) (by decide),
   number "fit_min" [.above 0] (·.fitMin) (by decide) (by decide),
   number "fit_max" [.above 0] (·.fitMax) (by decide) (by decide),
   number "viewport_width" [.above 0] (·.viewportWidth) (by decide) (by decide),
   number "viewport_height" [.above 0] (·.viewportHeight) (by decide) (by decide),
   free "default_schema_path" Convert.path (·.schemaPath),
   free "log_level" Convert.text (·.logLevel),
   free "log_file" Convert.optionalPath (·.logFile)]

/-! ### Reading a field -/

variable (f : SettingsField)

/-- The field from the value given for it. -/
def checked : Option Value → Checked f.γ
  | none => .good (f.get .stock)
  | some v => .ofExcept (f.read v)

/-- A value is given for the field and not accepted. -/
def refuses (raw : Option Value) : Bool :=
  raw.any fun v => !(f.read v).isOk

/-- The settings have what the given value stands for, or else what is in stock. -/
def Takes (raw : Option Value) (s : Settings Float) : Prop :=
  match raw with
  | none => f.get s = f.get .stock
  | some v => f.read v = .ok (f.get s)

variable {f : SettingsField} {raw : Option Value} {s t : Settings Float}

theorem checked_eq_good_iff : f.checked raw = .good (f.get s) ↔ f.Takes raw s := by
  cases raw with
  | none => exact ⟨fun h => (Checked.good.inj h).symm, fun h => congrArg Checked.good h.symm⟩
  | some v => exact Checked.ofExcept_eq_good_iff

theorem refuses_eq_false_of_takes (h : f.Takes raw s) : f.refuses raw = false := by
  cases raw with
  | none => rfl
  | some v =>
    have hread : f.read v = .ok (f.get s) := h
    rw [refuses, Option.any_some, hread]
    rfl

theorem allows_of_takes (h : f.Takes raw s) : f.Allows (f.get s) := by
  cases raw with
  | none =>
    have hget : f.get s = f.get .stock := h
    exact hget ▸ f.allows_stock
  | some v => exact f.allows_of_read h

/-- Two settings that take the same value agree on the field. -/
theorem get_eq_of_takes (hs : f.Takes raw s) (ht : f.Takes raw t) : f.get s = f.get t := by
  cases raw with
  | none => exact hs.trans ht.symm
  | some v => exact Except.ok.inj (hs.symm.trans ht)

theorem exists_checked_eq_good_iff : (∃ x, f.checked raw = .good x) ↔ f.refuses raw = false := by
  cases raw with
  | none => exact ⟨fun _ => rfl, fun _ => ⟨_, rfl⟩⟩
  | some v =>
    rw [refuses, Option.any_some, checked]
    cases f.read v with
    | error is => exact ⟨fun ⟨x, hx⟩ => (by cases hx), fun hok => (by cases hok)⟩
    | ok x => exact ⟨fun _ => rfl, fun _ => ⟨x, rfl⟩⟩

/-- What is wrong with a field is reported under its name. -/
theorem name?_of_mem_issues {i : Issue} (hi : i ∈ (f.checked raw).issues) :
    i.location.name? = some f.name := by
  cases raw with
  | none => cases hi
  | some v =>
    obtain ⟨is, his, hmem⟩ := Checked.exists_of_mem_issues_ofExcept hi
    exact (f.named his).2 i hmem

/-- Something is reported exactly about a field whose value is not accepted. -/
theorem isEmpty_issues_checked : (f.checked raw).issues.isEmpty = !f.refuses raw := by
  cases raw with
  | none => rfl
  | some v =>
    rw [refuses, Option.any_some, checked]
    cases h : f.read v with
    | error is => exact List.isEmpty_eq_false_iff.2 (f.named h).1
    | ok x => rfl

end SettingsField

/-! ### All fields -/

namespace Sources

open SettingsField

variable {s : Sources} {rawCenter : Option Value}

/-- The value that is given for the field of a name. -/
def given (s : Sources) (rawCenter : Option Value) (name : String) : Option Value :=
  if name = "world_center" then rawCenter else s.raw? name

section

variable {γ : Type} {name : String}

theorem given_of_ne (h : name ≠ "world_center") : s.given rawCenter name = s.raw? name :=
  if_neg h

theorem checked_single {convert : Value → Except Cause γ} {get : Settings Float → γ}
    {Allows : γ → Prop} (hconvert : ∀ {v x}, convert v = .ok x → Allows x)
    (hstock : Allows (get .stock)) (h : name ≠ "world_center") :
    (single name convert get Allows hconvert hstock).checked (s.given rawCenter name) =
      s.read convert name (get .stock) := by
  rw [given_of_ne h, read]
  cases s.raw? name with
  | none => rfl
  | some v =>
    show Checked.ofExcept ((convert v).mapError _) = _
    cases hv : convert v with
    | error c => simp only [hv]; rfl
    | ok x => simp only [hv]; rfl

theorem checked_number [BoundRule] [LawfulBoundRule] {bounds : List Bound}
    {get : Settings Float → Float} {hdefined : (get .stock).isNaN = false}
    {hstock : ∀ b ∈ bounds, b.excludes (get .stock) = false} (h : name ≠ "world_center") :
    (number name bounds get hdefined hstock).checked
        (s.given rawCenter (number name bounds get hdefined hstock).name) =
      s.read (Convert.bounded bounds) name (get .stock) :=
  checked_single (fun hx => (Convert.bounded_ok_iff.1 hx).2) _ h

theorem checked_free {convert : Value → Except Cause γ} {get : Settings Float → γ}
    (h : name ≠ "world_center") :
    (free name convert get).checked (s.given rawCenter (free name convert get).name) =
      s.read convert name (get .stock) :=
  checked_single (fun _ => trivial) trivial h

theorem checked_cap :
    cap.checked (s.given rawCenter cap.name) =
      s.read (Convert.boundedWhole [.atLeast 0]) "field_cap"
        (Settings.fieldCap (.stock : Settings Float)) :=
  checked_single forall_of_boundedWhole (by decide) (by decide)

theorem checked_center :
    SettingsField.center.checked (s.given rawCenter SettingsField.center.name) =
      Sources.center rawCenter := by
  have hgiven : s.given rawCenter SettingsField.center.name = rawCenter := if_pos rfl
  rw [hgiven]
  cases rawCenter with
  | none => rfl
  | some v =>
    show Checked.ofExcept (Convert.pair "world_center" v) = _
    unfold Sources.center
    cases hv : Convert.pair "world_center" v with
    | error is => simp only [hv]; rfl
    | ok p => simp only [hv]; rfl

end

variable [BoundRule] [LawfulBoundRule]

/-- What is wrong with the fields is reported field by field. -/
theorem issues_fields :
    (s.fields rawCenter).issues =
      all.flatMap fun f => (f.checked (s.given rawCenter f.name)).issues := by
  simp only [fields, Checked.issues_both, List.append_assoc]
  -- the fields of the table one by one, each of them read as in `fields`
  simp (disch := decide) only [all, List.flatMap_cons, List.flatMap_nil, checked_number,
    checked_free, checked_cap, checked_center, List.append_nil]
  rfl

/-- There are values for all fields exactly if each field has its own. -/
theorem fields_eq_good_iff {t : Settings Float} :
    s.fields rawCenter = .good t ↔ ∀ f ∈ all, f.Takes (s.given rawCenter f.name) t := by
  obtain ⟨⟩ := t
  rw [← Checked.yields_eq]
  simp only [fields, Checked.yields_both, Checked.yields_good, Settings.mk.injEq]
  -- what is wanted of a field goes to that field
  simp only [Checked.yields_and_left, Checked.yields_eq_and, Checked.yields_eq]
  simp (disch := decide) only [← checked_eq_good_iff, all, List.forall_mem_cons, checked_number,
    checked_free, checked_cap, checked_center, List.not_mem_nil, false_implies, implies_true,
    and_true]
  rfl

/-- There are values for all fields exactly if none of those given is refused. -/
theorem exists_fields_eq_good_iff :
    (∃ t, s.fields rawCenter = .good t) ↔
      ∀ f ∈ all, f.refuses (s.given rawCenter f.name) = false := by
  simp only [← exists_checked_eq_good_iff]
  rw [← Checked.yields_true]
  simp only [fields, Checked.yields_both, Checked.yields_good]
  simp only [Checked.yields_const, true_and, and_assoc]
  simp (disch := decide) only [all, List.forall_mem_cons, checked_number, checked_free,
    checked_cap, checked_center, List.not_mem_nil, false_implies, implies_true, and_true]
  rfl

end Sources
end SchemaDiagram

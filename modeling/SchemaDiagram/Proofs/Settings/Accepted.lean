/-
# Accepted settings are in range

Every field of the settings that are loaded is within its bounds, as what is read keeps
them and so does the stock: a number that is not on the wrong side of a limit is on the
right one, since undefined numbers are refused. So the two ranges, of which only the wrong
order is refused, are in order. The camera relies on that: every scale, infinite and
undefined ones too, is clamped into the range of the zoom. A rule that refused nothing but
the wrong side would let undefined numbers through.

Key definitions: `Settings.Allowed`.
Key theorems: `Sources.settings_eq_ok_iff`, `exists_settings_of_loadSettings`,
`BoundRule.defined_of_refuses`, `Settings.inRange_of_allowed`, `inRange_of_loadSettings`,
`undefined_accepted`.
-/
import SchemaDiagram.Proofs.Double
import SchemaDiagram.Proofs.Outcome
import SchemaDiagram.Proofs.Settings.Fields
import SchemaDiagram.Proofs.Settings.Range

namespace SchemaDiagram

/-! ### What is accepted -/

theorem Settings.order_eq_ok_iff {s t : Settings Float} :
    s.order = .ok t ↔ t = s ∧ ¬ s.zoomMax < s.zoomMin ∧ ¬ s.fitMax < s.fitMin := by
  refine ⟨Settings.ordered_of_order, ?_⟩
  rintro ⟨rfl, hzoom, hfit⟩
  rw [Settings.order, if_neg hzoom, if_neg hfit]

section

variable [BoundRule] [LawfulBoundRule]

/-- Sources make up settings exactly if each field takes what is given for it and the
ranges are in order. -/
theorem Sources.settings_eq_ok_iff {s : Sources} {t : Settings Float} :
    s.settings = .ok t ↔
      ∃ raw, s.rawData? "world_center" = .ok raw ∧
        (∀ f ∈ SettingsField.all, f.Takes (s.given raw f.name) t) ∧
        ¬ t.zoomMax < t.zoomMin ∧ ¬ t.fitMax < t.fitMin := by
  rw [Sources.settings, bind_eq_ok_iff]
  refine exists_congr fun raw => and_congr_right fun _ => ?_
  rw [← fields_eq_good_iff]
  cases s.fields raw with
  | bad is => exact ⟨fun h => (by cases h), fun h => (by cases h.1)⟩
  | good u =>
    rw [Checked.good.injEq]
    constructor
    · intro h
      obtain ⟨rfl, hordered⟩ := Settings.order_eq_ok_iff.1 h
      exact ⟨rfl, hordered⟩
    · rintro ⟨rfl, hordered⟩
      exact Settings.order_eq_ok_iff.2 ⟨rfl, hordered⟩

omit [LawfulBoundRule] in
/-- Settings that are loaded are made up from some sources. -/
theorem exists_settings_of_loadSettings {files : Files} {environment : List (String × String)}
    {path : String} {t : Settings Float} (h : loadSettings files environment path = .ok t) :
    ∃ s : Sources, s.settings = .ok t := by
  have hentries : ∃ entries, Settings.ofEntries environment entries = .ok t := by
    unfold loadSettings at h
    split at h
    · exact ⟨[], h⟩
    · split at h
      · cases h
      · obtain ⟨entries, -, hentries⟩ := bind_eq_ok_iff.1 h
        exact ⟨entries, hentries⟩
  obtain ⟨entries, hentries⟩ := hentries
  obtain ⟨rule, -, hsettings⟩ := bind_eq_ok_iff.1 hentries
  exact ⟨⟨rule, rule.read environment, entries⟩, hsettings⟩

/-! ### Bounds -/

namespace BoundRule

variable {b : Bound} {x : Float}

/-- A number that some limit does not refuse is defined and not on its wrong side. -/
theorem defined_of_refuses (h : refuses b x = false) :
    Double.Defined x ∧ b.excludes x = false := by
  by_cases hx : x.isNaN = true
  · rw [LawfulBoundRule.refuses_undefined hx] at h
    cases h
  · rw [Bool.not_eq_true] at hx
    exact ⟨hx, (LawfulBoundRule.refuses_defined hx b).symm.trans h⟩

end BoundRule

namespace SettingsField

variable {name : String} {bounds : List Bound} {get : Settings Float → Float}
  {hdefined : (get .stock).isNaN = false} {hstock : ∀ b ∈ bounds, b.excludes (get .stock) = false}
  {x : Float}

theorem lt_of_allows (n : Nat) (hn : Double.Defined (Float.ofNat n))
    (h : (number name bounds get hdefined hstock).Allows x) (hb : .above n ∈ bounds) :
    Float.ofNat n < x := by
  obtain ⟨hx, hside⟩ := BoundRule.defined_of_refuses (h (.above n) hb)
  exact Double.lt_of_not_le hn hx (of_decide_eq_false hside)

theorem le_of_allows (n : Nat) (hn : Double.Defined (Float.ofNat n))
    (h : (number name bounds get hdefined hstock).Allows x) (hb : .atLeast n ∈ bounds) :
    Float.ofNat n ≤ x := by
  obtain ⟨hx, hside⟩ := BoundRule.defined_of_refuses (h (.atLeast n) hb)
  exact Double.le_of_not_lt hn hx (of_decide_eq_false hside)

theorem gt_of_allows (n : Nat) (hn : Double.Defined (Float.ofNat n))
    (h : (number name bounds get hdefined hstock).Allows x) (hb : .below n ∈ bounds) :
    x < Float.ofNat n := by
  obtain ⟨hx, hside⟩ := BoundRule.defined_of_refuses (h (.below n) hb)
  exact Double.lt_of_not_le hx hn (of_decide_eq_false hside)

end SettingsField

namespace Settings

/-- Every field is within its bounds. -/
def Allowed (s : Settings Float) : Prop :=
  ∀ f ∈ SettingsField.all, f.Allows (f.get s)

theorem inRange_of_allowed {s : Settings Float} (h : s.Allowed)
    (hzoom : ¬ s.zoomMax < s.zoomMin) (hfit : ¬ s.fitMax < s.fitMin) : s.InRange := by
  simp only [Allowed, SettingsField.all, List.forall_mem_cons] at h
  obtain ⟨-, nodeWidth, spiralSpacing, baseHeight, fieldHeight, fieldCap, optionHeight,
    initialScale, zoomIn, zoomOut, zoomMin, zoomMax, fitMargin, fitMin, fitMax, viewportWidth,
    viewportHeight, -⟩ := h
  have hzero : Double.Defined (Float.ofNat 0) := by
    rw [Double.Defined]
    decide
  have hone : Double.Defined (Float.ofNat 1) := by
    rw [Double.Defined]
    decide
  have hdefined {x : Float} (hx : 0.0 < x) : Double.Defined x :=
    (Double.defined_of_le (Double.le_of_lt hx)).2
  have hzoomMin : 0.0 < s.zoomMin := SettingsField.lt_of_allows 0 hzero zoomMin (by decide)
  have hzoomMax : 0.0 < s.zoomMax := SettingsField.lt_of_allows 0 hzero zoomMax (by decide)
  have hfitMin : 0.0 < s.fitMin := SettingsField.lt_of_allows 0 hzero fitMin (by decide)
  have hfitMax : 0.0 < s.fitMax := SettingsField.lt_of_allows 0 hzero fitMax (by decide)
  exact {
    nodeWidth := SettingsField.lt_of_allows 0 hzero nodeWidth (by decide)
    spiralSpacing := SettingsField.lt_of_allows 0 hzero spiralSpacing (by decide)
    baseHeight := SettingsField.le_of_allows 0 hzero baseHeight (by decide)
    fieldHeight := SettingsField.le_of_allows 0 hzero fieldHeight (by decide)
    fieldCap := of_decide_eq_true (fieldCap (.atLeast 0) (by decide))
    optionHeight := SettingsField.le_of_allows 0 hzero optionHeight (by decide)
    initialScale := SettingsField.lt_of_allows 0 hzero initialScale (by decide)
    zoomIn := SettingsField.lt_of_allows 1 hone zoomIn (by decide)
    zoomOut_pos := SettingsField.lt_of_allows 0 hzero zoomOut (by decide)
    zoomOut_lt := SettingsField.gt_of_allows 1 hone zoomOut (by decide)
    zoomMin := hzoomMin
    zoomMin_le := Double.le_of_not_lt (hdefined hzoomMin) (hdefined hzoomMax) hzoom
    fitMargin := SettingsField.le_of_allows 0 hzero fitMargin (by decide)
    fitMin := hfitMin
    fitMin_le := Double.le_of_not_lt (hdefined hfitMin) (hdefined hfitMax) hfit
    viewportWidth := SettingsField.lt_of_allows 0 hzero viewportWidth (by decide)
    viewportHeight := SettingsField.lt_of_allows 0 hzero viewportHeight (by decide) }

end Settings

/-- **Accepted settings are in range**, by whatever rule numbers are held to their limits
that refuses the wrong side and undefined numbers. -/
theorem inRange_of_loadSettings {files : Files} {environment : List (String × String)}
    {path : String} {s : Settings Float} (h : loadSettings files environment path = .ok s) :
    s.InRange ∧ ∀ v : Float, s.zoomMin ≤ Scalar.clamp v s.zoomMin s.zoomMax ∧
      Scalar.clamp v s.zoomMin s.zoomMax ≤ s.zoomMax := by
  obtain ⟨sources, hsources⟩ := exists_settings_of_loadSettings h
  obtain ⟨raw, -, htakes, hzoom, hfit⟩ := Sources.settings_eq_ok_iff.1 hsources
  have hallowed : s.Allowed := fun f hf => SettingsField.allows_of_takes (htakes f hf)
  have hrange : s.InRange := Settings.inRange_of_allowed hallowed hzoom hfit
  exact ⟨hrange, Double.clamp_mem hrange.zoomMin_le⟩

end

/-- A zoom without an upper limit, and a scale that is no number. -/
theorem inRange_of_loadSettings_unlimited :
    let files : Files := .ofList [(["atlas.yaml"], "zoom_min: ' 2.5 '\nzoom_max: .inf\n".toUTF8)]
    let undefined : Float := 0.0 / 0.0
    ∃ s, loadSettings files [] "atlas.yaml" = .ok s ∧
      s.zoomMin = 2.5 ∧ s.zoomMax.isInf = true ∧ s.InRange ∧
      s.zoomMin ≤ Scalar.clamp undefined s.zoomMin s.zoomMax ∧
      Scalar.clamp undefined s.zoomMin s.zoomMax ≤ s.zoomMax := by
  intro files undefined
  have hloads : (loadSettings files [] "atlas.yaml").toOption.any
      (fun s => decide (s.zoomMin = 2.5) && s.zoomMax.isInf) = true := by
    decide +kernel
  obtain ⟨s, hs, hzoom⟩ := exists_eq_ok_of_any hloads
  rw [Bool.and_eq_true, decide_eq_true_eq] at hzoom
  obtain ⟨hrange, hclamp⟩ := inRange_of_loadSettings hs
  exact ⟨s, hs, hzoom.1, hzoom.2, hrange, hclamp undefined⟩

/-- If a number were refused only for being on the wrong side of a limit, an undefined one
would be accepted. -/
theorem undefined_accepted :
    letI : BoundRule := ⟨fun b x => b.excludes x⟩
    ∃ s, loadSettings (.ofList []) [("ATLAS_ZOOM_MIN", "nan")] "" = .ok s ∧ ¬ 0.0 < s.zoomMin := by
  let _ : BoundRule := ⟨fun b x => b.excludes x⟩
  have hloads : (loadSettings (.ofList []) [("ATLAS_ZOOM_MIN", "nan")] "").toOption.any
      (fun s => !decide (0.0 < s.zoomMin)) = true := by
    decide +kernel
  obtain ⟨s, hs, hzoom⟩ := exists_eq_ok_of_any hloads
  rw [Bool.not_eq_true', decide_eq_false_iff_not] at hzoom
  exact ⟨s, hs, hzoom⟩

end SchemaDiagram

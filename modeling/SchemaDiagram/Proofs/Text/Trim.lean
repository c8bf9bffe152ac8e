/-
# Trimming

Trimming takes the blanks off the ends of a text and nothing else: what is left
has no blank at either end, characters that are no blanks are all kept, and
trimming once more, or after blanks have been added at the ends, gives the same
text.

Key theorems: `trim_trim`, `trim_blank_append`, `trim_append_blank`,
`trim_eq_self`, `count_trim`, `trim_eq_nil_iff`, `isBlank_getLast_append`.
-/
import Mathlib.Data.List.DropRight
import SchemaDiagram.Text.Blank

namespace SchemaDiagram
namespace Text

/-! ### The start -/

theorem trimStart_blank_append {b : List Char} (h : ∀ c ∈ b, isBlank c = true) (s : List Char) :
    trimStart (b ++ s) = trimStart s :=
  List.dropWhile_append_of_pos h

theorem trimStart_trimStart (s : List Char) : trimStart (trimStart s) = trimStart s :=
  List.dropWhile_idempotent _ _

/-- The blanks that are taken off the start. -/
theorem exists_blank_append_trimStart (s : List Char) :
    ∃ b, (∀ c ∈ b, isBlank c = true) ∧ s = b ++ trimStart s :=
  ⟨s.takeWhile isBlank, fun _ => List.mem_takeWhile_imp, List.takeWhile_append_dropWhile.symm⟩

/-! ### The end -/

theorem trimEnd_cons (c : Char) (s : List Char) :
    trimEnd (c :: s) = if isBlank c = true ∧ trimEnd s = [] then [] else c :: trimEnd s := by
  rw [trimEnd]
  cases trimEnd s with
  | nil => by_cases h : isBlank c = true <;> simp [h]
  | cons d r => simp

theorem trimEnd_eq_rdropWhile (s : List Char) : trimEnd s = s.rdropWhile isBlank := by
  induction s using List.reverseRecOn with
  | nil => rfl
  | append_singleton s c ih =>
    by_cases hc : isBlank c = true
    · rw [List.rdropWhile_concat_pos _ _ _ hc, ← ih]
      exact trimEnd_append_blank fun d hd => by rw [List.mem_singleton.1 hd]; exact hc
    · rw [List.rdropWhile_concat_neg _ _ _ hc]
      clear ih
      induction s with
      | nil => rw [List.nil_append, trimEnd_cons, if_neg fun h => hc h.1]; rfl
      | cons d s ih => rw [List.cons_append, trimEnd_cons, ih, if_neg (by simp)]

theorem trimEnd_prefix (s : List Char) : trimEnd s <+: s := by
  rw [trimEnd_eq_rdropWhile]
  exact List.rdropWhile_prefix _ _

/-- The blanks that are taken off the end. -/
theorem exists_trimEnd_append_blank (s : List Char) :
    ∃ b, (∀ c ∈ b, isBlank c = true) ∧ trimEnd s ++ b = s :=
  ⟨s.rtakeWhile isBlank, fun _ => List.mem_rtakeWhile_imp, by
    rw [trimEnd_eq_rdropWhile, List.rdropWhile_append_rtakeWhile]⟩

theorem trimEnd_trimEnd (s : List Char) : trimEnd (trimEnd s) = trimEnd s := by
  simp only [trimEnd_eq_rdropWhile, List.rdropWhile_idempotent]

theorem trimEnd_eq_self {s : List Char} (h : ∀ c ∈ s.getLast?, isBlank c = false) :
    trimEnd s = s := by
  rw [trimEnd_eq_rdropWhile, List.rdropWhile_eq_self_iff]
  intro hs
  simp [h _ (List.getLast?_eq_some_getLast hs)]

/-- It does not matter which end is trimmed first. -/
theorem trimStart_trimEnd (s : List Char) : trimStart (trimEnd s) = trimEnd (trimStart s) := by
  induction s with
  | nil => rfl
  | cons c s ih =>
    by_cases hc : isBlank c = true
    · have hs : trimStart (c :: s) = trimStart s := List.dropWhile_cons_of_pos hc
      rw [hs, ← ih, trimEnd_cons]
      by_cases he : trimEnd s = []
      · rw [if_pos ⟨hc, he⟩, he]
      · rw [if_neg fun h => he h.2]
        exact List.dropWhile_cons_of_pos hc
    · have hs : ∀ t, trimStart (c :: t) = c :: t := fun t => List.dropWhile_cons_of_neg hc
      rw [hs, trimEnd_cons, if_neg fun h => hc h.1, hs]

/-- What decides whether two texts together end with a blank. -/
theorem isBlank_getLast_append {a b : List Char}
    (ha : b = [] → ∀ c ∈ a.getLast?, isBlank c = false)
    (hb : ∀ c ∈ b.getLast?, isBlank c = false) : ∀ c ∈ (a ++ b).getLast?, isBlank c = false := by
  cases b with
  | nil =>
    rw [List.append_nil]
    exact ha rfl
  | cons c b =>
    rw [List.getLast?_append_of_ne_nil _ (List.cons_ne_nil c b)]
    exact hb

theorem isBlank_getLast_cons {c : Char} {s : List Char} (hc : s = [] → isBlank c = false)
    (hs : ∀ d ∈ s.getLast?, isBlank d = false) : ∀ d ∈ (c :: s).getLast?, isBlank d = false :=
  isBlank_getLast_append (a := [c]) (fun h => by simpa using hc h) hs

/-! ### Both ends -/

theorem trim_blank_append {b : List Char} (h : ∀ c ∈ b, isBlank c = true) (s : List Char) :
    trim (b ++ s) = trim s := by
  rw [trim, trimStart_blank_append h, trim]

theorem trim_append_blank {b : List Char} (h : ∀ c ∈ b, isBlank c = true) (s : List Char) :
    trim (s ++ b) = trim s := by
  rw [trim, ← trimStart_trimEnd, trimEnd_append_blank h, trimStart_trimEnd, trim]

theorem trim_trimEnd (s : List Char) : trim (trimEnd s) = trim s := by
  rw [trim, trimStart_trimEnd, trimEnd_trimEnd, trim]

theorem trim_trimStart (s : List Char) : trim (trimStart s) = trim s := by
  rw [trim, trimStart_trimStart, trim]

theorem trim_trim (s : List Char) : trim (trim s) = trim s := by
  rw [show trim s = trimEnd (trimStart s) from rfl, trim_trimEnd, trim_trimStart, trim]

/-- A text without a blank at either end is kept. -/
theorem trim_eq_self {s : List Char} (hh : ∀ c ∈ s.head?, isBlank c = false)
    (hl : ∀ c ∈ s.getLast?, isBlank c = false) : trim s = s := by
  have hs : trimStart s = s := by
    cases s with
    | nil => rfl
    | cons c s => exact List.dropWhile_cons_of_neg (by simp [hh c rfl])
  rw [trim, hs, trimEnd_eq_self hl]

/-- Only blanks are lost. -/
theorem count_trimEnd {c : Char} (hc : isBlank c = false) (s : List Char) :
    (trimEnd s).count c = s.count c := by
  induction s with
  | nil => rfl
  | cons d s ih =>
    rw [trimEnd_cons]
    by_cases h : isBlank d = true ∧ trimEnd s = []
    · have hd : d ≠ c := fun hd => by simp [← hd, h.1] at hc
      rw [if_pos h, List.count_cons_of_ne hd, ← ih, h.2]
    · rw [if_neg h, List.count_cons, List.count_cons, ih]

theorem count_trim {c : Char} (hc : isBlank c = false) (s : List Char) :
    (trim s).count c = s.count c := by
  obtain ⟨b, hb, hs⟩ := exists_blank_append_trimStart s
  have h0 : b.count c = 0 := List.count_eq_zero.2 fun hm => by simp [hb c hm] at hc
  calc (trim s).count c = (trimStart s).count c := count_trimEnd hc _
    _ = b.count c + (trimStart s).count c := by rw [h0, Nat.zero_add]
    _ = s.count c := by rw [← List.count_append, ← hs]

/-- Nothing is left of a blank text, and of no other. -/
theorem trim_eq_nil_iff {s : List Char} : trim s = [] ↔ ∀ c ∈ s, isBlank c = true := by
  constructor
  · intro h c hc
    by_contra hb
    have hcount := count_trim (Bool.eq_false_iff.2 hb) s
    rw [h, List.count_nil] at hcount
    exact List.count_eq_zero.1 hcount.symm hc
  · intro h
    have hstart : trimStart s = [] := List.dropWhile_eq_nil_iff.2 h
    rw [trim, hstart]
    rfl

end Text
end SchemaDiagram

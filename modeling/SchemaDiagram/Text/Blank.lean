/-
# Blank and word characters

A blank separates things in a schema text; a word is a run of ASCII letters,
digits and underscores. Trimming removes blanks from the ends of a text.

Key definitions: `Text.isBlank`, `Text.isWord`, `Text.trimStart`,
`Text.trimEnd`, `Text.trim`.
Key theorems: `Text.isBlank_eq_false_of_isWord`, `Text.trimEnd_append_blank`.
-/

namespace SchemaDiagram
namespace Text

/-- The ranges of code points that count as blank. -/
def blankRanges : List (Nat × Nat) :=
  [(0x09, 0x0D), (0x1C, 0x20), (0x85, 0x85), (0xA0, 0xA0), (0x1680, 0x1680), (0x2000, 0x200A),
   (0x2028, 0x2029), (0x202F, 0x202F), (0x205F, 0x205F), (0x3000, 0x3000)]

/-- A code point lies in one of the ranges. -/
def inRanges (ranges : List (Nat × Nat)) (n : Nat) : Bool :=
  ranges.any fun r => decide (r.1 ≤ n) && decide (n ≤ r.2)

/-- A character that separates tokens and is trimmed from the ends of lines. -/
def isBlank (c : Char) : Bool :=
  inRanges blankRanges c.toNat

/-- An ASCII letter, an ASCII digit or an underscore. -/
def isWord (c : Char) : Bool :=
  c.isAlphanum || c == '_'

/-- The text without its leading blanks. -/
def trimStart (s : List Char) : List Char :=
  s.dropWhile isBlank

/-- The text without its trailing blanks. -/
def trimEnd : List Char → List Char
  | [] => []
  | c :: s =>
    match trimEnd s with
    | [] => if isBlank c then [] else [c]
    | d :: r => c :: d :: r

/-- The text without blanks at either end. -/
def trim (s : List Char) : List Char :=
  trimEnd (trimStart s)

/-- A string without blanks at either end. -/
def trimString (s : String) : String :=
  String.ofList (trim s.toList)

theorem isBlank_eq_false_of_isWord {c : Char} (h : isWord c = true) : isBlank c = false := by
  have hc : (65 ≤ c.toNat ∧ c.toNat ≤ 90) ∨ (97 ≤ c.toNat ∧ c.toNat ≤ 122) ∨
      (48 ≤ c.toNat ∧ c.toNat ≤ 57) ∨ c.toNat = 95 := by
    delta isWord Char.isAlphanum Char.isAlpha Char.isUpper Char.isLower Char.isDigit at h
    simp only [Bool.or_eq_true, Bool.and_eq_true, decide_eq_true_eq, beq_iff_eq,
      UInt32.le_iff_toNat_le] at h
    simp only [Char.toNat]
    rcases h with (((⟨h1, h2⟩ | ⟨h1, h2⟩) | ⟨h1, h2⟩) | rfl)
    · exact .inl ⟨h1, h2⟩
    · exact .inr (.inl ⟨h1, h2⟩)
    · exact .inr (.inr (.inl ⟨h1, h2⟩))
    · exact .inr (.inr (.inr rfl))
  simp only [isBlank, inRanges, blankRanges, List.any_eq_false, Bool.and_eq_true,
    decide_eq_true_eq, List.mem_cons, List.not_mem_nil, or_false]
  rintro r (rfl | rfl | rfl | rfl | rfl | rfl | rfl | rfl | rfl | rfl) <;> simp only <;> omega

theorem trimEnd_eq_nil {s : List Char} (h : ∀ c ∈ s, isBlank c = true) : trimEnd s = [] := by
  induction s with
  | nil => rfl
  | cons c s ih =>
    rw [trimEnd, ih fun d hd => h d (List.mem_cons_of_mem _ hd)]
    simp [h c (List.mem_cons_self)]

/-- Blanks added at the end of a text are trimmed away again. -/
theorem trimEnd_append_blank {s b : List Char} (h : ∀ c ∈ b, isBlank c = true) :
    trimEnd (s ++ b) = trimEnd s := by
  induction s with
  | nil => rw [List.nil_append, trimEnd_eq_nil h]; rfl
  | cons c s ih => rw [List.cons_append, trimEnd, trimEnd, ih]

end Text
end SchemaDiagram

/-
# Runs of characters

The longest run of characters of a class at the beginning of a text is found by
where it stops.

Key theorems: `takeWhile_append_stop`, `dropWhile_append_stop`,
`head?_append_of_all`, `isWord_eq_false_of_isBlank`.
-/
import SchemaDiagram.Text.Blank

namespace SchemaDiagram
namespace Text

variable {p : Char → Bool} {a s : List Char}

theorem takeWhile_append_stop (ha : ∀ c ∈ a, p c = true) (hs : ∀ c ∈ s.head?, p c = false) :
    (a ++ s).takeWhile p = a := by
  rw [List.takeWhile_append_of_pos ha]
  cases s with
  | nil => simp
  | cons c s => simp [hs c rfl]

theorem dropWhile_append_stop (ha : ∀ c ∈ a, p c = true) (hs : ∀ c ∈ s.head?, p c = false) :
    (a ++ s).dropWhile p = s := by
  rw [List.dropWhile_append_of_pos ha]
  cases s with
  | nil => rfl
  | cons c s => simp [hs c rfl]

theorem isWord_eq_false_of_isBlank {c : Char} (h : isBlank c = true) : isWord c = false := by
  cases hw : isWord c with
  | false => rfl
  | true =>
    rw [isBlank_eq_false_of_isWord hw] at h
    cases h

/-- What holds of a character holds of what a text that begins with it begins with. -/
theorem forall_mem_head?_cons {P : Char → Prop} {c : Char} (h : P c) (s : List Char) :
    ∀ d ∈ (c :: s).head?, P d := by
  intro d hd
  obtain rfl := Option.some.inj hd
  exact h

/-- The first character of a text that begins with a non-empty run. -/
theorem head?_append_of_all (ha : ∀ c ∈ a, p c = true) (hne : a ≠ []) :
    ∀ c ∈ (a ++ s).head?, p c = true := by
  cases a with
  | nil => exact absurd rfl hne
  | cons d a => exact forall_mem_head?_cons (ha d List.mem_cons_self) _

end Text
end SchemaDiagram

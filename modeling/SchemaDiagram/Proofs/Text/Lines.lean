/-
# Laws of lines

Lines hold no line feed, and lines without line feeds that are joined by line
feeds are found again. Removing the carriage return before a line feed leaves
the number of lines as it is, and takes at most one carriage return off the end
of each.

Key theorems: `lines_unlines`, `lines_append_newline`, `lines_joinLineEnds`,
`map_lines_joinLineEnds`, `joinLineEnds_eq_self`, `joinLineEnds_eq_self_of_lines`,
`joinLineEnds_append`, `contains_iff_infix`, `exists_eq_beforeLast`.
-/
import Mathlib.Data.List.Forall2
import SchemaDiagram.Text.Lines

namespace SchemaDiagram
namespace Text

/-! ### Cutting and joining -/

theorem lines_newline_cons (s : List Char) : lines ('\n' :: s) = [] :: lines s := by
  rw [lines, cutAt, if_pos rfl, lines]

theorem lines_cons_of_ne {c : Char} {s l : List Char} {ls : List (List Char)} (hc : c ≠ '\n')
    (h : lines s = l :: ls) : lines (c :: s) = (c :: l) :: ls := by
  rw [lines] at h ⊢
  rw [cutAt, if_neg hc, h]

theorem lines_ne_nil (s : List Char) : lines s ≠ [] := cutAt_ne_nil _ _

theorem exists_lines_eq_cons (s : List Char) : ∃ l ls, lines s = l :: ls :=
  List.exists_cons_of_ne_nil (lines_ne_nil s)

theorem lines_of_not_mem {l : List Char} (h : '\n' ∉ l) : lines l = [l] := by
  induction l with
  | nil => rfl
  | cons c l ih =>
    rw [List.mem_cons, not_or] at h
    exact lines_cons_of_ne (Ne.symm h.1) (ih h.2)

/-- The lines of two texts with a line feed between them. -/
theorem lines_append_newline (s t : List Char) : lines (s ++ '\n' :: t) = lines s ++ lines t := by
  induction s with
  | nil => exact lines_newline_cons t
  | cons c s ih =>
    by_cases hc : c = '\n'
    · rw [hc, List.cons_append, lines_newline_cons, ih, lines_newline_cons, List.cons_append]
    · obtain ⟨l, ls, h⟩ := exists_lines_eq_cons s
      rw [h] at ih
      rw [List.cons_append, lines_cons_of_ne hc ih, lines_cons_of_ne hc h]
      rfl

/-- Characters that are no line feeds go to the end of the last line. -/
theorem exists_lines_eq_concat (s : List Char) :
    ∃ ls l, lines s = ls ++ [l] ∧ ∀ a, '\n' ∉ a → lines (s ++ a) = ls ++ [l ++ a] := by
  induction s with
  | nil => exact ⟨[], [], rfl, fun a ha => lines_of_not_mem ha⟩
  | cons c s ih =>
    obtain ⟨ls, l, hs, ha⟩ := ih
    by_cases hc : c = '\n'
    · refine ⟨[] :: ls, l, ?_, fun a hn => ?_⟩
      · rw [hc, lines_newline_cons, hs, List.cons_append]
      · rw [hc, List.cons_append, lines_newline_cons, ha a hn, List.cons_append]
    · cases ls with
      | nil =>
        exact ⟨[], c :: l, lines_cons_of_ne hc hs, fun a hn => lines_cons_of_ne hc (ha a hn)⟩
      | cons k ls =>
        exact ⟨(c :: k) :: ls, l, lines_cons_of_ne hc hs, fun a hn => lines_cons_of_ne hc (ha a hn)⟩

theorem lines_unlines {ls : List (List Char)} (hne : ls ≠ []) (h : ∀ l ∈ ls, '\n' ∉ l) :
    lines (unlines ls) = ls := by
  induction ls with
  | nil => exact absurd rfl hne
  | cons l ls ih =>
    have hl := lines_of_not_mem (h l List.mem_cons_self)
    cases ls with
    | nil => exact hl
    | cons m ls =>
      rw [unlines, lines_append_newline, hl, ih (by simp) fun k hk => h k (List.mem_cons_of_mem _ hk)]
      rfl

theorem not_mem_of_mem_lines {s : List Char} : ∀ l ∈ lines s, '\n' ∉ l := by
  induction s with
  | nil => simp [lines, cutAt]
  | cons c s ih =>
    by_cases hc : c = '\n'
    · rw [hc, lines_newline_cons]
      intro l hl
      rcases List.mem_cons.1 hl with rfl | hl
      · exact List.not_mem_nil
      · exact ih l hl
    · obtain ⟨l, ls, h⟩ := exists_lines_eq_cons s
      rw [h] at ih
      rw [lines_cons_of_ne hc h]
      intro k hk
      rcases List.mem_cons.1 hk with rfl | hk
      · rw [List.mem_cons, not_or]
        exact ⟨Ne.symm hc, ih l List.mem_cons_self⟩
      · exact ih k (List.mem_cons_of_mem _ hk)

/-- Joining adds line feeds only. -/
theorem mem_unlines_iff {c : Char} (hc : c ≠ '\n') {ls : List (List Char)} :
    c ∈ unlines ls ↔ ∃ l ∈ ls, c ∈ l := by
  induction ls with
  | nil => simp [unlines]
  | cons l ls ih =>
    cases ls with
    | nil => simp [unlines]
    | cons m ls =>
      rw [unlines, List.mem_append, List.mem_cons, ih, List.exists_mem_cons_iff]
      simp [hc]

theorem exists_mem_lines_iff {c : Char} (hc : c ≠ '\n') {s : List Char} :
    (∃ l ∈ lines s, c ∈ l) ↔ c ∈ s := by
  rw [← mem_unlines_iff hc, unlines_lines]

/-! ### Carriage returns -/

/-- One line is the other, or the other with a carriage return at its end. -/
def SameButReturn (l m : List Char) : Prop := m = l ∨ m = l ++ ['\r']

theorem SameButReturn.cons {l m : List Char} (h : SameButReturn l m) (c : Char) :
    SameButReturn (c :: l) (c :: m) := by
  rcases h with rfl | rfl
  · exact .inl rfl
  · exact .inr rfl

theorem lines_joinLineEnds (s : List Char) :
    List.Forall₂ SameButReturn (lines (joinLineEnds s)) (lines s) := by
  fun_induction joinLineEnds s with
  | case1 s ih =>
    rw [lines_newline_cons, lines_cons_of_ne (by decide) (lines_newline_cons s)]
    exact .cons (.inr rfl) ih
  | case2 c s _ ih =>
    by_cases hc : c = '\n'
    · rw [hc, lines_newline_cons, lines_newline_cons]
      exact .cons (.inl rfl) ih
    · obtain ⟨l, ls, hl⟩ := exists_lines_eq_cons (joinLineEnds s)
      obtain ⟨m, ms, hm⟩ := exists_lines_eq_cons s
      rw [hl, hm, List.forall₂_cons] at ih
      rw [lines_cons_of_ne hc hl, lines_cons_of_ne hc hm]
      exact .cons (ih.1.cons c) ih.2
  | case3 => exact .cons (.inl rfl) .nil

/-- What does not see a carriage return at the end of a line sees the same lines
before and after carriage returns are removed. -/
theorem map_lines_joinLineEnds {β : Type} {f : List Char → β} (h : ∀ l, f (l ++ ['\r']) = f l)
    (s : List Char) : (lines (joinLineEnds s)).map f = (lines s).map f := by
  have hf := lines_joinLineEnds s
  generalize lines (joinLineEnds s) = ls at hf
  generalize lines s = ms at hf
  induction hf with
  | nil => rfl
  | cons hlm _ ih =>
    rw [List.map_cons, List.map_cons, ih]
    rcases hlm with rfl | rfl
    · rfl
    · rw [h]

theorem joinLineEnds_eq_self {s : List Char} (h : '\r' ∉ s) : joinLineEnds s = s := by
  fun_induction joinLineEnds s with
  | case1 s ih => simp at h
  | case2 c s _ ih => rw [ih fun hs => h (List.mem_cons_of_mem _ hs)]
  | case3 => rfl

/-- A text is kept if none of its lines ends with a carriage return. -/
theorem joinLineEnds_eq_self_of_lines {s : List Char}
    (h : ∀ l ∈ lines s, l.getLast? ≠ some '\r') : joinLineEnds s = s := by
  have hlines : lines (joinLineEnds s) = lines s := by
    have hf := lines_joinLineEnds s
    generalize lines (joinLineEnds s) = ls at hf
    generalize lines s = ms at hf h
    induction hf with
    | nil => rfl
    | @cons l m ls ms hlm _ ih =>
      rw [List.forall_mem_cons] at h
      rw [ih h.2]
      rcases hlm with rfl | rfl
      · rfl
      · exact absurd List.getLast?_concat h.1
  rw [← unlines_lines (joinLineEnds s), hlines, unlines_lines]

/-- Line ends are joined piece by piece, unless one of them is cut in two. -/
theorem joinLineEnds_append {s t : List Char}
    (h : s.getLast? = some '\r' → t.head? ≠ some '\n') :
    joinLineEnds (s ++ t) = joinLineEnds s ++ joinLineEnds t := by
  fun_induction joinLineEnds s with
  | case1 s ih =>
    have hs : s.getLast? = some '\r' → t.head? ≠ some '\n' := fun hl =>
      h (by rw [List.getLast?_cons, List.getLast?_cons, hl]; rfl)
    rw [List.cons_append, List.cons_append, joinLineEnds, ih hs, List.cons_append]
  | case2 c s hc ih =>
    have hs : s.getLast? = some '\r' → t.head? ≠ some '\n' := fun hl =>
      h (by rw [List.getLast?_cons, hl]; rfl)
    rw [List.cons_append, joinLineEnds, ih hs, List.cons_append]
    intro u hcr hu
    cases s with
    | nil => exact h (by simp [hcr]) (by rw [← List.nil_append t, hu]; rfl)
    | cons d s =>
      obtain ⟨rfl, -⟩ := List.cons.inj hu
      exact hc s hcr rfl
  | case3 => rfl

/-- A line end after a text takes in a carriage return at its end. -/
theorem exists_joinLineEnds_append_newline (s : List Char) :
    ∃ u, SameButReturn u s ∧ SameButReturn (joinLineEnds u) (joinLineEnds s) ∧
      ∀ t, joinLineEnds (s ++ '\n' :: t) = joinLineEnds u ++ '\n' :: joinLineEnds t := by
  by_cases hs : s.getLast? = some '\r'
  · obtain ⟨u, rfl⟩ := List.getLast?_eq_some_iff.1 hs
    refine ⟨u, .inr rfl, .inr (joinLineEnds_append (by simp)), fun t => ?_⟩
    rw [List.append_assoc]
    exact joinLineEnds_append (by simp)
  · exact ⟨s, .inl rfl, .inl rfl, fun t => joinLineEnds_append fun hr => absurd hr hs⟩

/-! ### Patterns -/

theorem contains_iff_infix {p s : List Char} : contains p s = true ↔ p <:+: s := by
  induction s with
  | nil => rw [contains, List.isEmpty_iff, List.infix_nil]
  | cons c s ih =>
    rw [contains, Bool.or_eq_true, List.isPrefixOf_iff_prefix, ih, List.infix_cons_iff]

/-! ### The last of a kind -/

theorem beforeLast_concat (c : Char) (s : List Char) : beforeLast c (s ++ [c]) = s := by
  simp [beforeLast]

/-- The text goes on with the last occurrence of the character. -/
theorem exists_eq_beforeLast {c : Char} {s : List Char} (h : c ∈ s) :
    ∃ t, c ∉ t ∧ s = beforeLast c s ++ c :: t := by
  obtain ⟨a, b, hs, ha⟩ := List.eq_append_cons_of_mem (List.mem_reverse.2 h)
  have hbefore : beforeLast c s = b.reverse := by
    have hall : ∀ d ∈ a, decide (d ≠ c) = true := fun d hd =>
      decide_eq_true fun hdc => ha (hdc ▸ hd)
    rw [beforeLast, hs, List.dropWhile_append_of_pos hall, List.dropWhile_cons_of_neg (by simp)]
    rfl
  refine ⟨a.reverse, fun hc => ha (List.mem_reverse.1 hc), ?_⟩
  rw [hbefore, ← List.reverse_reverse s, hs]
  simp

end Text
end SchemaDiagram

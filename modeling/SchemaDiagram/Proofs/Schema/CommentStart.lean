/-
# Where a comment starts

A comment starts at a place of a line if two slashes stand there and no string is
open. Stripping cuts a line at the first such place and trims what stands before it,
so a line is kept exactly if it has none, and what is left has none either.

Key definitions: `Comment.StartsAt`.
Key theorems: `Comment.cut_of_first`, `Comment.cut_eq_none_iff`,
`Comment.strip_cuts_first`.
-/
import Mathlib.Data.Nat.Find
import SchemaDiagram.Proofs.Schema.Quote

namespace SchemaDiagram
namespace Comment

/-- At the place `i` of the line two slashes stand outside strings. -/
def StartsAt (line : List Char) (i : Nat) : Prop :=
  ['/', '/'] <+: line.drop i ∧ Quote.Leaves (line.take i) none

theorem startsAt_iff {line : List Char} {i : Nat} :
    StartsAt line i ↔ ['/', '/'] <+: line.drop i ∧ Quote.run false none (line.take i) = none := by
  rw [StartsAt, Quote.leaves_iff, Quote.after]

/-! ### The first place -/

/-- A line is cut where two slashes stand outside strings for the first time. -/
theorem cut_of_first {e : Bool} {q : Quote} {s : List Char} {i : Nat}
    (hs : ['/', '/'] <+: s.drop i) (hq : Quote.run e q (s.take i) = none)
    (hfirst : ∀ j < i, ['/', '/'] <+: s.drop j → Quote.run e q (s.take j) ≠ none) :
    cut e q s = some (s.take i) := by
  induction i generalizing e q s with
  | zero =>
    obtain ⟨r, rfl⟩ := hs
    exact cut_cons_of_comment hq
  | succ i ih =>
    cases s with
    | nil => cases List.prefix_nil.1 hs
    | cons c s =>
      have hhere : ¬ (Quote.step e q c = none ∧ ['/', '/'] <+: c :: s) := by
        rintro ⟨hstep, hslashes⟩
        obtain rfl := (List.cons_prefix_cons.1 hslashes).1
        rw [Quote.step_of_not_quote (by decide)] at hstep
        exact hfirst 0 (Nat.succ_pos i) hslashes hstep
      have hrest := ih hs hq fun j hj => hfirst (j + 1) (Nat.succ_lt_succ hj)
      rw [cut_cons hhere, hrest, Option.map_some, List.take_succ_cons]

/-- Where a line is cut no string is open. -/
theorem run_of_cut {e : Bool} {q : Quote} {s b : List Char} (h : cut e q s = some b) :
    Quote.run e q b = none := by
  induction s generalizing e q b with
  | nil => cases h
  | cons c s ih =>
    by_cases hc : Quote.step e q c = none ∧ ['/', '/'] <+: c :: s
    · obtain ⟨hstep, hslashes⟩ := hc
      obtain ⟨rfl, r, rfl⟩ := List.cons_prefix_cons.1 hslashes
      rw [Quote.step_of_not_quote (by decide)] at hstep
      rw [List.singleton_append, cut_cons_of_comment hstep] at h
      obtain rfl := Option.some.inj h
      exact hstep
    · rw [cut_cons hc] at h
      obtain ⟨b', hb, rfl⟩ := Option.map_eq_some_iff.1 h
      rw [Quote.run]
      exact ih hb

theorem startsAt_of_cut {line b : List Char} (h : cut false none line = some b) :
    StartsAt line b.length := by
  obtain ⟨r, rfl⟩ := cut_prefix h
  rw [startsAt_iff, List.drop_left, List.take_left]
  exact ⟨⟨r, rfl⟩, run_of_cut h⟩

variable {line : List Char}

theorem cut_of_startsAt {i : Nat} (h : StartsAt line i) (hfirst : ∀ j < i, ¬ StartsAt line j) :
    cut false none line = some (line.take i) := by
  rw [startsAt_iff] at h
  exact cut_of_first h.1 h.2 fun j hj hs hq => hfirst j hj (startsAt_iff.2 ⟨hs, hq⟩)

theorem cut_eq_none_iff : cut false none line = none ↔ ∀ i, ¬ StartsAt line i := by
  constructor
  · intro h i hi
    classical
    have hex : ∃ i, StartsAt line i := ⟨i, hi⟩
    have hcut := cut_of_startsAt (Nat.find_spec hex) fun j => Nat.find_min hex
    rw [h] at hcut
    cases hcut
  · intro h
    rw [Option.eq_none_iff_forall_ne_some]
    exact fun b hb => h _ (startsAt_of_cut hb)

/-! ### Stripping -/

theorem strip_of_startsAt {i : Nat} (h : StartsAt line i) (hfirst : ∀ j < i, ¬ StartsAt line j) :
    strip line = Text.trimEnd (line.take i) :=
  strip_of_cut_some (cut_of_startsAt h hfirst)

theorem strip_eq_self_iff : strip line = line ↔ ∀ i, ¬ StartsAt line i := by
  rw [← cut_eq_none_iff]
  constructor
  · intro h
    rw [Option.eq_none_iff_forall_ne_some]
    intro b hb
    obtain ⟨r, hr⟩ := cut_prefix hb
    have hlen : line.length ≤ b.length := by
      rw [← h, strip_of_cut_some hb]
      exact (Text.trimEnd_prefix b).length_le
    rw [hr, List.length_append, List.length_cons] at hlen
    omega
  · exact strip_of_cut_none

/-- **A line is cut at its first comment.** What is left of a line is a beginning of it,
the whole line exactly if no comment starts in it, and otherwise what stands before the
first comment without the blanks at its end. No comment starts in what is left, so
stripping again changes nothing; and a comment put after a line that has none, leaves no
string open and does not end with a slash is cut off, whatever it says. -/
theorem strip_cuts_first (line : List Char) :
    strip line <+: line ∧
      (strip line = line ↔ ∀ i, ¬ StartsAt line i) ∧
      (∀ i, StartsAt line i → (∀ j < i, ¬ StartsAt line j) →
        strip line = Text.trimEnd (line.take i)) ∧
      (∀ i, ¬ StartsAt (strip line) i) ∧
      strip (strip line) = strip line ∧
      ((∀ i, ¬ StartsAt line i) → Quote.Leaves line none → line.getLast? ≠ some '/' →
        ∀ c, strip (line ++ '/' :: '/' :: c) = Text.trimEnd line) := by
  have hbegin := strip_prefix line
  refine ⟨hbegin, strip_eq_self_iff, fun i => strip_of_startsAt,
    cut_eq_none_iff.1 (cut_strip line), strip_strip line, fun hnone hquote hslash c => ?_⟩
  exact strip_append_comment c (cut_eq_none_iff.2 hnone) (Quote.leaves_iff.1 hquote) hslash

/-- A comment after an escaped quote and two slashes in a string. -/
theorem strip_cuts_first_escaped :
    let line := "a \"\\\"//\" ".toList
    StartsAt (line ++ "// it's".toList) 9 ∧
      (∀ j < 9, ¬ StartsAt (line ++ "// it's".toList) j) ∧
      strip (line ++ "// it's".toList) = Text.trimEnd ((line ++ "// it's".toList).take 9) ∧
      (∀ i, ¬ StartsAt line i) ∧ Quote.Leaves line none ∧ line.getLast? ≠ some '/' ∧
      strip (line ++ '/' :: '/' :: " it's".toList) = Text.trimEnd line := by
  intro line
  have hnone : ∀ i, ¬ StartsAt line i := cut_eq_none_iff.1 (by decide)
  have hquote : Quote.Leaves line none := Quote.leaves_iff.2 (by decide)
  have hstart : StartsAt (line ++ "// it's".toList) 9 := startsAt_iff.2 (by decide)
  have hfirst : ∀ j < 9, ¬ StartsAt (line ++ "// it's".toList) j := by
    simp only [startsAt_iff]
    decide
  exact ⟨hstart, hfirst, (strip_cuts_first _).2.2.1 9 hstart hfirst, hnone, hquote, by decide,
    (strip_cuts_first line).2.2.2.2.2 hnone hquote (by decide) _⟩

end Comment
end SchemaDiagram

/-
# Balanced stretches of a line

A stretch is balanced if every string in it is closed, every bracket outside
strings is closed, and outside both of them there are no blanks; two slashes in a
row stand in strings only. The reader of one-line bodies keeps such a stretch in
one token, and without backslashes the reader of comments finds nothing in it: it
goes on after the stretch as it would at the start of a line.

Key definitions: `Balanced`.
Key theorems: `Balanced.scan_append`, `Balanced.cut_append`,
`Balanced.isBlank_getLast`.
-/
import SchemaDiagram.Proofs.Schema.Comment
import SchemaDiagram.Schema.Inline

namespace SchemaDiagram

/-- The stretch begins with so many brackets open and ends with none. -/
inductive Balanced : Nat → List Char → Prop
  | nil : Balanced 0 []
  | string {d : Nat} {q : Char} {s r : List Char} (hq : isQuote q = true) (hs : q ∉ s)
    (hr : Balanced d r) : Balanced d (q :: (s ++ q :: r))
  | opening {d : Nat} {c : Char} {r : List Char} (hc : c = '(' ∨ c = '[')
    (hr : Balanced (d + 1) r) : Balanced d (c :: r)
  | closing {d : Nat} {c : Char} {r : List Char} (hc : c = ')' ∨ c = ']')
    (hr : Balanced d r) : Balanced (d + 1) (c :: r)
  | other {d : Nat} {c : Char} {r : List Char} (hq : isQuote c = false)
    (hc : c ∉ ['(', '[', ')', ']']) (hb : d = 0 → Text.isBlank c = false)
    (hs : ¬ ['/', '/'] <+: c :: r) (hr : Balanced d r) : Balanced d (c :: r)

namespace Inline

theorem scan_cons_of_not_splits {n : Nesting} {c : Char} (h : n.splits c = false) (s : List Char) :
    scan n (c :: s) = (c :: (scan (n.step c) s).1, (scan (n.step c) s).2) := by
  rw [scan, if_neg (by rw [h]; decide)]

/-- A string is read to its closing quote. -/
theorem scan_string {q : Char} {s : List Char} (h : q ∉ s) (d : Nat) (r : List Char) :
    scan ⟨d, some q⟩ (s ++ q :: r) =
      (s ++ q :: (scan ⟨d, none⟩ r).1, (scan ⟨d, none⟩ r).2) := by
  induction s with
  | nil =>
    have hclose : Nesting.step ⟨d, some q⟩ q = ⟨d, none⟩ := if_pos rfl
    rw [List.nil_append, scan_cons_of_not_splits rfl, hclose]
    rfl
  | cons c s ih =>
    rw [List.mem_cons, not_or] at h
    have hstay : Nesting.step ⟨d, some q⟩ c = ⟨d, some q⟩ := if_neg (Ne.symm h.1)
    rw [List.cons_append, scan_cons_of_not_splits rfl, hstay, ih h.2]
    rfl

end Inline

namespace Comment

/-- A string without backslashes is closed by its quote, and there is no comment in
it. -/
theorem cut_string {q : Char} {s : List Char} (hq : isQuote q = true) (hs : q ∉ s)
    (he : '\\' ∉ s) (r : List Char) :
    cut false (some q) (s ++ q :: r) = (cut false none r).map fun b => s ++ q :: b := by
  have hback : (q == '\\') = false := by
    rw [beq_eq_false_iff_ne]
    rintro rfl
    exact absurd hq (by decide)
  induction s with
  | nil =>
    have hclose : Quote.step false (some q) q = none := by simp [Quote.step, hq]
    have hslash : ¬ (Quote.step false (some q) q = none ∧ ['/', '/'] <+: q :: r) := by
      rintro ⟨-, hp⟩
      rw [← (List.cons_prefix_cons.1 hp).1] at hq
      exact absurd hq (by decide)
    rw [List.nil_append, cut_cons hslash, hclose, hback]
    rfl
  | cons c s ih =>
    rw [List.mem_cons, not_or] at hs he
    have hstay : Quote.step false (some q) c = some q := by
      simp [Quote.step, hs.1]
    rw [List.cons_append, cut_cons (by simp [hstay]), hstay, beq_eq_false_iff_ne.2 (Ne.symm he.1),
      ih hs.2 he.2, Option.map_map]
    rfl

end Comment

theorem isBlank_eq_false_of_isQuote {c : Char} (h : isQuote c = true) : Text.isBlank c = false := by
  cases hb : Text.isBlank c with
  | false => rfl
  | true =>
    rw [(isPlain_iff.1 (isPlain_of_isBlank hb)).1] at h
    cases h

namespace Balanced

variable {d : Nat} {a : List Char}

/-- What is read after a balanced stretch is read as after nothing, and the stretch
belongs to the first token. -/
theorem scan_append (h : Balanced d a) (s : List Char) :
    Inline.scan ⟨d, none⟩ (a ++ s) =
      (a ++ (Inline.scan .outside s).1, (Inline.scan .outside s).2) := by
  induction h with
  | nil => rfl
  | @string d q t r hq ht hr ih =>
    have hsplits : Nesting.splits ⟨d, none⟩ q = false := by
      simp [Nesting.splits, isBlank_eq_false_of_isQuote hq]
    have hstep : Nesting.step ⟨d, none⟩ q = ⟨d, some q⟩ := by simp [Nesting.step, hq]
    rw [List.cons_append, List.append_assoc, List.cons_append,
      Inline.scan_cons_of_not_splits hsplits, hstep, Inline.scan_string ht, ih]
    simp
  | @opening d c r hc hr ih =>
    have hb : Text.isBlank c = false := by
      rcases hc with rfl | rfl <;> decide
    have hsplits : Nesting.splits ⟨d, none⟩ c = false := by simp [Nesting.splits, hb]
    have hstep : Nesting.step ⟨d, none⟩ c = ⟨d + 1, none⟩ := by
      rcases hc with rfl | rfl <;> rfl
    rw [List.cons_append, Inline.scan_cons_of_not_splits hsplits, hstep, ih]
    rfl
  | @closing d c r hc hr ih =>
    have hsplits : Nesting.splits ⟨d + 1, none⟩ c = false := by simp [Nesting.splits]
    have hstep : Nesting.step ⟨d + 1, none⟩ c = ⟨d, none⟩ := by
      rcases hc with rfl | rfl <;> rfl
    rw [List.cons_append, Inline.scan_cons_of_not_splits hsplits, hstep, ih]
    rfl
  | @other d c r hq hc hb hs hr ih =>
    have hsplits : Nesting.splits ⟨d, none⟩ c = false := by
      simpa [Nesting.splits] using hb
    have hstep : Nesting.step ⟨d, none⟩ c = ⟨d, none⟩ := by
      simp only [List.mem_cons, List.not_mem_nil, or_false, not_or] at hc
      simp [Nesting.step, hq, hc]
    rw [List.cons_append, Inline.scan_cons_of_not_splits hsplits, hstep, ih]
    rfl

theorem slash_prefix_of_append {r s : List Char} (hs : ∀ c ∈ s.head?, c ≠ '/')
    (h : ['/'] <+: r ++ s) : ['/'] <+: r := by
  cases r with
  | nil =>
    obtain ⟨t, rfl⟩ := h
    exact absurd rfl (hs '/' rfl)
  | cons c r => exact List.cons_prefix_cons.2 ⟨(List.cons_prefix_cons.1 h).1, List.nil_prefix⟩

theorem cut_plain_cons {c : Char} (h : isPlain c = true) (r s : List Char) :
    Comment.cut false none (c :: r ++ s) = (Comment.cut false none (r ++ s)).map (c :: ·) :=
  Comment.cut_plain_append (List.forall_mem_singleton.2 h) (r ++ s)

/-- A balanced stretch without backslashes in front moves the comment and does no
more. -/
theorem cut_append (h : Balanced d a) (he : '\\' ∉ a) {s : List Char}
    (hs : ∀ c ∈ s.head?, c ≠ '/') :
    Comment.cut false none (a ++ s) = (Comment.cut false none s).map (a ++ ·) := by
  induction h with
  | nil => simp
  | @string d q t r hq ht hr ih =>
    have hopen : Quote.step false none q = some q := by simp [Quote.step, hq]
    simp only [List.mem_cons, List.mem_append, not_or] at he
    obtain ⟨hqe, hte, -, hre⟩ := he
    rw [List.cons_append, List.append_assoc, List.cons_append, Comment.cut_cons (by simp [hopen]),
      hopen, beq_eq_false_iff_ne.2 (Ne.symm hqe), Comment.cut_string hq ht hte, ih hre,
      Option.map_map, Option.map_map]
    simp [Function.comp_def]
  | @opening d c r hc hr ih =>
    have hplain : isPlain c = true := by
      rcases hc with rfl | rfl <;> decide
    rw [cut_plain_cons hplain, ih fun h => he (List.mem_cons_of_mem _ h), Option.map_map]
    rfl
  | @closing d c r hc hr ih =>
    have hplain : isPlain c = true := by
      rcases hc with rfl | rfl <;> decide
    rw [cut_plain_cons hplain, ih fun h => he (List.mem_cons_of_mem _ h), Option.map_map]
    rfl
  | @other d c r hq hc hb hslash hr ih =>
    rw [List.mem_cons, not_or] at he
    -- if this is a slash at the end of the stretch, `s` must not go on with another
    have hcut : ¬ (Quote.step false none c = none ∧ ['/', '/'] <+: c :: (r ++ s)) := by
      rintro ⟨-, hp⟩
      have hslashes := List.cons_prefix_cons.1 hp
      exact hslash (List.cons_prefix_cons.2 ⟨hslashes.1, slash_prefix_of_append hs hslashes.2⟩)
    rw [List.cons_append, Comment.cut_cons hcut, Quote.step_of_not_quote hq,
      beq_eq_false_iff_ne.2 (Ne.symm he.1), ih he.2, Option.map_map]
    rfl

/-- A balanced stretch does not end with a blank. -/
theorem isBlank_getLast (h : Balanced d a) : ∀ c ∈ a.getLast?, Text.isBlank c = false := by
  induction h with
  | nil => simp
  | @string d q t r hq ht hr ih =>
    have hquote := isBlank_eq_false_of_isQuote hq
    exact Text.isBlank_getLast_cons (fun _ => hquote)
      (Text.isBlank_getLast_append nofun (Text.isBlank_getLast_cons (fun _ => hquote) ih))
  | @opening d c r hc hr ih =>
    refine Text.isBlank_getLast_cons (fun _ => ?_) ih
    rcases hc with rfl | rfl <;> decide
  | @closing d c r hc hr ih =>
    refine Text.isBlank_getLast_cons (fun _ => ?_) ih
    rcases hc with rfl | rfl <;> decide
  | @other d c r hq hc hb hslash hr ih =>
    refine Text.isBlank_getLast_cons (fun hnil => hb ?_) ih
    rw [hnil] at hr
    cases hr
    rfl

/-- A word is balanced. -/
theorem of_isWord (h : ∀ c ∈ a, Text.isWord c = true) : Balanced 0 a := by
  induction a with
  | nil => exact .nil
  | cons c a ih =>
    have hc := h c List.mem_cons_self
    have hplain := isPlain_iff.1 (isPlain_of_isWord hc)
    refine .other hplain.1 (fun hb => ?_) (fun _ => Text.isBlank_eq_false_of_isWord hc)
      (fun hp => hplain.2.1 (List.cons_prefix_cons.1 hp).1.symm)
      (ih fun d hd => h d (List.mem_cons_of_mem _ hd))
    simp only [List.mem_cons, List.not_mem_nil, or_false] at hb
    rcases hb with rfl | rfl | rfl | rfl <;> exact absurd hc (by decide)

end Balanced
end SchemaDiagram

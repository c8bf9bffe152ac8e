/-
# Laws of comments

Stripping finds a comment exactly where two slashes follow a text that has none
and leaves no string open, whatever comes after them. What is left of a line has
no comment of its own, so stripping once more changes nothing, and blanks around
a line neither make nor hide a comment.

Key definitions: `isPlain`.
Key theorems: `cut_append_of_some`, `cut_append_comment`, `cut_plain_append`,
`cut_append_of_not_mem`, `strip_strip`.
-/
import SchemaDiagram.Proofs.Text.Trim
import SchemaDiagram.Schema.Comment

namespace SchemaDiagram

/-! ### Quotes -/

theorem Quote.step_of_not_quote {c : Char} (h : isQuote c = false) (e : Bool) (q : Quote) :
    Quote.step e q c = q := by
  simp [Quote.step, h]

/-- Without quotes nothing is opened or closed. -/
theorem Quote.run_of_not_quote {s : List Char} (h : ∀ c ∈ s, isQuote c = false) (e : Bool)
    (q : Quote) : Quote.run e q s = q := by
  induction s generalizing e with
  | nil => rfl
  | cons c s ih =>
    rw [Quote.run, Quote.step_of_not_quote (h c List.mem_cons_self)]
    exact ih (fun d hd => h d (List.mem_cons_of_mem _ hd)) _

/-- A character that takes no part in strings, escapes or comments. -/
def isPlain (c : Char) : Bool :=
  !isQuote c && c != '/' && c != '\\'

theorem isPlain_iff {c : Char} : isPlain c = true ↔ isQuote c = false ∧ c ≠ '/' ∧ c ≠ '\\' := by
  simp [isPlain, and_assoc]

theorem isPlain_of_ne {c : Char} (h : ∀ d ∈ ['\'', '"', '/', '\\'], c ≠ d) : isPlain c = true := by
  simp only [List.mem_cons, List.not_mem_nil, or_false, forall_eq_or_imp, forall_eq] at h
  simp [isPlain, isQuote, h.1, h.2.1, h.2.2.1, h.2.2.2]

theorem isPlain_of_isBlank {c : Char} (h : Text.isBlank c = true) : isPlain c = true := by
  refine isPlain_of_ne fun d hd hcd => ?_
  rw [hcd] at h
  simp only [List.mem_cons, List.not_mem_nil, or_false] at hd
  rcases hd with rfl | rfl | rfl | rfl <;> exact absurd h (by decide)

theorem isPlain_of_isWord {c : Char} (h : Text.isWord c = true) : isPlain c = true := by
  refine isPlain_of_ne fun d hd hcd => ?_
  rw [hcd] at h
  simp only [List.mem_cons, List.not_mem_nil, or_false] at hd
  rcases hd with rfl | rfl | rfl | rfl <;> exact absurd h (by decide)

namespace Comment

/-! ### Where a line is cut -/

theorem cut_nil (e : Bool) (q : Quote) : cut e q [] = none := rfl

theorem cut_singleton (e : Bool) (q : Quote) (c : Char) : cut e q [c] = none := rfl

theorem cut_cons_of_not_comment {e : Bool} {q : Quote} {c d : Char} {s : List Char}
    (h : ¬ (Quote.step e q c = none ∧ c = '/' ∧ d = '/')) :
    cut e q (c :: d :: s) = (cut (c == '\\') (Quote.step e q c) (d :: s)).map (c :: ·) := by
  rw [cut, if_neg]
  simpa [and_assoc] using h

theorem cut_cons_of_comment {e : Bool} {q : Quote} {s : List Char} (h : q = none) :
    cut e q ('/' :: '/' :: s) = some [] := by
  rw [h, cut, Quote.step_of_not_quote (by decide)]
  rfl

/-- A line that does not begin with a comment is cut, if at all, after its first
character. -/
theorem cut_cons {e : Bool} {q : Quote} {c : Char} {s : List Char}
    (h : ¬ (Quote.step e q c = none ∧ ['/', '/'] <+: c :: s)) :
    cut e q (c :: s) = (cut (c == '\\') (Quote.step e q c) s).map (c :: ·) := by
  cases s with
  | nil => rfl
  | cons d s =>
    refine cut_cons_of_not_comment ?_
    rintro ⟨hq, rfl, rfl⟩
    exact h ⟨hq, s, rfl⟩

/-- A line that is not cut at its first character is cut, if at all, in the rest. -/
theorem cut_cons_eq_none {e : Bool} {q : Quote} {c d : Char} {s : List Char}
    (h : cut e q (c :: d :: s) = none) :
    ¬ (Quote.step e q c = none ∧ c = '/' ∧ d = '/') ∧
      cut (c == '\\') (Quote.step e q c) (d :: s) = none := by
  have hn : ¬ (Quote.step e q c = none ∧ c = '/' ∧ d = '/') := by
    rintro ⟨hq, rfl, rfl⟩
    rw [cut, hq] at h
    simp at h
  rw [cut_cons_of_not_comment hn, Option.map_eq_none_iff] at h
  exact ⟨hn, h⟩

/-- Without two slashes in a row there is no comment. -/
theorem cut_eq_none_of_no_slashes {s : List Char} (h : ¬ ['/', '/'] <:+: s) (e : Bool) (q : Quote) :
    cut e q s = none := by
  rw [Option.eq_none_iff_forall_ne_some]
  intro b hb
  obtain ⟨r, rfl⟩ := cut_prefix hb
  exact h ⟨b, r, by simp⟩

theorem cut_eq_none_of_not_mem {s : List Char} (h : '/' ∉ s) (e : Bool) (q : Quote) :
    cut e q s = none :=
  cut_eq_none_of_no_slashes (fun hs => h (hs.subset List.mem_cons_self)) e q

/-- A comment stays where it is when the line goes on. -/
theorem cut_append_of_some {e : Bool} {q : Quote} {s b : List Char} (h : cut e q s = some b)
    (t : List Char) : cut e q (s ++ t) = some b := by
  induction s generalizing e q b with
  | nil => cases h
  | cons c s ih =>
    cases s with
    | nil => cases h
    | cons d s =>
      by_cases hc : Quote.step e q c = none ∧ c = '/' ∧ d = '/'
      · obtain ⟨hq, rfl, rfl⟩ := hc
        rw [Quote.step_of_not_quote (by decide)] at hq
        rw [cut_cons_of_comment hq] at h
        rw [List.cons_append, List.cons_append, cut_cons_of_comment hq, h]
      · rw [cut_cons_of_not_comment hc] at h
        obtain ⟨b', hb, rfl⟩ := Option.map_eq_some_iff.1 h
        rw [List.cons_append, List.cons_append, cut_cons_of_not_comment hc]
        exact congrArg _ (ih hb)

theorem cut_eq_none_of_prefix {e : Bool} {q : Quote} {s p : List Char} (h : cut e q s = none)
    (hp : p <+: s) : cut e q p = none := by
  obtain ⟨t, rfl⟩ := hp
  rw [Option.eq_none_iff_forall_ne_some]
  intro b hb
  rw [cut_append_of_some hb t] at h
  cases h

/-- Nothing that ends before the comment has one. -/
theorem cut_eq_none_of_cut {e : Bool} {q : Quote} {s b p : List Char} (h : cut e q s = some b)
    (hp : p <+: b) : cut e q p = none := by
  rw [Option.eq_none_iff_forall_ne_some]
  intro b' hb'
  obtain ⟨r, rfl⟩ := cut_prefix h
  have hb : b' = b := by
    obtain ⟨t, rfl⟩ := hp
    rw [List.append_assoc, cut_append_of_some hb'] at h
    exact Option.some.inj h
  obtain ⟨r', hr'⟩ := cut_prefix hb'
  have hlen := hp.length_le
  rw [hr', hb, List.length_append, List.length_cons, List.length_cons] at hlen
  omega

/-- Two slashes after a text that has no comment, leaves no string open and does
not end with a slash start one, whatever follows. -/
theorem cut_append_comment {e : Bool} {q : Quote} {a : List Char} (r : List Char)
    (h : cut e q a = none) (hq : Quote.run e q a = none) (hl : a.getLast? ≠ some '/') :
    cut e q (a ++ '/' :: '/' :: r) = some a := by
  induction a generalizing e q with
  | nil => exact cut_cons_of_comment hq
  | cons c a ih =>
    cases a with
    | nil =>
      have hc : ¬ (Quote.step e q c = none ∧ c = '/' ∧ '/' = '/') :=
        fun hc => hl (by rw [hc.2.1]; rfl)
      rw [List.cons_append, List.nil_append, cut_cons_of_not_comment hc]
      exact congrArg _ (ih (cut_nil _ _) hq (by simp))
    | cons d a =>
      obtain ⟨hc, ha⟩ := cut_cons_eq_none h
      rw [List.cons_append, List.cons_append, cut_cons_of_not_comment hc]
      exact congrArg _ (ih ha hq (by simpa using hl))

/-- A text of plain characters in front moves the comment and does no more. -/
theorem cut_plain_append {a : List Char} (h : ∀ c ∈ a, isPlain c = true) (s : List Char) :
    cut false none (a ++ s) = (cut false none s).map (a ++ ·) := by
  induction a with
  | nil => simp
  | cons c a ih =>
    obtain ⟨hq, hs, he⟩ := isPlain_iff.1 (h c List.mem_cons_self)
    have hcut : ¬ (Quote.step false none c = none ∧ ['/', '/'] <+: c :: (a ++ s)) :=
      fun hc => hs (List.cons_prefix_cons.1 hc.2).1.symm
    rw [List.cons_append, cut_cons hcut, Quote.step_of_not_quote hq, beq_eq_false_iff_ne.2 he,
      ih fun d hd => h d (List.mem_cons_of_mem _ hd), Option.map_map]
    rfl

/-- A text without slashes at the end neither makes nor hides a comment. -/
theorem cut_append_of_not_mem {b : List Char} (h : '/' ∉ b) (e : Bool) (q : Quote)
    (s : List Char) : cut e q (s ++ b) = cut e q s := by
  induction s generalizing e q with
  | nil => rw [List.nil_append, cut_eq_none_of_not_mem h, cut_nil]
  | cons c s ih =>
    cases s with
    | nil =>
      cases b with
      | nil => rfl
      | cons d b =>
        have hd : d ≠ '/' := fun hd => h (by simp [hd])
        rw [List.cons_append, List.nil_append, cut_cons_of_not_comment fun hc => hd hc.2.2,
          cut_eq_none_of_not_mem h, cut_singleton, Option.map_none]
    | cons d s =>
      by_cases hc : Quote.step e q c = none ∧ c = '/' ∧ d = '/'
      · obtain ⟨hq, rfl, rfl⟩ := hc
        rw [Quote.step_of_not_quote (by decide)] at hq
        rw [List.cons_append, List.cons_append, cut_cons_of_comment hq, cut_cons_of_comment hq]
      · rw [List.cons_append, List.cons_append, cut_cons_of_not_comment hc,
          cut_cons_of_not_comment hc]
        exact congrArg _ (ih _ _)

/-! ### What is left of a line -/

theorem strip_of_cut_some {l b : List Char} (h : cut false none l = some b) :
    strip l = Text.trimEnd b := by
  rw [strip, h]

theorem strip_prefix (l : List Char) : strip l <+: l := by
  cases h : cut false none l with
  | none => simp only [strip_of_cut_none h, List.prefix_rfl]
  | some b =>
    obtain ⟨r, hr⟩ := cut_prefix h
    rw [strip_of_cut_some h, hr]
    exact (Text.trimEnd_prefix b).trans (List.prefix_append _ _)

theorem cut_strip (l : List Char) : cut false none (strip l) = none := by
  cases h : cut false none l with
  | none => rwa [strip_of_cut_none h]
  | some b =>
    rw [strip_of_cut_some h]
    exact cut_eq_none_of_cut h (Text.trimEnd_prefix b)

/-- A stripped line has no comment left. -/
theorem strip_strip (l : List Char) : strip (strip l) = strip l :=
  strip_of_cut_none (cut_strip l)

/-- A comment is cut off, whatever it says. -/
theorem strip_append_comment {a : List Char} (r : List Char) (h : cut false none a = none)
    (hq : Quote.after a = none) (hl : a.getLast? ≠ some '/') :
    strip (a ++ '/' :: '/' :: r) = Text.trimEnd a :=
  strip_of_cut_some (cut_append_comment r h hq hl)

end Comment
end SchemaDiagram

/-
# Nothing is lost on one line, and lines stay as they are

The reader of one-line bodies cuts a text into tokens, none of which can be cut again.
Only the last of them can be left open, by a string without end or a bracket that is
never closed, and it then takes the rest of the text. So tokens written side by side
with spaces between them are cut at these spaces, and into the same tokens
(`Inline.tokens_spaced`). The declarations into which tokens are gathered hold all of
them in their order (`Inline.flatten_grouped`), and each is gathered into itself
(`Inline.IsDeclaration.grouped_eq`). Hence the text keeps all its characters but for
blanks, and the lines that it is split into are split no further, one by one or
together.

Key definitions: `Inline.Unsplit`, `Inline.Cut`, `Inline.IsDeclaration`.
Key theorems: `Inline.cut_tokens`, `Inline.tokens_spaced`, `Inline.flatten_grouped`,
`Inline.isDeclaration_of_mem_grouped`, `Inline.declarations_normal_form`.
-/
import SchemaDiagram.Proofs.Schema.Compact
import SchemaDiagram.Proofs.Schema.Strings

namespace SchemaDiagram
namespace Inline

/-! ### How a text is cut -/

/-- No character of the stretch is a blank outside strings and brackets. -/
def Unsplit (n : Nesting) : List Char → Prop
  | [] => True
  | c :: s => ¬ (n = .outside ∧ Text.isBlank c = true) ∧ Unsplit (n.step c) s

/-- Tokens as the reader cuts them: none is empty or can be cut again, and each that
another follows has its strings and brackets closed. -/
inductive Cut : List (List Char) → Prop
  | nil : Cut []
  | cons {t : List Char} {ts : List (List Char)} (ne_nil : t ≠ []) (unsplit : Unsplit .outside t)
    (closed : ts ≠ [] → Nesting.after t = .outside) (rest : Cut ts) : Cut (t :: ts)

theorem splits_iff {n : Nesting} {c : Char} :
    n.splits c = true ↔ n = .outside ∧ Text.isBlank c = true := by
  obtain ⟨depth, quote⟩ := n
  simp only [Nesting.splits, Nesting.outside, Bool.and_eq_true, Option.isNone_iff_eq_none,
    beq_iff_eq, Nesting.mk.injEq, and_comm]

theorem splits_eq_false_iff {n : Nesting} {c : Char} :
    n.splits c = false ↔ ¬ (n = .outside ∧ Text.isBlank c = true) := by
  rw [← Bool.not_eq_true, splits_iff]

/-- After a blank that ends a token the reader starts anew. -/
theorem scan_cons_of_splits {n : Nesting} {c : Char} (h : n.splits c = true) (s : List Char) :
    scan n (c :: s) = ([], tokens s) := by
  rw [scan, if_pos h, (splits_iff.1 h).1, tokens]
  rcases scan .outside s with ⟨_ | ⟨d, t⟩, ts⟩ <;> rfl

theorem scan_of_unsplit {n : Nesting} {t : List Char} (h : Unsplit n t) : scan n t = (t, []) := by
  induction t generalizing n with
  | nil => rfl
  | cons c t ih => rw [scan_cons_of_not_splits (splits_eq_false_iff.2 h.1), ih h.2]

/-- A stretch that cannot be cut is its only token. -/
theorem tokens_of_unsplit {t : List Char} (hne : t ≠ []) (h : Unsplit .outside t) :
    tokens t = [t] := by
  obtain ⟨c, u, rfl⟩ := List.exists_cons_of_ne_nil hne
  rw [tokens, scan_of_unsplit h]

/-- What is read of a text from a state: the rest of a token, and the tokens after it. -/
structure Reading (n : Nesting) (r : List Char × List (List Char)) : Prop where
  unsplit : Unsplit n r.1
  closed : r.2 ≠ [] → n.run r.1 = .outside
  rest : Cut r.2

theorem Reading.cut {s : List Char} (h : Reading .outside (scan .outside s)) : Cut (tokens s) := by
  rw [tokens]
  generalize scan .outside s = r at h ⊢
  obtain ⟨_ | ⟨c, t⟩, ts⟩ := r
  · exact h.rest
  · exact .cons (List.cons_ne_nil c t) h.unsplit h.closed h.rest

theorem reading_scan (n : Nesting) (s : List Char) : Reading n (scan n s) := by
  induction s generalizing n with
  | nil => exact ⟨trivial, fun h => absurd rfl h, .nil⟩
  | cons c s ih =>
    cases hsplits : n.splits c with
    | true =>
      rw [scan_cons_of_splits hsplits]
      exact ⟨trivial, fun _ => (splits_iff.1 hsplits).1, (ih .outside).cut⟩
    | false =>
      rw [scan_cons_of_not_splits hsplits]
      obtain ⟨hunsplit, hclosed, hrest⟩ := ih (n.step c)
      exact ⟨⟨splits_eq_false_iff.1 hsplits, hunsplit⟩, hclosed, hrest⟩

theorem cut_tokens (s : List Char) : Cut (tokens s) :=
  (reading_scan .outside s).cut

/-- Tokens with spaces between them are cut at these spaces and nowhere else. -/
theorem tokens_spaced {ts : List (List Char)} (h : Cut ts) : tokens (spaced ts) = ts := by
  induction h with
  | nil => rfl
  | @cons t ts hne hunsplit hclosed hrest ih =>
    cases ts with
    | nil => exact tokens_of_unsplit hne hunsplit
    | cons u ts =>
      have hspace : Text.isBlank ' ' = true := by decide
      rw [spaced, tokens_append_blank (hclosed (List.cons_ne_nil u ts)) hspace,
        tokens_of_unsplit hne hunsplit, ih]
      rfl

/-! #### Parts of what is cut -/

theorem Cut.of_append_right {as bs : List (List Char)} (h : Cut (as ++ bs)) : Cut bs := by
  induction as with
  | nil => exact h
  | cons a as ih =>
    cases h with
    | cons _ _ _ hrest => exact ih hrest

theorem Cut.of_append_left {as bs : List (List Char)} (h : Cut (as ++ bs)) : Cut as := by
  induction as with
  | nil => exact .nil
  | cons a as ih =>
    cases h with
    | cons hne hunsplit hclosed hrest =>
      refine .cons hne hunsplit (fun has => hclosed ?_) (ih hrest)
      exact List.append_ne_nil_of_left_ne_nil has bs

theorem Cut.sub {as bs : List (List Char)} (h : Cut bs) (hin : as <:+: bs) : Cut as := by
  obtain ⟨before, after, rfl⟩ := hin
  exact h.of_append_left.of_append_right

/-! ### What is kept -/

/-- The characters of a text that are no blanks. -/
def inked (s : List Char) : List Char :=
  s.filter fun c => !Text.isBlank c

theorem inked_append (s t : List Char) : inked (s ++ t) = inked s ++ inked t :=
  List.filter_append ..

theorem inked_cons_of_blank {c : Char} (h : Text.isBlank c = true) (s : List Char) :
    inked (c :: s) = inked s :=
  List.filter_cons_of_neg (by simp [h])

theorem flatten_tokens (s : List Char) :
    (tokens s).flatten = (scan .outside s).1 ++ (scan .outside s).2.flatten := by
  rw [tokens]
  rcases scan .outside s with ⟨_ | ⟨c, t⟩, ts⟩ <;> rfl

theorem inked_scan (n : Nesting) (s : List Char) :
    inked ((scan n s).1 ++ (scan n s).2.flatten) = inked s := by
  induction s generalizing n with
  | nil => rfl
  | cons c s ih =>
    cases hsplits : n.splits c with
    | true =>
      rw [scan_cons_of_splits hsplits, List.nil_append, flatten_tokens, ih,
        inked_cons_of_blank (splits_iff.1 hsplits).2]
    | false =>
      have hhead (t : List Char) : inked (c :: t) = inked [c] ++ inked t := inked_append [c] t
      rw [scan_cons_of_not_splits hsplits, List.cons_append, hhead, ih, ← hhead]

theorem inked_tokens (s : List Char) : inked (tokens s).flatten = inked s := by
  rw [flatten_tokens, inked_scan]

theorem inked_spaced (ts : List (List Char)) : inked (spaced ts) = inked ts.flatten := by
  induction ts with
  | nil => rfl
  | cons t ts ih =>
    cases ts with
    | nil => rw [spaced, List.flatten_singleton]
    | cons u ts =>
      rw [spaced, inked_append, inked_cons_of_blank (by decide), ih, List.flatten_cons (l := t),
        inked_append]

/-! ### How tokens are gathered -/

/-- Tokens that can be the beginning of a declaration with a name: from the third on they
are attributes. -/
structure Fills (g : List (List Char)) : Prop where
  single : ∀ t ∈ g, ¬ ['@', '@'] <+: t
  attributes : ∀ t ∈ g.drop 2, ['@'] <+: t

/-- Tokens that make up a declaration: an option on its own, or a name and a type with
attributes. Where a text lacks a name or a type, an attribute stands in its place. -/
def IsDeclaration (g : List (List Char)) : Prop :=
  (∃ t, g = [t] ∧ ['@', '@'] <+: t) ∨ g ≠ [] ∧ Fills g

variable {g ts : List (List Char)} {t : List Char}

/-- A token is an option, is taken into the declaration before it, or begins one. -/
theorem grouped_cons_cases (g ts : List (List Char)) (t : List Char) :
    ['@', '@'] <+: t ∧ grouped g (t :: ts) = flush g ++ [t] :: grouped [] ts ∨
      (¬ ['@', '@'] <+: t ∧ (['@'] <+: t ∨ g.length < 2)) ∧
        grouped g (t :: ts) = grouped (g ++ [t]) ts ∨
      (¬ ['@'] <+: t ∧ 2 ≤ g.length) ∧ grouped g (t :: ts) = flush g ++ grouped [t] ts := by
  by_cases hoption : ['@', '@'] <+: t
  · exact .inl ⟨hoption, grouped_cons_option hoption⟩
  · by_cases htaken : ['@'] <+: t ∨ g.length < 2
    · exact .inr (.inl ⟨⟨hoption, htaken⟩, grouped_cons_taken hoption htaken⟩)
    · obtain ⟨hname, hlength⟩ := not_or.1 htaken
      have hfull : 2 ≤ g.length := Nat.not_lt.1 hlength
      exact .inr (.inr ⟨⟨hname, hfull⟩, grouped_cons_name hname (.inr hfull)⟩)

theorem flatten_flush (g : List (List Char)) : (flush g).flatten = g := by
  cases g with
  | nil => rfl
  | cons t g => exact List.flatten_singleton

/-- Declarations hold all tokens in their order. -/
theorem flatten_grouped (g ts : List (List Char)) : (grouped g ts).flatten = g ++ ts := by
  induction ts generalizing g with
  | nil => rw [grouped, flatten_flush, List.append_nil]
  | cons t ts ih =>
    obtain ⟨-, heq⟩ | ⟨-, heq⟩ | ⟨-, heq⟩ := grouped_cons_cases g ts t
    · rw [heq, List.flatten_append, flatten_flush, List.flatten_cons, ih]
      rfl
    · rw [heq, ih, List.append_assoc, List.singleton_append]
    · rw [heq, List.flatten_append, flatten_flush, ih]
      rfl

theorem Fills.nil : Fills [] :=
  ⟨nofun, nofun⟩

theorem Fills.concat (h : Fills g) (hsingle : ¬ ['@', '@'] <+: t)
    (htaken : ['@'] <+: t ∨ g.length < 2) : Fills (g ++ [t]) where
  single u hu := by
    rcases List.mem_append.1 hu with hu | hu
    · exact h.single u hu
    · exact List.mem_singleton.1 hu ▸ hsingle
  attributes u hu := by
    rw [List.drop_append, List.mem_append] at hu
    rcases hu with hu | hu
    · exact h.attributes u hu
    · obtain rfl := List.mem_singleton.1 (List.mem_of_mem_drop hu)
      refine htaken.resolve_right fun hshort => ?_
      rw [List.drop_of_length_le (by simp; omega)] at hu
      exact absurd hu List.not_mem_nil

theorem isDeclaration_of_mem_flush (h : Fills g) : ∀ d ∈ flush g, IsDeclaration d := by
  intro d hd
  cases g with
  | nil => exact absurd hd List.not_mem_nil
  | cons t g =>
    obtain rfl := List.mem_singleton.1 hd
    exact .inr ⟨List.cons_ne_nil t g, h⟩

/-- Tokens are gathered into declarations. -/
theorem isDeclaration_of_mem_grouped (h : Fills g) : ∀ d ∈ grouped g ts, IsDeclaration d := by
  induction ts generalizing g with
  | nil => exact isDeclaration_of_mem_flush h
  | cons t ts ih =>
    intro d hd
    obtain ⟨hoption, heq⟩ | ⟨⟨hsingle, htaken⟩, heq⟩ | ⟨⟨hname, -⟩, heq⟩ :=
      grouped_cons_cases g ts t
    · rw [heq, List.mem_append, List.mem_cons] at hd
      rcases hd with hd | rfl | hd
      · exact isDeclaration_of_mem_flush h d hd
      · exact .inl ⟨t, rfl, hoption⟩
      · exact ih .nil d hd
    · exact ih (h.concat hsingle htaken) d (heq ▸ hd)
    · rw [heq, List.mem_append] at hd
      rcases hd with hd | hd
      · exact isDeclaration_of_mem_flush h d hd
      · exact ih (Fills.nil.concat (not_option_of_not_marked hname) (.inr (by decide))) d hd

theorem grouped_of_fills (hne : g ++ ts ≠ []) (h : Fills (g ++ ts)) :
    grouped g ts = [g ++ ts] := by
  induction ts generalizing g with
  | nil =>
    rw [List.append_nil] at hne ⊢
    rw [grouped, flush, if_neg (by simpa using hne)]
  | cons t ts ih =>
    have hsplit : g ++ t :: ts = (g ++ [t]) ++ ts := List.append_cons g t ts
    have hmem : t ∈ g ++ t :: ts := List.mem_append_right g List.mem_cons_self
    have htaken : ['@'] <+: t ∨ g.length < 2 := by
      refine or_iff_not_imp_right.2 fun hfull => h.attributes t ?_
      rw [List.drop_append_of_le_length (Nat.not_lt.1 hfull)]
      exact List.mem_append_right _ List.mem_cons_self
    rw [grouped_cons_taken (h.single t hmem) htaken, hsplit]
    rw [hsplit] at hne h
    exact ih hne h

/-- A declaration is gathered into itself. -/
theorem IsDeclaration.grouped_eq (h : IsDeclaration g) : grouped [] g = [g] := by
  obtain ⟨t, rfl, hoption⟩ | ⟨hne, hfills⟩ := h
  · exact grouped_cons_option hoption
  · exact grouped_of_fills hne hfills

theorem IsDeclaration.ne_nil (h : IsDeclaration g) : g ≠ [] := by
  obtain ⟨t, rfl, -⟩ | ⟨hne, -⟩ := h
  · exact List.cons_ne_nil t []
  · exact hne

/-! ### The lines of a text -/

theorem spaced_append {as bs : List (List Char)} (ha : as ≠ []) (hb : bs ≠ []) :
    spaced (as ++ bs) = spaced as ++ ' ' :: spaced bs := by
  obtain ⟨a, as, rfl⟩ := List.exists_cons_of_ne_nil ha
  obtain ⟨b, bs, rfl⟩ := List.exists_cons_of_ne_nil hb
  rw [List.cons_append, spaced_cons, spaced_cons, spaced_cons, List.flatMap_append,
    List.flatMap_cons, List.append_assoc, List.cons_append]

/-- Lines joined by spaces are their tokens joined by spaces. -/
theorem spaced_map_spaced {gs : List (List (List Char))} (h : ∀ g ∈ gs, g ≠ []) :
    spaced (gs.map spaced) = spaced gs.flatten := by
  induction gs with
  | nil => rfl
  | cons g gs ih =>
    obtain ⟨hg, hgs⟩ := List.forall_mem_cons.1 h
    cases gs with
    | nil => rw [List.map_singleton, spaced, List.flatten_singleton]
    | cons d gs =>
      have hrest : (d :: gs).flatten ≠ [] :=
        List.append_ne_nil_of_left_ne_nil (hgs d List.mem_cons_self) _
      rw [List.flatten_cons, spaced_append hg hrest, ← ih hgs]
      rfl

theorem inked_flatten_map_spaced (gs : List (List (List Char))) :
    inked (gs.map spaced).flatten = inked gs.flatten.flatten := by
  induction gs with
  | nil => rfl
  | cons g gs ih =>
    rw [List.map_cons, List.flatten_cons, inked_append, inked_spaced, ih, List.flatten_cons,
      List.flatten_append, inked_append]

/-- **Nothing is lost on one line, and lines stay as they are.** The tokens are cut at every
blank outside strings and brackets. -/
theorem declarations_normal_form (s : List Char) :
    inked (declarations s).flatten = inked s ∧
      declarations (spaced (declarations s)) = declarations s ∧
      (∀ l ∈ declarations s, declarations l = [l]) ∧
      (∀ l ∈ declarations s, IsDeclaration (tokens l) ∧ spaced (tokens l) = l) ∧
      Cut (tokens s) := by
  have hgathered : ∀ g ∈ grouped [] (tokens s), IsDeclaration g :=
    isDeclaration_of_mem_grouped .nil
  have hflatten : (grouped [] (tokens s)).flatten = tokens s := flatten_grouped [] (tokens s)
  have htokens : ∀ g ∈ grouped [] (tokens s), tokens (spaced g) = g := fun g hg =>
    tokens_spaced ((cut_tokens s).sub (hflatten ▸ List.infix_of_mem_flatten hg))
  refine ⟨?_, ?_, ?_, ?_, cut_tokens s⟩
  · rw [declarations, inked_flatten_map_spaced, hflatten, inked_tokens]
  · have hall : spaced (declarations s) = spaced (tokens s) := by
      rw [declarations, spaced_map_spaced fun g hg => (hgathered g hg).ne_nil, hflatten]
    rw [hall, declarations, tokens_spaced (cut_tokens s), declarations]
  · intro l hl
    obtain ⟨g, hg, rfl⟩ := List.mem_map.1 hl
    rw [declarations, htokens g hg, (hgathered g hg).grouped_eq, List.map_singleton]
  · intro l hl
    obtain ⟨g, hg, rfl⟩ := List.mem_map.1 hl
    rw [htokens g hg]
    exact ⟨hgathered g hg, rfl⟩

/-- A string that is never closed takes the rest of the text. -/
example : declarations "a  B @x \"b  c C ".toList = ["a B @x".toList, "\"b  c C ".toList] := by
  decide

end Inline
end SchemaDiagram

/-
# One-line models

The body of a model on one line has its declarations side by side. It is cut at
the blanks outside strings and brackets, which are the spaces between the tokens,
and a name that follows two or more tokens begins a new declaration; so the
declarations are found again.

The tokens carry what makes this work: strings and brackets in them are closed,
blanks stand in strings or brackets only and two slashes in a row in strings only,
there are no backslashes and line feeds, and braces come in equal numbers. An
attribute starts with one at sign, an option with two, and a type with none.

Key definitions: `Compact.Token`, `Compact.Declaration`, `Compact.Model`.
Key theorems: `Compact.tokens_padded`, `Compact.grouped_tokens`,
`Compact.Model.declarations_inner`.
-/
import SchemaDiagram.Proofs.Schema.Balanced
import SchemaDiagram.Proofs.Schema.Written
import SchemaDiagram.Proofs.Text.Run

namespace SchemaDiagram

/-! ### How tokens are gathered -/

namespace Inline

theorem spaced_cons (t : List Char) (ts : List (List Char)) :
    spaced (t :: ts) = t ++ ts.flatMap fun u => ' ' :: u := by
  induction ts generalizing t with
  | nil => simp [spaced]
  | cons u ts ih => rw [spaced, ih, List.flatMap_cons, List.cons_append]

theorem isAttribute_iff {t : List Char} : isAttribute t = true ↔ ['@'] <+: t :=
  List.isPrefixOf_iff_prefix

theorem isOption_iff {t : List Char} : isOption t = true ↔ ['@', '@'] <+: t :=
  List.isPrefixOf_iff_prefix

/-- What is no attribute is no option. -/
theorem not_option_of_not_marked {t : List Char} (h : ¬ ['@'] <+: t) : ¬ ['@', '@'] <+: t :=
  fun ht => h (List.IsPrefix.trans ⟨['@'], rfl⟩ ht)

variable {g ts : List (List Char)} {t : List Char}

theorem grouped_cons_option (h : ['@', '@'] <+: t) :
    grouped g (t :: ts) = flush g ++ [t] :: grouped [] ts := by
  rw [grouped, if_pos (isOption_iff.2 h)]

/-- A token that is taken into the declaration before it. -/
theorem grouped_cons_taken (ho : ¬ ['@', '@'] <+: t) (h : ['@'] <+: t ∨ g.length < 2) :
    grouped g (t :: ts) = grouped (g ++ [t]) ts := by
  rw [grouped, if_neg (mt isOption_iff.1 ho), if_pos]
  rw [Bool.or_eq_true, isAttribute_iff, decide_eq_true_eq]
  exact h

/-- A token that begins a declaration, as the first or after a name and a type. -/
theorem grouped_cons_name (h : ¬ ['@'] <+: t) (hg : g = [] ∨ 2 ≤ g.length) :
    grouped g (t :: ts) = flush g ++ grouped [t] ts := by
  have ho := not_option_of_not_marked h
  rcases hg with rfl | hg
  · rw [grouped_cons_taken ho (.inr (by decide))]
    rfl
  · have hnew : ¬ (isAttribute t || decide (g.length < 2)) = true := by
      rw [Bool.or_eq_true, isAttribute_iff, decide_eq_true_eq]
      rintro (ht | hlt)
      · exact h ht
      · omega
    have hne : ¬ g.isEmpty = true := by
      rw [List.isEmpty_iff]
      rintro rfl
      exact absurd hg (by decide)
    rw [grouped, if_neg (mt isOption_iff.1 ho), if_neg hnew, flush, if_neg hne]
    rfl

end Inline

namespace Compact

/-! ### Tokens -/

structure Token where
  chars : List Char
  ne_nil : chars ≠ []
  balanced : Balanced 0 chars
  noBackslash : '\\' ∉ chars
  oneLine : '\n' ∉ chars
  evenBraces : chars.count '{' = chars.count '}'

structure TypeToken extends Token where
  unmarked : ¬ ['@'] <+: chars

structure AttributeToken extends Token where
  marked : ['@'] <+: chars
  single : ¬ ['@', '@'] <+: chars

structure OptionToken extends Token where
  marked : ['@', '@'] <+: chars

/-- A word is a token. -/
def ofWord (w : Written.Word) : Token where
  chars := w.chars
  ne_nil := w.ne_nil
  balanced := .of_isWord w.isWord
  noBackslash h := absurd (w.isWord _ h) (by decide)
  oneLine h := absurd (w.isWord _ h) (by decide)
  evenBraces := by
    have h0 : ∀ c, Text.isWord c = false → w.chars.count c = 0 := fun c hc =>
      List.count_eq_zero.2 fun h => by rw [w.isWord c h] at hc; cases hc
    rw [h0 '{' (by decide), h0 '}' (by decide)]

/-! ### Declarations and models -/

/-- A field with its attributes, or an option. -/
inductive Declaration where
  | field (name : Written.Word) (type : TypeToken) (attributes : List AttributeToken)
  | option (o : OptionToken)

namespace Declaration

/-- The declaration with single spaces between its tokens. -/
def chars : Declaration → List Char
  | field name type attributes =>
    name.chars ++ ' ' :: (type.chars ++ attributes.flatMap fun a => ' ' :: a.chars)
  | option o => o.chars

def tokens : Declaration → List Token
  | field name type attributes => ofWord name :: type.toToken :: attributes.map (·.toToken)
  | option o => [o.toToken]

end Declaration

structure Model where
  name : Written.Word
  declarations : List Declaration

namespace Model

/-- The block that the model is, one declaration on a line. -/
def block (m : Model) : Block :=
  ⟨.model, String.ofList m.name.chars, m.declarations.map fun d => String.ofList d.chars⟩

/-- What stands between the braces of a model on one line. -/
def inner (m : Model) : List Char :=
  ' ' :: m.declarations.flatMap fun d => d.chars ++ [' ']

end Model

/-! ### Tokens side by side -/

/-- Tokens with a space after each of them. -/
def padded (ts : List Token) : List Char :=
  ts.flatMap fun t => t.chars ++ [' ']

theorem padded_cons (t : Token) (ts : List Token) :
    padded (t :: ts) = t.chars ++ ' ' :: padded ts := by
  simp [padded]

/-- Tokens are cut at the spaces between them and nowhere else. -/
theorem scan_padded (ts : List Token) :
    Inline.scan .outside (' ' :: padded ts) = ([], ts.map (·.chars)) := by
  induction ts with
  | nil => rfl
  | cons t ts ih =>
    have hsplits : Nesting.splits .outside ' ' = true := by decide
    rw [Inline.scan, if_pos hsplits, padded_cons, Nesting.outside, t.balanced.scan_append, ih,
      List.append_nil]
    cases h : t.chars with
    | nil => exact absurd h t.ne_nil
    | cons c s => simp [h]

theorem tokens_padded (ts : List Token) :
    Inline.tokens (' ' :: padded ts) = ts.map (·.chars) := by
  rw [Inline.tokens, scan_padded]

theorem cut_padded (ts : List Token) {s : List Char} (hs : Comment.cut false none s = none) :
    Comment.cut false none (padded ts ++ s) = none := by
  induction ts with
  | nil => exact hs
  | cons t ts ih =>
    have hspace : Comment.cut false none (' ' :: (padded ts ++ s)) = none := by
      have hplain := Comment.cut_plain_append (a := [' ']) (List.all_eq_true.1 rfl) (padded ts ++ s)
      rw [ih, Option.map_none] at hplain
      exact hplain
    have hhead : ∀ c ∈ (' ' :: (padded ts ++ s)).head?, c ≠ '/' :=
      Text.forall_mem_head?_cons (by decide) _
    rw [padded_cons, List.append_assoc, List.cons_append,
      t.balanced.cut_append t.noBackslash hhead, hspace, Option.map_none]

theorem delta_padded (ts : List Token) : Opener.delta (padded ts) = 0 := by
  induction ts with
  | nil => rfl
  | cons t ts ih =>
    have ht : Opener.delta t.chars = 0 := by rw [Opener.delta, t.evenBraces, Int.sub_self]
    have hspace : Opener.delta [' '] = 0 := by decide
    have happend : padded (t :: ts) = t.chars ++ ([' '] ++ padded ts) := padded_cons t ts
    rw [happend, Opener.delta_append, Opener.delta_append, ht, hspace, ih]
    rfl

theorem oneLine_padded (ts : List Token) : '\n' ∉ padded ts := by
  intro h
  obtain ⟨t, -, ht⟩ := List.mem_flatMap.1 h
  rcases List.mem_append.1 ht with ht | ht
  · exact t.oneLine ht
  · exact absurd ht (by decide)

/-! ### Tokens of a declaration -/

namespace Declaration

theorem chars_append_space (d : Declaration) : d.chars ++ [' '] = padded d.tokens := by
  cases d with
  | field name type attributes =>
    have hattributes : (attributes.flatMap fun a => ' ' :: a.chars) ++ [' '] =
        ' ' :: padded (attributes.map (·.toToken)) := by
      induction attributes with
      | nil => rfl
      | cons a as ih =>
        simp only [List.flatMap_cons, List.append_assoc, ih, List.map_cons, padded_cons,
          List.cons_append]
    simp only [chars, tokens, padded_cons, List.append_assoc, List.cons_append, hattributes]
    rfl
  | option o => simp [chars, tokens, padded]

/-- There is no comment on the line of a declaration. -/
theorem cut_chars (d : Declaration) : Comment.cut false none d.chars = none := by
  have hcut := cut_padded d.tokens (Comment.cut_nil false none)
  rw [List.append_nil, ← d.chars_append_space] at hcut
  exact Comment.cut_eq_none_of_prefix hcut (List.prefix_append _ _)

theorem delta_chars (d : Declaration) : Opener.delta d.chars = 0 := by
  have hspace : Opener.delta [' '] = 0 := by decide
  have hdelta := delta_padded d.tokens
  rwa [← d.chars_append_space, Opener.delta_append, hspace, Int.add_zero] at hdelta

theorem oneLine (d : Declaration) : '\n' ∉ d.chars := by
  intro h
  refine oneLine_padded d.tokens ?_
  rw [← d.chars_append_space]
  exact List.mem_append_left _ h

theorem isBlank_getLast (d : Declaration) : ∀ c ∈ d.chars.getLast?, Text.isBlank c = false := by
  cases d with
  | field name type attributes =>
    have hattributes : ∀ c ∈ (attributes.flatMap fun a => ' ' :: a.chars).getLast?,
        Text.isBlank c = false := by
      induction attributes with
      | nil => nofun
      | cons a as ih =>
        rw [List.flatMap_cons]
        refine Text.isBlank_getLast_append (fun _ => ?_) ih
        exact Text.isBlank_getLast_cons (fun h => absurd h a.ne_nil) a.balanced.isBlank_getLast
    have htype := Text.isBlank_getLast_append (fun _ => type.balanced.isBlank_getLast) hattributes
    refine Text.isBlank_getLast_append nofun (Text.isBlank_getLast_cons (fun h => ?_) htype)
    exact absurd (List.append_eq_nil_iff.1 h).1 type.ne_nil
  | option o => exact o.balanced.isBlank_getLast

theorem map_tokens_field (name : Written.Word) (type : TypeToken)
    (attributes : List AttributeToken) :
    (field name type attributes).tokens.map (·.chars) =
      name.chars :: type.chars :: attributes.map (·.chars) := by
  rw [tokens, List.map_cons, List.map_cons, List.map_map]
  rfl

theorem spaced_tokens (d : Declaration) : Inline.spaced (d.tokens.map (·.chars)) = d.chars := by
  cases d with
  | field name type attributes =>
    rw [map_tokens_field, Inline.spaced_cons, List.flatMap_cons, List.flatMap_map]
    rfl
  | option o => rfl

end Declaration

/-! ### Tokens gathered into declarations -/

theorem not_marked_of_isWord {s : List Char} (h : ∀ c ∈ s, Text.isWord c = true) : ¬ ['@'] <+: s :=
  fun hp => absurd (h '@' (hp.subset List.mem_cons_self)) (by decide)

variable {g : List (List Char)}

theorem grouped_attributes (as : List AttributeToken) (ts : List (List Char)) :
    Inline.grouped g (as.map (·.chars) ++ ts) = Inline.grouped (g ++ as.map (·.chars)) ts := by
  induction as generalizing g with
  | nil => rw [List.map_nil, List.nil_append, List.append_nil]
  | cons a as ih =>
    rw [List.map_cons, List.cons_append, Inline.grouped_cons_taken a.single (.inl a.marked), ih,
      List.append_assoc, List.singleton_append]

/-- The tokens of some declarations are gathered into these again. -/
theorem grouped_tokens (ds : List Declaration) (hg : g = [] ∨ 2 ≤ g.length) :
    Inline.grouped g ((ds.flatMap Declaration.tokens).map (·.chars)) =
      Inline.flush g ++ ds.map fun d => d.tokens.map (·.chars) := by
  induction ds generalizing g with
  | nil => exact (List.append_nil _).symm
  | cons d ds ih =>
    rw [List.flatMap_cons, List.map_append, List.map_cons]
    cases d with
    | field name type attributes =>
      -- name and type make a group of two, so that the next name begins a declaration
      have htype := Inline.not_option_of_not_marked type.unmarked
      rw [Declaration.map_tokens_field, List.cons_append, List.cons_append,
        Inline.grouped_cons_name (not_marked_of_isWord name.isWord) hg,
        Inline.grouped_cons_taken htype (.inr (by simp)), grouped_attributes, ih (.inr (by simp))]
      rfl
    | option o =>
      have htokens : (Declaration.option o).tokens.map (·.chars) = [o.chars] := rfl
      rw [htokens, List.singleton_append, Inline.grouped_cons_option o.marked, ih (.inl rfl)]
      rfl

namespace Model

theorem inner_eq_padded (m : Model) :
    m.inner = ' ' :: padded (m.declarations.flatMap Declaration.tokens) := by
  rw [inner, padded, List.flatMap_assoc]
  congr 2
  funext d
  exact d.chars_append_space

/-- The one-line body declares what the model declares. -/
theorem declarations_inner (m : Model) :
    Inline.declarations m.inner = m.declarations.map Declaration.chars := by
  have hflush : Inline.flush [] = [] := rfl
  rw [Inline.declarations, m.inner_eq_padded, tokens_padded, grouped_tokens _ (.inl rfl), hflush,
    List.nil_append, List.map_map]
  exact List.map_congr_left fun d _ => d.spaced_tokens

/-- Blanks in a string do not end a token. -/
example : Inline.declarations " id Int @x(\"a b\") @@y ".toList =
    ["id Int @x(\"a b\")".toList, "@@y".toList] := by
  decide

end Model
end Compact
end SchemaDiagram

/-
# Strings in one-line bodies

Two readers go over the text after the brace of an opener line: the reader of comments,
for which a quote after a backslash opens and closes nothing, and the reader of one-line
bodies, which takes no notice of backslashes. They agree about strings at every place
of a text exactly if each quote after a backslash stands in a string that the other
quote has opened (`Inline.quote_after_eq_iff`). Then what is outside strings for the
one is so for the other, and a blank there that is in no bracket ends a token.

Key definitions: `Nesting.run`, `Nesting.after`, `Inline.Shielded`, `Inline.shields`.
Key theorems: `Inline.scan_append_blank`, `Inline.quote_after_eq_iff`,
`Opener.strings_agree_iff`.
-/
import Mathlib.Data.List.Infix
import Mathlib.Data.List.Induction
import SchemaDiagram.Proofs.Schema.Opener
import SchemaDiagram.Proofs.Schema.Quote
import SchemaDiagram.Schema.Inline

namespace SchemaDiagram

/-! ### The state after a stretch of text -/

namespace Nesting

/-- The state after a stretch of text, from a given state. -/
def run (n : Nesting) (s : List Char) : Nesting :=
  s.foldl step n

/-- The state after the beginning of a body. -/
def after (s : List Char) : Nesting :=
  run .outside s

theorem after_concat (p : List Char) (c : Char) : after (p ++ [c]) = (after p).step c :=
  List.foldl_concat _ _ _ _

/-- Strings are opened and closed as if there were no backslashes. -/
theorem quote_step {n : Nesting} (h : ∀ q ∈ n.quote, isQuote q = true) (c : Char) :
    (n.step c).quote = Quote.step false n.quote c := by
  obtain ⟨d, q⟩ := n
  cases q with
  | none =>
    cases hc : isQuote c with
    | true => simp [step, Quote.step, hc]
    | false =>
      rw [Quote.step_of_not_quote hc]
      simp only [step, hc]
      grind
  | some q =>
    by_cases hcq : c = q
    · have hq : isQuote q = true := h q rfl
      simp [step, Quote.step, hcq, hq]
    · simp [step, Quote.step, hcq, Ne.symm hcq]

theorem isQuote_of_mem_quote (p : List Char) : ∀ q ∈ (after p).quote, isQuote q = true := by
  induction p using List.reverseRecOn with
  | nil => nofun
  | append_singleton p c ih =>
    rw [after_concat, quote_step ih]
    exact Quote.isQuote_of_mem_step ih

theorem quote_after_concat (p : List Char) (c : Char) :
    (after (p ++ [c])).quote = Quote.step false (after p).quote c := by
  rw [after_concat, quote_step (isQuote_of_mem_quote p)]

end Nesting

namespace Inline

/-! ### Where the readers agree -/

/-- Each quote after a backslash stands in a string that the other quote has opened. -/
def Shielded (s : List Char) : Prop :=
  ∀ p c, p ++ ['\\', c] <+: s → isQuote c = true → ∃ q ∈ Quote.after p, q ≠ c

/-- The same read off from the left, from a state as `Quote.run` takes it. -/
def shields (e : Bool) (q : Quote) : List Char → Bool
  | [] => true
  | c :: s =>
    (!(e && isQuote c) || q.any (· != c)) && shields (c == '\\') (Quote.step e q c) s

theorem shields_iff {e : Bool} {q : Quote} {s : List Char} :
    shields e q s = true ↔ ∀ p c, p ++ [c] <+: s → Quote.escapes e p = true → isQuote c = true →
      ∃ r ∈ Quote.run e q p, r ≠ c := by
  induction s generalizing e q with
  | nil => simp [shields]
  | cons d s ih =>
    have hhead : (!(e && isQuote d) || q.any (· != d)) = true ↔
        (e = true → isQuote d = true → ∃ r ∈ q, r ≠ d) := by
      cases e <;> cases isQuote d <;> simp [Option.any_eq_true]
    rw [shields, Bool.and_eq_true, hhead, ih]
    constructor
    · rintro ⟨hfirst, hrest⟩ p c hp
      cases p with
      | nil =>
        obtain rfl : c = d := (List.cons_prefix_cons.1 hp).1
        exact hfirst
      | cons b p =>
        obtain ⟨rfl, htail⟩ := List.cons_prefix_cons.1 hp
        rw [← Quote.escapes_cons]
        exact hrest p c htail
    · intro h
      refine ⟨h [] d (List.cons_prefix_cons.2 ⟨rfl, List.nil_prefix⟩), fun p c hp he => ?_⟩
      rw [Quote.escapes_cons] at he
      exact h (d :: p) c (List.cons_prefix_cons.2 ⟨rfl, hp⟩) he

theorem shielded_iff {s : List Char} : Shielded s ↔ shields false none s = true := by
  rw [shields_iff]
  constructor
  · intro h p c hp he
    obtain ⟨b, rfl⟩ := Quote.exists_eq_concat_of_escapes he
    rw [show Quote.run false none (b ++ ['\\']) = _ from Quote.after_concat_backslash b]
    exact h b c (by simpa using hp)
  · intro h p c hp hc
    rw [← Quote.after_concat_backslash]
    exact h (p ++ ['\\']) c (by simpa using hp) (by simp [Quote.escapes]) hc

instance : DecidablePred Shielded := fun _ => decidable_of_iff' _ shielded_iff

/-- Nothing goes wrong before the first quote after a backslash that is not in a string
of the other quote, and right after it the readers disagree. -/
theorem quote_after_eq_iff (s : List Char) :
    (∀ p, p <+: s → (Nesting.after p).quote = Quote.after p) ↔ Shielded s := by
  constructor
  · intro h p c hp hc
    have hsplit : p ++ ['\\', c] = p ++ ['\\'] ++ [c] := by simp
    have hbefore := h (p ++ ['\\']) ((List.prefix_append _ [c]).trans (hsplit ▸ hp))
    have hafter := h (p ++ ['\\'] ++ [c]) (hsplit ▸ hp)
    rw [Nesting.quote_after_concat, hbefore, Quote.after_escaped,
      Quote.after_concat_backslash] at hafter
    exact (Quote.step_eq_self_iff hc _).1 hafter
  · intro h p
    induction p using List.reverseRecOn with
    | nil => exact fun _ => rfl
    | append_singleton p c ih =>
      intro hp
      rw [Nesting.quote_after_concat, ih ((List.prefix_append p [c]).trans hp), Quote.after_concat]
      cases hescapes : Quote.escapes false p with
      | false => rfl
      | true =>
        cases hc : isQuote c with
        | false => rw [Quote.step_of_not_quote hc, Quote.step_of_not_quote hc]
        | true =>
          obtain ⟨b, rfl⟩ := Quote.exists_eq_concat_of_escapes hescapes
          have hshield := h b c (by simpa using hp) hc
          rw [Quote.after_concat_backslash, (Quote.step_eq_self_iff hc _).2 hshield]
          simp [Quote.step]

/-! ### Where tokens end -/

/-- A blank outside strings and brackets ends the token before it, and what comes after
it is read as from the start. -/
theorem scan_append_blank {n : Nesting} {p : List Char} {b : Char} (hp : n.run p = .outside)
    (hb : Text.isBlank b = true) (t : List Char) :
    scan n (p ++ b :: t) = ((scan n p).1, (scan n p).2 ++ tokens t) := by
  induction p generalizing n with
  | nil =>
    obtain rfl : n = .outside := hp
    have hsplits : Nesting.splits .outside b = true := by simp [Nesting.splits, Nesting.outside, hb]
    rw [List.nil_append, scan, scan, if_pos hsplits, List.nil_append, tokens]
    rcases scan .outside t with ⟨_ | ⟨c, u⟩, ts⟩ <;> rfl
  | cons c p ih =>
    rw [List.cons_append, scan, scan]
    by_cases hsplits : n.splits c = true
    · have hn : n.run p = .outside := by
        rw [← hp, Nesting.run, Nesting.run, List.foldl_cons, Nesting.step_of_splits hsplits]
      rw [if_pos hsplits, if_pos hsplits, ih hn]
      rcases scan n p with ⟨_ | ⟨d, u⟩, ts⟩ <;> rfl
    · rw [if_neg hsplits, if_neg hsplits, ih hp]

theorem tokens_append_blank {p : List Char} {b : Char} (hp : Nesting.after p = .outside)
    (hb : Text.isBlank b = true) (t : List Char) :
    tokens (p ++ b :: t) = tokens p ++ tokens t := by
  have hscan := scan_append_blank hp hb t
  rcases hfirst : scan .outside p with ⟨_ | ⟨d, u⟩, ts⟩ <;> rw [hfirst] at hscan
  · simp only [tokens, hscan, hfirst]
  · simp only [tokens, hscan, hfirst, List.cons_append]

end Inline

namespace Opener

/-- The rest of an opener stands in its line behind the first brace, and what is before
it takes no part in strings and escapes. -/
theorem exists_line {l : List Char} {o : Opener} (h : match? (Comment.strip l) = some o) :
    ∃ head tail, l = head ++ '{' :: (o.rest ++ tail) ∧ '{' ∉ head ∧
      ∀ c ∈ head ++ ['{'], isPlain c = true := by
  obtain ⟨head, htrim, hbrace, hplain⟩ := (reads_of_match? h).exists_head
  obtain ⟨b, hb, hstart⟩ := Text.exists_blank_append_trimStart (Comment.strip l)
  obtain ⟨blanks, hend⟩ := Text.trimEnd_prefix (Text.trimStart (Comment.strip l))
  obtain ⟨comment, hl⟩ := Comment.strip_prefix l
  refine ⟨b ++ head, blanks ++ comment, ?_, ?_, ?_⟩
  · calc l = b ++ (Text.trim (Comment.strip l) ++ blanks) ++ comment := by
          rw [Text.trim, hend, ← hstart, hl]
      _ = b ++ head ++ '{' :: (o.rest ++ (blanks ++ comment)) := by
          rw [htrim]
          simp only [List.append_assoc, List.cons_append]
  · intro hmem
    rcases List.mem_append.1 hmem with hmem | hmem
    · exact absurd (hb _ hmem) (by decide)
    · exact hbrace hmem
  · intro c hc
    rw [List.append_assoc] at hc
    rcases List.mem_append.1 hc with hc | hc
    · exact isPlain_of_isBlank (hb c hc)
    · exact hplain c hc

/-- **Strings on opener lines.** Behind the brace of an opener the two readers agree at
every place of a text about whether a string is open and which quote opened it exactly
if each quote after a backslash stands in a string of the other quote. In that case
every blank that is outside strings for the reader of comments and in no bracket
separates the tokens before it from those after it. -/
theorem strings_agree_iff {l : List Char} {o : Opener}
    (h : match? (Comment.strip l) = some o) :
    ∃ head tail, l = head ++ '{' :: (o.rest ++ tail) ∧ '{' ∉ head ∧ ∀ s, s <+: o.rest →
      ((∀ p, p <+: s → (Nesting.after p).quote = Quote.after (head ++ '{' :: p)) ↔
        Inline.Shielded s) ∧
      (Inline.Shielded s → ∀ p b t, s = p ++ b :: t → Text.isBlank b = true →
        Quote.after (head ++ '{' :: p) = none → (Nesting.after p).depth = 0 →
          Inline.tokens s = Inline.tokens p ++ Inline.tokens t) := by
  obtain ⟨head, tail, hl, hbrace, hplain⟩ := exists_line h
  have hhead : ∀ p, Quote.after (head ++ '{' :: p) = Quote.after p := by
    intro p
    rw [List.append_cons, Quote.after_plain_append hplain]
  refine ⟨head, tail, hl, hbrace, fun s _ => ⟨?_, ?_⟩⟩
  · simp only [hhead]
    exact Inline.quote_after_eq_iff s
  · rintro hshield p b t rfl hb hnone hdepth
    have hquote : (Nesting.after p).quote = none := by
      rw [(Inline.quote_after_eq_iff _).2 hshield p (List.prefix_append p _), ← hhead p, hnone]
    have houtside : Nesting.after p = .outside := by
      rw [Nesting.outside, ← hdepth, ← hquote]
    exact Inline.tokens_append_blank houtside hb t

theorem strings_agree_iff_apostrophe :
    let line := "model A \x7b s String @default(\"a\\'b\") c C \x7d".toList
    let rest := " s String @default(\"a\\'b\") c C \x7d".toList
    match? (Comment.strip line) = some ⟨.model, "A", rest⟩ ∧ Inline.Shielded rest ∧
      ∃ head tail, line = head ++ '{' :: (rest ++ tail) ∧
        ∀ p, p <+: rest → (Nesting.after p).quote = Quote.after (head ++ '{' :: p) := by
  intro line rest
  have h : match? (Comment.strip line) = some ⟨.model, "A", rest⟩ := by decide +kernel
  have hshield : Inline.Shielded rest := by decide +kernel
  obtain ⟨head, tail, hline, -, hagree⟩ := strings_agree_iff h
  exact ⟨h, hshield, head, tail, hline, (hagree rest List.prefix_rfl).1.2 hshield⟩

/-- An escaped quote in a string of its own kind closes the string for the reader of
one-line bodies alone, and the closing quote then opens one that swallows the
declaration after it. -/
theorem strings_agree_iff_escaped :
    let rest := " s String @default(\"a\\\"b\") c C \x7d".toList
    let place := " s String @default(\"a\\\"".toList
    match? (Comment.strip ("model A \x7b".toList ++ rest)) = some ⟨.model, "A", rest⟩ ∧
      place <+: rest ∧ (Nesting.after place).quote = none ∧
      Quote.after ("model A \x7b".toList ++ place) = some '"' ∧
      Inline.declarations (Text.beforeLast '}' rest) =
        ["s String @default(\"a\\\"b\") c C ".toList] := by
  decide +kernel

end Opener
end SchemaDiagram

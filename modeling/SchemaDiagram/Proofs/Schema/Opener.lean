/-
# What opens a block

A line opens a block exactly if its code is a block kind, blanks, a word,
perhaps more blanks, an opening brace and any rest. The rest is code itself: it
has no comment, although its quotes are read afresh.

Key definitions: `Opener.Reads`.
Key theorems: `Opener.match?_model`, `Opener.Reads.exists_head`, `Opener.strip_rest`,
`Opener.isWord_of_mem_name`.
-/
import SchemaDiagram.Proofs.Schema.Code
import SchemaDiagram.Proofs.Text.Run

namespace SchemaDiagram

theorem BlockKind.isWord_of_mem_word (k : BlockKind) : ∀ c ∈ k.word.toList, Text.isWord c = true := by
  cases k <;> exact List.all_eq_true.1 (by decide)

namespace Opener

/-- The text is an opener: its kind, a gap, its name, perhaps another gap, a brace
and its rest. -/
def Reads (o : Opener) (text : List Char) : Prop :=
  ∃ gap name gap', gap ≠ [] ∧ (∀ c ∈ gap, Text.isBlank c = true) ∧
    name ≠ [] ∧ (∀ c ∈ name, Text.isWord c = true) ∧ (∀ c ∈ gap', Text.isBlank c = true) ∧
    o.name = String.ofList name ∧
    text = o.kind.word.toList ++ (gap ++ (name ++ (gap' ++ '{' :: o.rest)))

theorem afterName_eq_some_iff {kind : BlockKind} {name s : List Char} {o : Opener} :
    afterName kind name s = some o ↔
      s = '{' :: o.rest ∧ o.kind = kind ∧ o.name = String.ofList name := by
  unfold afterName
  split
  · next rest =>
    constructor
    · intro h
      obtain rfl := Option.some.inj h
      exact ⟨rfl, rfl, rfl⟩
    · rintro ⟨h, rfl, hn⟩
      obtain ⟨k, n, r⟩ := o
      obtain rfl := hn
      obtain rfl := (List.cons.inj h).2
      rfl
  · next hs => exact ⟨nofun, fun h => absurd h.1 (hs _)⟩

theorem reads_of_match? {l : List Char} {o : Opener} (h : match? l = some o) :
    o.Reads (Text.trim l) := by
  unfold match? at h
  generalize Text.trim l = text at h ⊢
  obtain ⟨kind, hk, h⟩ := Option.bind_eq_some_iff.1 h
  dsimp only at h
  have hgap : ∀ s : List Char, s = s.takeWhile Text.isBlank ++ Text.trimStart s :=
    fun s => List.takeWhile_append_dropWhile.symm
  split at h
  · cases h
  · next hne =>
    obtain ⟨hs, rfl, hn⟩ := afterName_eq_some_iff.1 h
    simp only [Bool.or_eq_true, decide_eq_true_eq, not_or, Bool.not_eq_true,
      List.isEmpty_eq_false_iff] at hne
    set gap := text.dropWhile Text.isWord with hg
    set named := Text.trimStart gap with hnd
    refine ⟨gap.takeWhile Text.isBlank, named.takeWhile Text.isWord,
      (named.dropWhile Text.isWord).takeWhile Text.isBlank, ?_, fun _ => List.mem_takeWhile_imp,
      hne.2, fun _ => List.mem_takeWhile_imp, fun _ => List.mem_takeWhile_imp, hn, ?_⟩
    · intro h0
      have hl := congrArg List.length (hgap gap)
      rw [h0, List.nil_append] at hl
      exact hne.1 hl.symm
    · have hword := BlockKind.word_of_ofWord? hk
      have h1 : text = o.kind.word.toList ++ gap := by
        rw [hword, String.toList_ofList, hg, List.takeWhile_append_dropWhile]
      have h2 : named.dropWhile Text.isWord =
          (named.dropWhile Text.isWord).takeWhile Text.isBlank ++ '{' :: o.rest := by
        rw [← hs]
        exact hgap _
      rw [← h2, List.takeWhile_append_dropWhile, hnd, ← hgap gap]
      exact h1

theorem match?_of_reads {l : List Char} {o : Opener} (h : o.Reads (Text.trim l)) :
    match? l = some o := by
  obtain ⟨gap, name, gap', hg0, hg, hn0, hn, hg', hname, htext⟩ := h
  have hgw : ∀ c ∈ (gap ++ (name ++ (gap' ++ '{' :: o.rest))).head?, Text.isWord c = false := by
    intro c hc
    exact Text.isWord_eq_false_of_isBlank (Text.head?_append_of_all hg hg0 c hc)
  have hnb : ∀ c ∈ (name ++ (gap' ++ '{' :: o.rest)).head?, Text.isBlank c = false := by
    intro c hc
    exact Text.isBlank_eq_false_of_isWord (Text.head?_append_of_all hn hn0 c hc)
  have hgw' : ∀ c ∈ (gap' ++ '{' :: o.rest).head?, Text.isWord c = false := by
    cases gap' with
    | nil => exact Text.forall_mem_head?_cons (by decide) _
    | cons d g =>
      intro c hc
      exact Text.isWord_eq_false_of_isBlank (Text.head?_append_of_all hg' (by simp) c hc)
  have hb : ∀ c ∈ ('{' :: o.rest).head?, Text.isBlank c = false :=
    Text.forall_mem_head?_cons (by decide) _
  have hkw := BlockKind.isWord_of_mem_word o.kind
  simp only [match?]
  rw [htext, Text.takeWhile_append_stop hkw hgw, Text.dropWhile_append_stop hkw hgw,
    String.ofList_toList, BlockKind.ofWord?_word]
  simp only [Option.bind_eq_bind, Option.bind_some]
  rw [Text.trimStart, Text.trimStart, Text.dropWhile_append_stop hg hnb,
    Text.takeWhile_append_stop hn hgw', Text.dropWhile_append_stop hn hgw',
    Text.dropWhile_append_stop hg' hb, if_neg, afterName_eq_some_iff]
  · exact ⟨rfl, rfl, hname⟩
  · have hlen : 0 < gap.length := List.length_pos_iff.2 hg0
    simp only [List.length_append, Bool.or_eq_true, decide_eq_true_eq, List.isEmpty_iff, hn0,
      or_false]
    omega

theorem isBlank_getLast_header (name : List Char) :
    ∀ c ∈ ("model ".toList ++ (name ++ " \x7b".toList)).getLast?, Text.isBlank c = false := by
  intro c hc
  rw [← List.append_assoc, List.getLast?_append_of_ne_nil _ (by decide)] at hc
  obtain rfl := Option.some.inj hc
  decide

/-- A model opens with its keyword, its name and a brace, and the rest of the line is
the rest of the opener. -/
theorem match?_model {name rest : List Char} (hn0 : name ≠ [])
    (hn : ∀ c ∈ name, Text.isWord c = true) (hcut : Comment.cut false none rest = none)
    (hlast : ∀ c ∈ rest.getLast?, Text.isBlank c = false) :
    match? (Comment.strip ("model ".toList ++ (name ++ " \x7b".toList) ++ rest)) =
      some ⟨.model, String.ofList name, rest⟩ := by
  have hblank : ∀ c ∈ [' '], Text.isBlank c = true := List.all_eq_true.1 rfl
  have hplain : ∀ c ∈ "model ".toList ++ (name ++ " \x7b".toList), isPlain c = true := by
    intro c hc
    simp only [List.mem_append] at hc
    rcases hc with hc | hc | hc
    · exact List.all_eq_true.1 (by decide) c hc
    · exact isPlain_of_isWord (hn c hc)
    · exact List.all_eq_true.1 (by decide) c hc
  have hstrip : Comment.strip ("model ".toList ++ (name ++ " \x7b".toList) ++ rest) =
      "model ".toList ++ (name ++ " \x7b".toList) ++ rest :=
    Comment.strip_of_cut_none (by rw [Comment.cut_plain_append hplain, hcut, Option.map_none])
  have htrim : Text.trim ("model ".toList ++ (name ++ " \x7b".toList) ++ rest) =
      "model ".toList ++ (name ++ " \x7b".toList) ++ rest := by
    exact Text.trim_eq_self (Text.forall_mem_head?_cons (by decide) _)
      (Text.isBlank_getLast_append (fun _ => isBlank_getLast_header name) hlast)
  have hword : "model ".toList = BlockKind.model.word.toList ++ [' '] := by decide
  have hbrace : " \x7b".toList = [' '] ++ ['{'] := by decide
  refine match?_of_reads ⟨[' '], name, [' '], by simp, hblank, hn0, hn, hblank, rfl, ?_⟩
  rw [hstrip, htrim, hword, hbrace]
  simp only [List.append_assoc, List.cons_append, List.nil_append]

/-! ### The rest of an opener line -/

/-- Up to and with its brace, which is the first of the line, an opener holds no quote,
slash or backslash. -/
theorem Reads.exists_head {o : Opener} {text : List Char} (h : o.Reads text) :
    ∃ head, text = head ++ '{' :: o.rest ∧ '{' ∉ head ∧
      ∀ c ∈ head ++ ['{'], isPlain c = true := by
  obtain ⟨gap, name, gap', -, hg, -, hn, hg', -, rfl⟩ := h
  have hhead : ∀ c ∈ o.kind.word.toList ++ (gap ++ (name ++ gap')),
      Text.isWord c = true ∨ Text.isBlank c = true := by
    intro c hc
    simp only [List.mem_append] at hc
    rcases hc with hc | hc | hc | hc
    · exact .inl (BlockKind.isWord_of_mem_word _ c hc)
    · exact .inr (hg c hc)
    · exact .inl (hn c hc)
    · exact .inr (hg' c hc)
  refine ⟨o.kind.word.toList ++ (gap ++ (name ++ gap')), ?_, ?_, fun c hc => ?_⟩
  · simp only [List.append_assoc]
  · intro hbrace
    rcases hhead _ hbrace with h | h <;> exact absurd h (by decide)
  · rcases List.mem_append.1 hc with hc | hc
    · exact (hhead c hc).elim isPlain_of_isWord isPlain_of_isBlank
    · rw [List.mem_singleton.1 hc]
      decide

/-- Nothing of the line up to the brace takes part in strings or comments, so the rest
has no comment even if it is read as a line of its own. -/
theorem strip_rest {l : List Char} {o : Opener} (h : match? (Comment.strip l) = some o) :
    Comment.strip o.rest = o.rest := by
  obtain ⟨head, hline, -, hplain⟩ := (reads_of_match? h).exists_head
  have hcut := Comment.cut_code l
  rw [show Comment.code l = _ from hline, List.append_cons, Comment.cut_plain_append hplain,
    Option.map_eq_none_iff] at hcut
  exact Comment.strip_of_cut_none hcut

theorem isWord_of_mem_name {l : List Char} {o : Opener} (h : match? l = some o) :
    ∀ c ∈ o.name.toList, Text.isWord c = true := by
  obtain ⟨-, name, -, -, -, -, hn, -, hname, -⟩ := reads_of_match? h
  rw [hname, String.toList_ofList]
  exact hn

end Opener
end SchemaDiagram

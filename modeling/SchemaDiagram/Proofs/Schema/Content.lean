/-
# The content of a written line

Whatever margin a line is written with, its code is its content, and a line with
nothing but a comment has no code. This holds of every content in which no string
and no comment begins and which has no blank at either end, and the headers,
fields, options and closing braces of a written schema are of this kind.

Key definitions: `Written.IsContent`, `Written.Row.content`.
Key theorems: `Quiet.append`, `Written.Margin.code_around`,
`Written.Filler.code_chars`, `Written.isContent_header`,
`Written.Declaration.isContent`.
-/
import SchemaDiagram.Proofs.Schema.Opener
import SchemaDiagram.Proofs.Schema.Written
import SchemaDiagram.Proofs.Text.Run

namespace SchemaDiagram

/-! ### Quiet texts -/

theorem quiet_nil : Quiet [] := ⟨by simp, by simp⟩

/-- A plain text in front of a quiet one. -/
theorem Quiet.plain_append {a b : List Char} (ha : ∀ c ∈ a, isPlain c = true) (hb : Quiet b) :
    Quiet (a ++ b) := by
  induction a with
  | nil => exact hb
  | cons c a ih =>
    obtain ⟨hq, hs, -⟩ := isPlain_iff.1 (ha c List.mem_cons_self)
    have h := ih fun d hd => ha d (List.mem_cons_of_mem _ hd)
    refine ⟨fun d hd => ?_, fun hi => ?_⟩
    · rcases List.mem_cons.1 hd with rfl | hd
      · exact hq
      · exact h.noQuote d hd
    · rcases List.infix_cons_iff.1 hi with hp | hi
      · exact hs (List.cons_prefix_cons.1 hp).1.symm
      · exact h.noSlashes hi

theorem quiet_of_plain {a : List Char} (ha : ∀ c ∈ a, isPlain c = true) : Quiet a := by
  have h := Quiet.plain_append ha quiet_nil
  rwa [List.append_nil] at h

/-- A quiet text may follow another if it does not begin with a slash. -/
theorem Quiet.append {a b : List Char} (ha : Quiet a) (hb : Quiet b)
    (h : ∀ c ∈ b.head?, c ≠ '/') : Quiet (a ++ b) := by
  refine ⟨fun c hc => (List.mem_append.1 hc).elim (ha.noQuote c) (hb.noQuote c), ?_⟩
  obtain ⟨-, ha⟩ := ha
  induction a with
  | nil => exact hb.noSlashes
  | cons c a ih =>
    intro hi
    rcases List.infix_cons_iff.1 hi with hp | hi
    · cases a with
      | nil =>
        obtain ⟨-, t, ht⟩ := List.cons_prefix_cons.1 hp
        exact h '/' (by rw [show b = _ from ht.symm]; rfl) rfl
      | cons d a =>
        obtain ⟨rfl, hp'⟩ := List.cons_prefix_cons.1 hp
        obtain ⟨rfl, -⟩ := List.cons_prefix_cons.1 hp'
        exact ha (List.prefix_append ['/', '/'] a).isInfix
    · exact ih (fun hi => ha (List.infix_cons hi)) hi

namespace Written

/-- No string and no comment begins in the text, it has no line feed and no blank
at either end. -/
structure IsContent (s : List Char) : Prop where
  quiet : Quiet s
  oneLine : '\n' ∉ s
  head : ∀ c ∈ s.head?, Text.isBlank c = false
  last : ∀ c ∈ s.getLast?, Text.isBlank c = false

/-! ### Margins -/

theorem IsContent.code_eq {s : List Char} (h : IsContent s) : Comment.code s = s :=
  Comment.code_eq_self h.quiet.noSlashes h.head h.last

/-- The code of a line is its content. -/
theorem Margin.code_around {s : List Char} (h : IsContent s) (m : Margin) :
    Comment.code (m.around s) = s := by
  unfold Margin.around
  split
  · rw [Comment.code_blank_append m.indent.isBlank, h.code_eq]
  · rw [Comment.code_blank_append m.indent.isBlank,
      Comment.code_append_comment h.quiet.noQuote h.quiet.noSlashes, h.code_eq]

theorem Margin.oneLine_around {s : List Char} (h : '\n' ∉ s) (m : Margin) : '\n' ∉ m.around s := by
  unfold Margin.around
  split
  · simp [m.indent.oneLine, h]
  · next r _ => simp [m.indent.oneLine, h, r.oneLine]

theorem Filler.code_chars (f : Filler) : Comment.code f.chars = [] := by
  unfold Filler.chars
  split
  · rw [← List.append_nil f.indent.chars, Comment.code_blank_append f.indent.isBlank]
    rfl
  · rw [Comment.code_blank_append f.indent.isBlank, Comment.code,
      Comment.strip_of_cut_some (Comment.cut_cons_of_comment rfl)]
    rfl

theorem Filler.oneLine (f : Filler) : '\n' ∉ f.chars := by
  unfold Filler.chars
  split
  · exact f.indent.oneLine
  · next r _ => simp [f.indent.oneLine, r.oneLine]

/-! ### Words, types and attributes -/

theorem Word.isPlain (w : Word) : ∀ c ∈ w.chars, isPlain c = true :=
  fun c hc => isPlain_of_isWord (w.isWord c hc)

theorem Word.notBlank (w : Word) : ∀ c ∈ w.chars, Text.isBlank c = false :=
  fun c hc => Text.isBlank_eq_false_of_isWord (w.isWord c hc)

theorem Word.not_mem (w : Word) {c : Char} (hc : Text.isWord c = false) : c ∉ w.chars :=
  fun hm => by simp [w.isWord c hm] at hc

theorem AttributeText.quiet (a : AttributeText) : Quiet a.chars := by
  unfold AttributeText.chars
  split
  · exact quiet_of_plain (List.forall_mem_cons.2 ⟨rfl, a.name.isPlain⟩)
  · next args _ =>
    rw [show '@' :: (a.name.chars ++ '(' :: (args.chars ++ [')'])) =
      ('@' :: a.name.chars ++ ['(']) ++ (args.chars ++ [')']) by simp]
    refine Quiet.plain_append ?_ (args.quiet.append (quiet_of_plain (List.all_eq_true.1 rfl)) (by simp))
    intro c hc
    simp only [List.cons_append, List.mem_cons, List.mem_append, List.not_mem_nil, or_false] at hc
    rcases hc with rfl | hc | rfl
    · rfl
    · exact a.name.isPlain c hc
    · rfl

theorem AttributeText.not_mem (a : AttributeText) {c : Char} (hw : Text.isWord c = false)
    (hc : c ∉ ['@', '(', ')']) (ha : ∀ args ∈ a.arguments, c ∉ args.chars) : c ∉ a.chars := by
  simp only [List.mem_cons, List.not_mem_nil, or_false, not_or] at hc
  have hn := a.name.not_mem hw
  unfold AttributeText.chars
  split
  · simp [hc.1, hn]
  · next args h => simp [hc, hn, ha args h]

theorem AttributeText.last (a : AttributeText) :
    ∀ c ∈ a.chars.getLast?, Text.isBlank c = false := by
  unfold AttributeText.chars
  split
  · intro c hc
    rcases List.mem_cons.1 (List.mem_of_getLast? hc) with rfl | hc
    · decide
    · exact a.name.notBlank c hc
  · next args _ =>
    rw [show '@' :: (a.name.chars ++ '(' :: (args.chars ++ [')'])) =
      ('@' :: a.name.chars ++ '(' :: args.chars) ++ [')'] by simp, List.getLast?_concat]
    simp only [Option.mem_some_iff, forall_eq']
    decide

/-! ### Declarations -/

theorem FieldText.head_tail (f : FieldText) : ∀ c ∈ f.tail.head?, c = ' ' := by
  unfold FieldText.tail
  cases f.attributes with
  | nil => simp
  | cons a as => simp [List.flatMap_cons]

theorem FieldText.not_mem (f : FieldText) {c : Char} (hw : Text.isWord c = false)
    (hc : c ∉ [' ', '@', '(', ')']) (ht : c ∉ f.type.chars)
    (ha : ∀ a ∈ f.attributes, ∀ args ∈ a.arguments, c ∉ args.chars) : c ∉ f.chars := by
  have htail : c ∉ f.tail := by
    intro hm
    obtain ⟨a, hmem, hm⟩ := List.mem_flatMap.1 hm
    rcases List.mem_cons.1 hm with rfl | hm
    · exact hc List.mem_cons_self
    · exact a.not_mem hw (fun h => hc (List.mem_cons_of_mem _ h)) (ha a hmem) hm
  have hs : c ≠ ' ' := fun h => hc (by simp [h])
  simp [FieldText.chars, f.name.not_mem hw, hs, ht, htail]

theorem FieldText.quiet_tail (f : FieldText) : Quiet f.tail := by
  unfold FieldText.tail
  induction f.attributes with
  | nil => exact quiet_nil
  | cons a as ih =>
    rw [List.flatMap_cons]
    refine (Quiet.plain_append (a := [' ']) (List.all_eq_true.1 rfl) a.quiet).append ih ?_
    cases as with
    | nil => simp
    | cons b bs => simp [List.flatMap_cons]

theorem FieldText.last_tail (f : FieldText) : ∀ c ∈ f.tail.getLast?, Text.isBlank c = false := by
  unfold FieldText.tail
  induction f.attributes with
  | nil => simp
  | cons a as ih =>
    have hne : a.chars ≠ [] := by
      unfold AttributeText.chars
      split <;> simp
    rw [List.flatMap_cons]
    refine Text.isBlank_getLast_append (fun _ => ?_) ih
    rw [show ' ' :: a.chars = [' '] ++ a.chars from rfl, List.getLast?_append_of_ne_nil _ hne]
    exact a.last

theorem FieldText.isContent (f : FieldText) : IsContent f.chars where
  quiet := by
    refine Quiet.plain_append f.name.isPlain (Quiet.plain_append (List.all_eq_true.1 rfl) ?_)
    refine f.type.quiet.append f.quiet_tail fun c hc => ?_
    rw [f.head_tail c hc]
    decide
  oneLine := f.not_mem (by decide) (by decide)
    (fun h => absurd (f.type.notBlank _ h) (by decide)) fun _ _ args _ => args.oneLine
  head c hc := Text.isBlank_eq_false_of_isWord
    (Text.head?_append_of_all f.name.isWord f.name.ne_nil c hc)
  last := by
    refine Text.isBlank_getLast_append
      (fun _ c hc => f.name.notBlank c (List.mem_of_getLast? hc)) ?_
    rw [List.getLast?_append_of_ne_nil _ (by simp [f.type.ne_nil])]
    exact Text.isBlank_getLast_append
      (fun _ c hc => f.type.notBlank c (List.mem_of_getLast? hc)) f.last_tail

theorem FieldText.braceless (f : FieldText) : Braceless f.chars :=
  ⟨f.not_mem (by decide) (by decide) f.type.braceless.1 fun _ _ args _ => args.braceless.1,
    f.not_mem (by decide) (by decide) f.type.braceless.2 fun _ _ args _ => args.braceless.2⟩

theorem OptionText.isContent (o : OptionText) : IsContent o.chars where
  quiet := o.quiet
  oneLine := o.oneLine
  head := by
    obtain ⟨t, ht⟩ := o.marked
    rw [← ht]
    exact Text.forall_mem_head?_cons (by decide) _
  last := o.trimmed

theorem Declaration.isContent (d : Declaration) : IsContent d.chars := by
  cases d with
  | field f => exact f.isContent
  | option o => exact o.isContent

theorem Declaration.braceless (d : Declaration) : Braceless d.chars := by
  cases d with
  | field f => exact f.braceless
  | option o => exact o.braceless

/-! ### Headers and closing lines -/

theorem ModelText.header_eq (m : ModelText) :
    m.header = "model ".toList ++ (m.name.chars ++ " \x7b".toList) := rfl

theorem isContent_header (m : ModelText) : IsContent m.header where
  quiet := by
    refine Quiet.plain_append (List.all_eq_true.1 rfl) (Quiet.plain_append m.name.isPlain ?_)
    exact quiet_of_plain (List.all_eq_true.1 rfl)
  oneLine := by
    have h := m.name.not_mem (c := '\n') (by decide)
    simp only [m.header_eq, List.mem_append, h, false_or]
    decide
  head := Text.forall_mem_head?_cons (by decide) _
  last := Opener.isBlank_getLast_header m.name.chars

theorem isContent_brace : IsContent ['}'] where
  quiet := quiet_of_plain (List.all_eq_true.1 rfl)
  oneLine := by decide
  head := Text.forall_mem_head?_cons (by decide) _
  last := Text.forall_mem_head?_cons (by decide) []

/-- The content of a row: nothing, or what it declares. -/
def Row.content : Row → List Char
  | .filler _ => []
  | .declaration _ d => d.chars

theorem Row.code_chars (r : Row) : Comment.code r.chars = r.content := by
  cases r with
  | filler f => exact f.code_chars
  | declaration m d => exact m.code_around d.isContent

theorem Row.oneLine (r : Row) : '\n' ∉ r.chars := by
  cases r with
  | filler f => exact f.oneLine
  | declaration m d => exact m.oneLine_around d.isContent.oneLine

theorem Row.braceless (r : Row) : Braceless r.content := by
  cases r with
  | filler f => exact ⟨List.not_mem_nil, List.not_mem_nil⟩
  | declaration m d => exact d.braceless

end Written
end SchemaDiagram

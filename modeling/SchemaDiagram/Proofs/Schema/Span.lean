/-
# Blocks where they stand

Read as a whole, the lines of a text are blocks with other lines between them.
A block begins with an opener line. It ends on that line, or it takes in the
lines up to the first at which no brace is left open, or up to the end of the
text. The reader, which goes from line to line, finds exactly these blocks
(`Scan.blocks_run`).

Key definitions: `Span`, `Span.inside`, `Span.beyond`, `Span.ofLines`,
`Span.block`.
Key theorems: `Scan.blocks_run`, `Span.exists_match?_opener`, `Span.ofLines_map`.
-/
import SchemaDiagram.Proofs.Schema.Opener
import SchemaDiagram.Schema.Scan

namespace SchemaDiagram

/-- A block that ends on its opener line, or an opener with the lines after it
that belong to the block. -/
inductive Span where
  | inline (opener : Opener)
  | spread (opener : Opener) (inner : List (List Char))
  deriving DecidableEq, Repr

namespace Span

def opener : Span → Opener
  | inline o => o
  | spread o _ => o

/-- The block ends on the line on which it begins. -/
def isInline : Span → Bool
  | inline _ => true
  | spread _ _ => false

/-- The block that stands there. -/
def block : Span → Block
  | inline o => ⟨o.kind, o.name, Scan.inlineBody o.kind (Text.beforeLast '}' o.rest)⟩
  | spread o inner => ⟨o.kind, o.name, Scan.firstLine o.rest ++ inner.map String.ofList⟩

/-- The span with each of its inner lines changed. -/
def mapLines (f : List Char → List Char) : Span → Span
  | inline o => inline o
  | spread o inner => spread o (inner.map f)

/-- The lines up to the first after which no brace is left open, if so many are
open before them. -/
def inside (depth : Int) : List (List Char) → List (List Char)
  | [] => []
  | l :: ls =>
    let left := depth + Opener.delta (Comment.strip l)
    if left ≤ 0 then [] else l :: inside left ls

/-- The lines after that one. -/
def beyond (depth : Int) : List (List Char) → List (List Char)
  | [] => []
  | l :: ls =>
    let left := depth + Opener.delta (Comment.strip l)
    if left ≤ 0 then ls else beyond left ls

theorem length_beyond_le (depth : Int) (ls : List (List Char)) :
    (beyond depth ls).length ≤ ls.length := by
  induction ls generalizing depth with
  | nil => exact Nat.le_refl _
  | cons l ls ih =>
    simp only [beyond, List.length_cons]
    split
    · omega
    · exact Nat.le_succ_of_le (ih _)

/-- A block ends where its closing line stands, if every line before that closes the
braces it opens. -/
theorem inside_of_closed {ls : List (List Char)}
    (h : ∀ l ∈ ls, Opener.delta (Comment.strip l) = 0) (rest : List (List Char)) :
    inside 1 (ls ++ ['}'] :: rest) = ls ∧ beyond 1 (ls ++ ['}'] :: rest) = rest := by
  induction ls with
  | nil => exact ⟨rfl, rfl⟩
  | cons l ls ih =>
    rw [List.forall_mem_cons] at h
    simp only [List.cons_append, inside, beyond, h.1, Int.add_zero,
      if_neg (show ¬ (1 : Int) ≤ 0 by decide)]
    exact ⟨congrArg _ (ih h.2).1, (ih h.2).2⟩

/-- The number of braces that an opener line leaves open. -/
def openAfter (o : Opener) : Int :=
  1 + Opener.delta o.rest

/-- The blocks in some lines. -/
def ofLines : List (List Char) → List Span
  | [] => []
  | l :: ls =>
    match Opener.match? (Comment.strip l) with
    | none => ofLines ls
    | some o =>
      if openAfter o ≤ 0 then inline o :: ofLines ls
      else spread o (inside (openAfter o) ls) :: ofLines (beyond (openAfter o) ls)
termination_by ls => ls.length
decreasing_by
  · simp
  · simp
  · have := length_beyond_le (openAfter o) ls
    simp only [List.length_cons]
    omega

theorem ofLines_nil : ofLines [] = [] := by
  rw [ofLines]

theorem ofLines_cons_of_none {l : List Char} {ls : List (List Char)}
    (h : Opener.match? (Comment.strip l) = none) : ofLines (l :: ls) = ofLines ls := by
  rw [ofLines, h]

theorem ofLines_cons_inline {l : List Char} {ls : List (List Char)} {o : Opener}
    (h : Opener.match? (Comment.strip l) = some o) (ho : openAfter o ≤ 0) :
    ofLines (l :: ls) = inline o :: ofLines ls := by
  rw [ofLines, h]
  exact if_pos ho

theorem ofLines_cons_spread {l : List Char} {ls : List (List Char)} {o : Opener}
    (h : Opener.match? (Comment.strip l) = some o) (ho : ¬ openAfter o ≤ 0) :
    ofLines (l :: ls) =
      spread o (inside (openAfter o) ls) :: ofLines (beyond (openAfter o) ls) := by
  rw [ofLines, h]
  exact if_neg ho

/-- Every block begins with a line that opens one. -/
theorem exists_match?_opener {ls : List (List Char)} :
    ∀ p ∈ ofLines ls, ∃ l, Opener.match? (Comment.strip l) = some p.opener := by
  fun_induction ofLines ls with
  | case1 => simp
  | case2 l ls h ih => exact ih
  | case3 l ls o h ho ih => exact List.forall_mem_cons.2 ⟨⟨l, h⟩, ih⟩
  | case4 l ls o h ho ih => exact List.forall_mem_cons.2 ⟨⟨l, h⟩, ih⟩

end Span

namespace Scan

/-- A block that is being read takes in the lines inside, and reading goes on
beyond them. -/
theorem blocks_run_some (closed : List Block) (b : OpenBlock) (ls : List (List Char)) :
    (run ⟨closed, some b⟩ ls).blocks =
      (run ⟨closed ++ [⟨b.kind, b.name, b.body ++ (Span.inside b.depth ls).map String.ofList⟩],
        none⟩ (Span.beyond b.depth ls)).blocks := by
  induction ls generalizing b with
  | nil => simp [Span.inside, Span.beyond, run, blocks, OpenBlock.close]
  | cons l ls ih =>
    have hrun : run ⟨closed, some b⟩ (l :: ls) = run (continued closed b l) ls := rfl
    rw [hrun, continued, Span.inside, Span.beyond]
    by_cases hd : b.depth + Opener.delta (Comment.strip l) ≤ 0
    · simp only [if_pos hd, OpenBlock.close, List.map_nil, List.append_nil]
    · simp only [if_neg hd, ih, List.map_cons, List.append_assoc, List.singleton_append]

/-- **The reader finds the blocks where they stand.** -/
theorem blocks_run (closed : List Block) (ls : List (List Char)) :
    (run ⟨closed, none⟩ ls).blocks = closed ++ (Span.ofLines ls).map Span.block := by
  fun_induction Span.ofLines ls generalizing closed with
  | case1 => simp [run, blocks]
  | case2 l ls h ih =>
    have hstep : step ⟨closed, none⟩ l = ⟨closed, none⟩ := by simp only [step, h]
    rw [run, List.foldl_cons, hstep]
    exact ih closed
  | case3 l ls o h ho ih =>
    have hstep : step ⟨closed, none⟩ l = ⟨closed ++ [(Span.inline o).block], none⟩ := by
      simp only [step, h, opened]
      exact if_pos ho
    rw [run, List.foldl_cons, hstep]
    refine (ih _).trans ?_
    rw [List.append_assoc, List.map_cons, List.singleton_append]
  | case4 l ls o h ho ih =>
    have hstep : step ⟨closed, none⟩ l =
        ⟨closed, some ⟨o.kind, o.name, firstLine o.rest, Span.openAfter o⟩⟩ := by
      simp only [step, h, opened]
      exact if_neg ho
    rw [run, List.foldl_cons, hstep]
    refine (blocks_run_some _ _ _).trans ((ih _).trans ?_)
    rw [List.append_assoc, List.map_cons, List.singleton_append]
    rfl

theorem blocks_ofText (text : List Char) :
    (ofText text).blocks =
      (Span.ofLines (Text.lines (Text.joinLineEnds text))).map Span.block :=
  (blocks_run [] _).trans (List.nil_append _)

end Scan

namespace Span

/-! ### Lines changed, code kept -/

variable {f : List Char → List Char}

theorem match?_strip_map (h : ∀ l, Comment.code (f l) = Comment.code l) (l : List Char) :
    Opener.match? (Comment.strip (f l)) = Opener.match? (Comment.strip l) :=
  Opener.match?_strip_congr (h l)

theorem delta_strip_map (h : ∀ l, Comment.code (f l) = Comment.code l) (l : List Char) :
    Opener.delta (Comment.strip (f l)) = Opener.delta (Comment.strip l) :=
  Opener.delta_strip_congr (h l)

theorem inside_map (h : ∀ l, Comment.code (f l) = Comment.code l) (depth : Int)
    (ls : List (List Char)) : inside depth (ls.map f) = (inside depth ls).map f := by
  induction ls generalizing depth with
  | nil => rfl
  | cons l ls ih =>
    simp only [List.map_cons, inside, delta_strip_map h, ih]
    split <;> rfl

theorem beyond_map (h : ∀ l, Comment.code (f l) = Comment.code l) (depth : Int)
    (ls : List (List Char)) : beyond depth (ls.map f) = (beyond depth ls).map f := by
  induction ls generalizing depth with
  | nil => rfl
  | cons l ls ih =>
    simp only [List.map_cons, beyond, delta_strip_map h, ih]
    split <;> rfl

/-- Where blocks stand can be told from the code of the lines. -/
theorem ofLines_map (h : ∀ l, Comment.code (f l) = Comment.code l) (ls : List (List Char)) :
    ofLines (ls.map f) = (ofLines ls).map (mapLines f) := by
  fun_induction ofLines ls with
  | case1 => exact ofLines_nil
  | case2 l ls hl ih =>
    rw [List.map_cons, ofLines_cons_of_none ((match?_strip_map h l).trans hl), ih]
  | case3 l ls o hl ho ih =>
    rw [List.map_cons, ofLines_cons_inline ((match?_strip_map h l).trans hl) ho, ih]
    rfl
  | case4 l ls o hl ho ih =>
    rw [List.map_cons, ofLines_cons_spread ((match?_strip_map h l).trans hl) ho, inside_map h,
      beyond_map h, ih]
    rfl

end Span
end SchemaDiagram

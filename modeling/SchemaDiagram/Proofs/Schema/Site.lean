/-
# The lines of a block

The blocks of a text can be told from the numbers of its lines alone. A block opens
on the first opener line after the block before it. It closes on the first line, its
own included, after which none of its braces is open, and without such a line it goes
to the end of the text. Its body is what stands in between, as it was written; a
block that closes on its opener line is cut at the last closing brace.

Key definitions: `Site`, `Site.leftOpen`, `Site.Ends`, `Site.block`, `Laid`.
Key theorems: `Span.inside_beyond`, `Laid.unique`, `Laid.apart`,
`Scan.blocks_ofText_laid`.
-/
import Mathlib.Algebra.Ring.Int.Defs
import SchemaDiagram.Proofs.Schema.Span
import SchemaDiagram.Proofs.Text.Lines
import SchemaDiagram.Proofs.Text.Trim

namespace SchemaDiagram

/-- Where a block stands: the line on which it opens, the opener there, and the line
on which it closes, if there is one. -/
structure Site where
  first : Nat
  opener : Opener
  last : Option Nat
  deriving DecidableEq, Repr

namespace Site

/-- The opener on a line, if it opens a block. -/
def opener? (L : List (List Char)) (i : Nat) : Option Opener :=
  L[i]?.bind fun l => Opener.match? (Comment.strip l)

/-- The lines after one line and before another. -/
def between (L : List (List Char)) (i j : Nat) : List (List Char) :=
  (L.take j).drop (i + 1)

/-- The sum of the braces that some lines leave open. -/
def delta (ls : List (List Char)) : Int :=
  (ls.map fun l => Opener.delta (Comment.strip l)).sum

/-- The number of braces of the block that are open after line `i`: its own, those on the
rest of the opener line and those on the lines after it. -/
def leftOpen (L : List (List Char)) (s : Site) (i : Nat) : Int :=
  1 + ((s.opener.rest.count '{' : Int) - s.opener.rest.count '}') +
    delta (between L s.first (i + 1))

/-- The block closes on the first line after which none of its braces is open. -/
def Ends (L : List (List Char)) (s : Site) : Prop :=
  match s.last with
  | some c => s.first ≤ c ∧ c < L.length ∧ s.leftOpen L c ≤ 0 ∧
      ∀ i, s.first ≤ i → i < c → 0 < s.leftOpen L i
  | none => ∀ i, s.first ≤ i → i < L.length → 0 < s.leftOpen L i

/-- The line after the block. -/
def next (L : List (List Char)) (s : Site) : Nat :=
  match s.last with
  | some c => c + 1
  | none => L.length

/-- The block that stands there. If it goes over several lines, its body is the rest of the
opener line, unless that is blank, and the lines in between. -/
def block (L : List (List Char)) (s : Site) : Block :=
  ⟨s.opener.kind, s.opener.name,
    if s.last = some s.first then
      Scan.inlineBody s.opener.kind (Text.beforeLast '}' s.opener.rest)
    else
      (if s.opener.rest.all Text.isBlank then [] else [String.ofList s.opener.rest]) ++
        (between L s.first (s.last.getD L.length)).map String.ofList⟩

end Site

/-- The blocks from line `k` on: each opens on the first opener line after the one
before it. -/
inductive Laid (L : List (List Char)) : Nat → List Site → Prop
  | nil {k : Nat} (h : ∀ i, k ≤ i → Site.opener? L i = none) : Laid L k []
  | cons {k : Nat} {s : Site} {ss : List Site} (hk : k ≤ s.first)
    (hskip : ∀ i, k ≤ i → i < s.first → Site.opener? L i = none)
    (hopen : Site.opener? L s.first = some s.opener) (hends : s.Ends L)
    (hrest : Laid L (s.next L) ss) : Laid L k (s :: ss)

variable {L : List (List Char)}

/-! ### The first line without open braces -/

/-- The lines inside are those up to the first at which the sum of the braces falls
to zero, and those beyond come after it. -/
theorem Span.inside_beyond (depth : Int) (ls : List (List Char)) :
    (∃ j < ls.length, depth + Site.delta (ls.take (j + 1)) ≤ 0 ∧
        (∀ i < j, 0 < depth + Site.delta (ls.take (i + 1))) ∧
        inside depth ls = ls.take j ∧ beyond depth ls = ls.drop (j + 1)) ∨
      ((∀ i < ls.length, 0 < depth + Site.delta (ls.take (i + 1))) ∧
        inside depth ls = ls ∧ beyond depth ls = []) := by
  induction ls generalizing depth with
  | nil => exact .inr ⟨by simp, rfl, rfl⟩
  | cons l ls ih =>
    have hsum : ∀ i, depth + Site.delta ((l :: ls).take (i + 1)) =
        depth + Opener.delta (Comment.strip l) + Site.delta (ls.take i) := by
      intro i
      simp [Site.delta, Int.add_assoc]
    rw [inside, beyond]
    by_cases hd : depth + Opener.delta (Comment.strip l) ≤ 0
    · refine .inl ⟨0, by simp, ?_, by simp, if_pos hd, if_pos hd⟩
      rw [hsum]
      simpa [Site.delta] using hd
    · rw [if_neg hd, if_neg hd]
      have hzero : 0 < depth + Site.delta ((l :: ls).take 1) := by
        rw [hsum]
        simpa [Site.delta] using hd
      rcases ih (depth + Opener.delta (Comment.strip l)) with
        ⟨j, hj, hle, hpos, hin, hout⟩ | ⟨hpos, hin, hout⟩
      · refine .inl ⟨j + 1, Nat.succ_lt_succ hj, ?_, fun i hi => ?_, ?_, ?_⟩
        · rw [hsum]
          exact hle
        · cases i with
          | zero => exact hzero
          | succ i =>
            rw [hsum]
            exact hpos i (Nat.lt_of_succ_lt_succ hi)
        · rw [hin, List.take_succ_cons]
        · rw [hout, List.drop_succ_cons]
      · refine .inr ⟨fun i hi => ?_, by rw [hin], hout⟩
        cases i with
        | zero => exact hzero
        | succ i =>
          rw [hsum]
          exact hpos i (Nat.lt_of_succ_lt_succ hi)

namespace Site

theorem opener?_of_drop {k : Nat} {l : List Char} {ls : List (List Char)} (h : L.drop k = l :: ls) :
    opener? L k = Opener.match? (Comment.strip l) := by
  rw [opener?, ← List.head?_drop, h]
  rfl

theorem opener?_of_length_le {i : Nat} (h : L.length ≤ i) : opener? L i = none := by
  rw [opener?, List.getElem?_eq_none h]
  rfl

theorem lt_length_of_opener? {i : Nat} {o : Opener} (h : opener? L i = some o) : i < L.length := by
  by_contra hi
  rw [opener?_of_length_le (Nat.not_lt.1 hi)] at h
  cases h

theorem between_of_drop {k : Nat} {ls : List (List Char)} (h : L.drop (k + 1) = ls) (j : Nat) :
    between L k (k + 1 + j) = ls.take j := by
  rw [between, List.drop_take, h, Nat.add_sub_cancel_left]

/-- After the lines that follow the opener so many braces are open. -/
theorem leftOpen_of_drop {s : Site} {ls : List (List Char)} (h : L.drop (s.first + 1) = ls)
    (j : Nat) : s.leftOpen L (s.first + j) = Span.openAfter s.opener + delta (ls.take j) := by
  rw [leftOpen, Nat.add_right_comm, between_of_drop h]
  rfl

theorem leftOpen_first (s : Site) : s.leftOpen L s.first = Span.openAfter s.opener :=
  (leftOpen_of_drop rfl 0).trans (by simp [delta])

end Site

theorem Scan.firstLine_eq (rest : List Char) :
    firstLine rest = if rest.all Text.isBlank then [] else [String.ofList rest] := by
  simp only [firstLine, List.isEmpty_iff, Text.trim_eq_nil_iff, List.all_eq_true]

namespace Laid

variable {k : Nat} {ss ts : List Site}

theorem of_length_le (h : L.length ≤ k) : Laid L k [] :=
  .nil fun _ hi => Site.opener?_of_length_le (h.trans hi)

/-- A line that opens no block is passed over. -/
theorem of_succ (h : Site.opener? L k = none) (hss : Laid L (k + 1) ss) : Laid L k ss := by
  have hskip : ∀ {i}, k ≤ i → Site.opener? L i = none ∨ k + 1 ≤ i := fun hi =>
    (Nat.eq_or_lt_of_le hi).imp (fun hki => by rwa [← hki]) id
  cases hss with
  | nil hnone => exact .nil fun i hi => (hskip hi).elim id (hnone i)
  | cons hk hbefore hopen hends hrest =>
    exact .cons (Nat.le_of_succ_le hk)
      (fun i hi hlt => (hskip hi).elim id fun hi => hbefore i hi hlt) hopen hends hrest

/-! ### There is one way to lay out blocks -/

theorem eq_of_ends {s t : Site} (hs : s.Ends L) (ht : t.Ends L) (hfirst : s.first = t.first)
    (hopener : s.opener = t.opener) : s = t := by
  obtain ⟨first, opener, slast⟩ := s
  obtain ⟨_, _, tlast⟩ := t
  cases hfirst
  cases hopener
  -- how many braces are open does not depend on where the block closes
  cases slast with
  | none =>
    cases tlast with
    | none => rfl
    | some d =>
      obtain ⟨hle, hlt, hclosed, -⟩ := ht
      exact absurd (hs d hle hlt) (Int.not_lt.2 hclosed)
  | some c =>
    obtain ⟨hcle, hclt, hcclosed, hcopen⟩ := hs
    cases tlast with
    | none => exact absurd (ht c hcle hclt) (Int.not_lt.2 hcclosed)
    | some d =>
      obtain ⟨hdle, hdlt, hdclosed, hdopen⟩ := ht
      have hcd : ¬ c < d := fun h => absurd (hdopen c hcle h) (Int.not_lt.2 hcclosed)
      have hdc : ¬ d < c := fun h => absurd (hcopen d hdle h) (Int.not_lt.2 hdclosed)
      obtain rfl : c = d := by omega
      rfl

theorem unique (hss : Laid L k ss) (hts : Laid L k ts) : ss = ts := by
  induction hss generalizing ts with
  | nil h =>
    cases hts with
    | nil _ => rfl
    | cons hk _ hopen => rw [h _ hk] at hopen; cases hopen
  | @cons k s ss hk hskip hopen hends hrest ih =>
    cases hts with
    | nil h => rw [h _ hk] at hopen; cases hopen
    | @cons _ t ts hk' hskip' hopen' hends' hrest' =>
      have hst : ¬ s.first < t.first := fun h => by
        rw [hskip' _ hk h] at hopen
        cases hopen
      have hts : ¬ t.first < s.first := fun h => by
        rw [hskip _ hk' h] at hopen'
        cases hopen'
      have hfirst : s.first = t.first := by omega
      have hopener : s.opener = t.opener := by
        rw [hfirst, hopen'] at hopen
        exact (Option.some.inj hopen).symm
      obtain rfl := eq_of_ends hends hends' hfirst hopener
      rw [ih hrest']

/-! ### Blocks do not overlap -/

theorem first_lt_next {s : Site} (hopen : Site.opener? L s.first = some s.opener)
    (hends : s.Ends L) : s.first < s.next L := by
  unfold Site.Ends at hends
  unfold Site.next
  split at hends
  · exact Nat.lt_succ_of_le hends.1
  · exact Site.lt_length_of_opener? hopen

theorem le_first (h : Laid L k ss) : ∀ s ∈ ss, k ≤ s.first ∧ s.first < L.length := by
  induction h with
  | nil _ => simp
  | @cons k s ss hk _ hopen hends _ ih =>
    refine List.forall_mem_cons.2 ⟨⟨hk, Site.lt_length_of_opener? hopen⟩, fun t ht => ?_⟩
    have hnext := first_lt_next hopen hends
    obtain ⟨hle, hlt⟩ := ih t ht
    exact ⟨by omega, hlt⟩

theorem ends (h : Laid L k ss) : ∀ s ∈ ss, s.Ends L := by
  induction h with
  | nil _ => simp
  | cons _ _ _ hends _ ih => exact List.forall_mem_cons.2 ⟨hends, ih⟩

/-- A block closes before the next one opens. -/
theorem apart (h : Laid L k ss) : ss.Pairwise fun s t => ∃ c, s.last = some c ∧ c < t.first := by
  induction h with
  | nil _ => exact .nil
  | @cons k s ss _ _ _ _ hrest ih =>
    refine .cons (fun t ht => ?_) ih
    obtain ⟨hle, hlt⟩ := hrest.le_first t ht
    unfold Site.next at hle
    split at hle
    · next c hc => exact ⟨c, hc, hle⟩
    · omega

/-! ### The blocks that the reader finds are laid out so -/

/-- A block that closes on its opener line has a brace there to be cut at. -/
theorem brace_mem_rest {s : Site} (hends : s.Ends L) (hs : s.last = some s.first) :
    '}' ∈ s.opener.rest := by
  rw [Site.Ends, hs] at hends
  have hle := hends.2.2.1
  rw [Site.leftOpen_first, Span.openAfter, Opener.delta] at hle
  exact List.count_pos_iff.1 (by omega)

theorem ends_inline {l : List Char} {ls : List (List Char)} {o : Opener}
    (hdrop : L.drop k = l :: ls) (ho : Span.openAfter o ≤ 0) : Site.Ends L ⟨k, o, some k⟩ := by
  have hk : k < L.length := by
    rw [← List.drop_eq_nil_iff.not.trans Nat.not_le, hdrop]
    simp
  exact ⟨Nat.le_refl k, hk, (Site.leftOpen_first _).trans_le ho,
    fun i hi hlt => absurd hlt (Nat.not_lt.2 hi)⟩

/-- A block stays open while its lines leave braces open. -/
theorem leftOpen_pos {s : Site} {ls : List (List Char)} (hdrop : L.drop (s.first + 1) = ls)
    (ho : 0 < Span.openAfter s.opener) {n : Nat}
    (hpos : ∀ i < n, 0 < Span.openAfter s.opener + Site.delta (ls.take (i + 1))) {i : Nat}
    (hi : s.first ≤ i) (hlt : i < s.first + 1 + n) : 0 < s.leftOpen L i := by
  obtain ⟨m, rfl⟩ := Nat.exists_eq_add_of_le hi
  cases m with
  | zero => rwa [Nat.add_zero, Site.leftOpen_first]
  | succ m =>
    rw [Site.leftOpen_of_drop hdrop]
    exact hpos m (by omega)

theorem block_spread {o : Opener} {last : Option Nat} {inner : List (List Char)}
    (hlast : last ≠ some k) (hinner : Site.between L k (last.getD L.length) = inner) :
    Site.block L ⟨k, o, last⟩ = (Span.spread o inner).block := by
  rw [Site.block, if_neg hlast, hinner, Span.block, Scan.firstLine_eq]

/-- An opener line that leaves braces open begins a block that takes in the lines
inside, and what comes next stands beyond. -/
theorem exists_spread {ls : List (List Char)} {o : Opener} (hdrop : L.drop (k + 1) = ls)
    (ho : 0 < Span.openAfter o) (hk : k < L.length) :
    ∃ last, Site.Ends L ⟨k, o, last⟩ ∧
      L.drop (Site.next L ⟨k, o, last⟩) = Span.beyond (Span.openAfter o) ls ∧
      Site.block L ⟨k, o, last⟩ = (Span.spread o (Span.inside (Span.openAfter o) ls)).block := by
  have hlength : L.length = k + 1 + ls.length := by
    rw [← hdrop, List.length_drop]
    omega
  rcases Span.inside_beyond (Span.openAfter o) ls with
    ⟨j, hj, hle, hpos, hin, hout⟩ | ⟨hpos, hin, hout⟩
  · refine ⟨some (k + 1 + j), ⟨by dsimp only; omega, by omega, ?_, fun i hi hlt => ?_⟩, ?_, ?_⟩
    · rw [Nat.add_assoc, Nat.add_comm 1 j]
      exact (Site.leftOpen_of_drop (s := ⟨k, o, _⟩) hdrop (j + 1)).trans_le hle
    · exact leftOpen_pos (s := ⟨k, o, _⟩) hdrop ho hpos hi hlt
    · rw [hout, ← hdrop, List.drop_drop]
      rfl
    · refine block_spread (by simp only [ne_eq, Option.some.injEq]; omega) ?_
      rw [hin]
      exact Site.between_of_drop hdrop j
  · refine ⟨none, fun i hi hlt => ?_, ?_, block_spread (by simp) ?_⟩
    · exact leftOpen_pos (s := ⟨k, o, _⟩) hdrop ho hpos hi (hlength ▸ hlt)
    · rw [hout]
      exact List.drop_length
    · rw [hin, Option.getD_none, hlength, Site.between_of_drop hdrop, List.take_length]

theorem exists_laid {ls : List (List Char)} (hdrop : L.drop k = ls) :
    ∃ ss, Laid L k ss ∧ (Span.ofLines ls).map Span.block = ss.map (Site.block L) := by
  fun_induction Span.ofLines ls generalizing k with
  | case1 => exact ⟨[], of_length_le (List.drop_eq_nil_iff.1 hdrop), rfl⟩
  | case2 l ls h ih =>
    have htail : L.drop (k + 1) = ls := by rw [← List.tail_drop, hdrop, List.tail_cons]
    obtain ⟨ss, hss, hblocks⟩ := ih htail
    exact ⟨ss, of_succ ((Site.opener?_of_drop hdrop).trans h) hss, hblocks⟩
  | case3 l ls o h ho ih =>
    have htail : L.drop (k + 1) = ls := by rw [← List.tail_drop, hdrop, List.tail_cons]
    have hopen := (Site.opener?_of_drop hdrop).trans h
    obtain ⟨ss, hss, hblocks⟩ := ih htail
    refine ⟨⟨k, o, some k⟩ :: ss, ?_, ?_⟩
    · exact .cons (Nat.le_refl k) (fun i hi hlt => absurd hlt (Nat.not_lt.2 hi)) hopen
        (ends_inline hdrop ho) hss
    · rw [List.map_cons, List.map_cons, hblocks, Site.block, if_pos rfl, Span.block]
  | case4 l ls o h ho ih =>
    have htail : L.drop (k + 1) = ls := by rw [← List.tail_drop, hdrop, List.tail_cons]
    have hopen := (Site.opener?_of_drop hdrop).trans h
    obtain ⟨last, hends, hnext, hblock⟩ :=
      exists_spread htail (Int.not_le.1 ho) (Site.lt_length_of_opener? hopen)
    obtain ⟨ss, hss, hblocks⟩ := ih hnext
    refine ⟨⟨k, o, last⟩ :: ss, ?_, ?_⟩
    · exact .cons (Nat.le_refl k) (fun i hi hlt => absurd hlt (Nat.not_lt.2 hi)) hopen hends hss
    · rw [List.map_cons, List.map_cons, hblocks, hblock]

end Laid

/-- **The blocks of a text lie where its lines say.** There is one way to lay out
blocks over the lines, the blocks found are those that lie there, each closes before
the next one opens, and one that closes on its opener line is cut at the last closing
brace of that line. -/
theorem Scan.blocks_ofText_laid (text : List Char) :
    let L := Text.lines (Text.joinLineEnds text)
    ∃ sites, (∀ ss, Laid L 0 ss ↔ ss = sites) ∧
      (ofText text).blocks = sites.map (Site.block L) ∧
      (sites.Pairwise fun s t => ∃ c, s.last = some c ∧ c < t.first) ∧
      ∀ s ∈ sites, s.last = some s.first → ∃ after, '}' ∉ after ∧
        s.opener.rest = Text.beforeLast '}' s.opener.rest ++ '}' :: after := by
  intro L
  obtain ⟨sites, hsites, hblocks⟩ := Laid.exists_laid (L := L) (k := 0) rfl
  refine ⟨sites, fun ss => ⟨fun hss => hss.unique hsites, fun h => h ▸ hsites⟩,
    (blocks_ofText text).trans hblocks, hsites.apart, fun s hs hlast => ?_⟩
  exact Text.exists_eq_beforeLast (Laid.brace_mem_rest (hsites.ends s hs) hlast)

end SchemaDiagram

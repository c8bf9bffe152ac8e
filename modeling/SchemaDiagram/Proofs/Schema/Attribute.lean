/-
# Attributes are found where they stand

The reader of attributes goes turn by turn, looks ahead and goes back to the end of a
word if a parenthesis is not closed. What it finds are the attributes of the grammar:
from left to right, each as early as it can be, then as long as it can be, and behind
the one before it. The turns that it makes never fail.

Key definitions: `Attribute.IsAttribute`, `Attribute.Stands`, `Attribute.Found`,
`Attribute.Reached`.
Key theorems: `Attribute.scan_skip`, `Attribute.scan_bare`, `Attribute.scan_called`,
`Attribute.Found.unique`, `Attribute.found_scan`, `Attribute.scan_finds`.
-/
import Mathlib.Data.List.TakeWhile
import SchemaDiagram.Proofs.Text.Run
import SchemaDiagram.Schema.Attribute

namespace SchemaDiagram
namespace Attribute

/-! ### What the turns add up to -/

theorem read_between (s : List Char) : read .between s = some (scan s) :=
  (Option.some_get _).symm

theorem read_cons {p : Place} {c : Char} {s : List Char} {t : Turn} (h : turn p c s = some t) :
    read p (c :: s) = (read t.place t.rest).map (t.found ++ ·) := by
  rw [read]
  split
  · next hnone =>
    rw [h] at hnone
    cases hnone
  · next t' ht =>
    obtain rfl : t = t' := Option.some.inj (h.symm.trans ht)
    rfl

theorem scan_nil : scan [] = [] := by
  have h := read_between []
  rw [read] at h
  exact (Option.some.inj h).symm

/-- What begins no attribute is passed over. -/
theorem scan_skip {c : Char} {s : List Char} (h : ¬ (c = '@' ∧ s.head?.any Text.isWord = true)) :
    scan (c :: s) = scan s := by
  have hturn : turn .between c s = some ⟨[], .between, s⟩ := by simp only [turn, if_neg h]
  have hread := read_cons hturn
  rw [read_between, read_between] at hread
  exact Option.some.inj hread

theorem scan_cons_of_ne {c : Char} (hc : c ≠ '@') (s : List Char) : scan (c :: s) = scan s :=
  scan_skip fun h => hc h.1

section Word

variable {w s : List Char}

/-- After an at sign the reader takes a word and looks at what follows it. -/
theorem read_at_word (hne : w ≠ []) (hw : ∀ c ∈ w, Text.isWord c = true)
    (hs : ∀ c ∈ s.head?, Text.isWord c = false) :
    read .between ('@' :: (w ++ s)) =
      if s.head? = some '(' ∧ ')' ∈ s then read (.arguments ('@' :: w)) s
      else some (('@' :: w) :: scan s) := by
  obtain ⟨c, v, rfl⟩ := List.exists_cons_of_ne_nil hne
  have hfirst : turn .between '@' (c :: v ++ s) = some ⟨[], .word ['@'], c :: v ++ s⟩ :=
    if_pos ⟨rfl, hw c List.mem_cons_self⟩
  have htake : (c :: (v ++ s)).takeWhile Text.isWord = c :: v := Text.takeWhile_append_stop hw hs
  have hdrop : (c :: (v ++ s)).dropWhile Text.isWord = s := Text.dropWhile_append_stop hw hs
  rw [read_cons hfirst, List.cons_append]
  by_cases hclosed : s.head? = some '(' ∧ ')' ∈ s
  · have hsecond : turn (.word ['@']) c (v ++ s) = some ⟨[], .arguments ('@' :: c :: v), s⟩ := by
      simp only [turn, htake, hdrop, if_pos hclosed, List.singleton_append]
    rw [read_cons hsecond, if_pos hclosed]
    simp
  · have hsecond : turn (.word ['@']) c (v ++ s) = some ⟨['@' :: c :: v], .between, s⟩ := by
      simp only [turn, htake, hdrop, if_neg hclosed, List.singleton_append]
    rw [read_cons hsecond, if_neg hclosed, read_between]
    simp

/-- An at sign and a word are an attribute if no closed parenthesis follows. -/
theorem scan_bare (hne : w ≠ []) (hw : ∀ c ∈ w, Text.isWord c = true)
    (hs : ∀ c ∈ s.head?, Text.isWord c = false) (hopen : ¬ (s.head? = some '(' ∧ ')' ∈ s)) :
    scan ('@' :: (w ++ s)) = ('@' :: w) :: scan s := by
  have hread := read_at_word hne hw hs
  rw [if_neg hopen, read_between] at hread
  exact Option.some.inj hread

theorem closing?_append {a : List Char} (ha : ')' ∉ a) (s : List Char) :
    closing? (a ++ ')' :: s) = some (a ++ [')'], s) := by
  induction a with
  | nil => rfl
  | cons c a ih =>
    rw [List.mem_cons, not_or] at ha
    rw [List.cons_append, closing?, if_neg (Ne.symm ha.1), ih ha.2]
    rfl

/-- Arguments run to the first closing parenthesis. -/
theorem scan_called {args : List Char} (hne : w ≠ []) (hw : ∀ c ∈ w, Text.isWord c = true)
    (hargs : ')' ∉ args) (s : List Char) :
    scan ('@' :: (w ++ '(' :: (args ++ ')' :: s))) =
      ('@' :: (w ++ '(' :: (args ++ [')']))) :: scan s := by
  have hparen : ∀ c ∈ ('(' :: (args ++ ')' :: s)).head?, Text.isWord c = false :=
    Text.forall_mem_head?_cons (by decide) _
  have hclosing : closing? ('(' :: (args ++ ')' :: s)) = some ('(' :: (args ++ [')']), s) :=
    closing?_append (a := '(' :: args) (by simpa using hargs) s
  have hthird : turn (.arguments ('@' :: w)) '(' (args ++ ')' :: s) =
      some ⟨['@' :: (w ++ '(' :: (args ++ [')']))], .between, s⟩ := by
    simp only [turn, hclosing, Option.map_some, List.cons_append]
  have hread := read_at_word hne hw hparen
  rw [if_pos (by simp), read_cons hthird, read_between, read_between] at hread
  exact Option.some.inj hread

end Word

/-! ### Cutting a text where the reader does -/

theorem exists_word {s : List Char} (h : s.head?.any Text.isWord = true) :
    ∃ w r, s = w ++ r ∧ w ≠ [] ∧ (∀ c ∈ w, Text.isWord c = true) ∧
      ∀ c ∈ r.head?, Text.isWord c = false := by
  refine ⟨s.takeWhile Text.isWord, s.dropWhile Text.isWord,
    List.takeWhile_append_dropWhile.symm, ?_, fun _ => List.mem_takeWhile_imp, fun c hc => ?_⟩
  · cases s with
    | nil => cases h
    | cons c s =>
      have hc : Text.isWord c = true := h
      rw [List.takeWhile_cons_of_pos hc]
      exact List.cons_ne_nil _ _
  · have hstop := List.head?_dropWhile_not Text.isWord s
    rw [Option.mem_def] at hc
    rw [hc] at hstop
    exact Bool.eq_false_iff.2 fun hw => by simp [hw] at hstop

/-- A parenthesis that is opened and closed has arguments in it. -/
theorem exists_arguments {s : List Char} (h : s.head? = some '(' ∧ ')' ∈ s) :
    ∃ args t, ')' ∉ args ∧ s = '(' :: (args ++ ')' :: t) := by
  obtain ⟨hhead, hmem⟩ := h
  obtain ⟨r, rfl⟩ := List.head?_eq_some_iff.1 hhead
  have hr : ')' ∈ r := (List.mem_cons.1 hmem).resolve_left (by decide)
  obtain ⟨args, t, rfl, hargs⟩ := List.eq_append_cons_of_mem hr
  exact ⟨args, t, hargs, rfl⟩

/-! ### The grammar -/

/-- An at sign and a word, perhaps with arguments directly behind it: parentheses
around any text without a closing one. -/
inductive IsAttribute : List Char → Prop
  | bare {w : List Char} (hne : w ≠ []) (hw : ∀ c ∈ w, Text.isWord c = true) :
    IsAttribute ('@' :: w)
  | called {w args : List Char} (hne : w ≠ []) (hw : ∀ c ∈ w, Text.isWord c = true)
    (hargs : ')' ∉ args) : IsAttribute ('@' :: (w ++ '(' :: (args ++ [')'])))

/-- The attribute stands in the text, behind `p`. -/
def Stands (p a s : List Char) : Prop :=
  IsAttribute a ∧ ∃ t, s = p ++ (a ++ t)

/-- The attributes in a text from left to right: the first is one that begins as early
as any and is the longest that stands there, and the others are found behind it. -/
inductive Found : List Char → List (List Char) → Prop
  | nil {s : List Char} (h : ∀ p a, ¬ Stands p a s) : Found s []
  | cons {s p a t : List Char} {as : List (List Char)} (hs : s = p ++ (a ++ t))
    (ha : IsAttribute a) (first : ∀ q b, Stands q b s → p.length ≤ q.length)
    (longest : ∀ b, Stands p b s → b.length ≤ a.length) (rest : Found t as) :
    Found s (a :: as)

/-- An attribute begins with an at sign and a word character. -/
theorem IsAttribute.exists_head {a : List Char} (h : IsAttribute a) :
    ∃ c v, a = '@' :: c :: v ∧ Text.isWord c = true := by
  cases h with
  | bare hne hw =>
    obtain ⟨c, v, rfl⟩ := List.exists_cons_of_ne_nil hne
    exact ⟨c, v, rfl, hw c List.mem_cons_self⟩
  | called hne hw _ =>
    obtain ⟨c, v, rfl⟩ := List.exists_cons_of_ne_nil hne
    exact ⟨c, _, rfl, hw c List.mem_cons_self⟩

theorem Stands.head {a s : List Char} {c : Char} (h : Stands [] a (c :: s)) :
    c = '@' ∧ s.head?.any Text.isWord = true := by
  obtain ⟨ha, t, hs⟩ := h
  obtain ⟨d, v, rfl, hd⟩ := ha.exists_head
  obtain ⟨rfl, rfl⟩ := List.cons.inj hs
  exact ⟨rfl, hd⟩

theorem stands_cons_iff {p a s : List Char} {c d : Char} :
    Stands (d :: p) a (c :: s) ↔ c = d ∧ Stands p a s := by
  simp only [Stands, List.cons_append, List.cons.injEq, exists_and_left, and_left_comm]

theorem Found.unique {s : List Char} {as bs : List (List Char)} (h : Found s as)
    (h' : Found s bs) : as = bs := by
  induction h generalizing bs with
  | nil hnone =>
    cases h' with
    | nil _ => rfl
    | cons hs ha _ _ _ => exact absurd ⟨ha, _, hs⟩ (hnone _ _)
  | @cons s p a t as hs ha first longest _ ih =>
    cases h' with
    | nil hnone => exact absurd ⟨ha, t, hs⟩ (hnone p a)
    | @cons _ q b u bs hs' hb first' longest' rest' =>
      have hplaces : p.length = q.length :=
        Nat.le_antisymm (first q b ⟨hb, u, hs'⟩) (first' p a ⟨ha, t, hs⟩)
      obtain ⟨rfl, hat⟩ := List.append_inj (hs.symm.trans hs') hplaces
      have hlengths : a.length = b.length :=
        Nat.le_antisymm (longest' a ⟨ha, t, hs⟩) (longest b ⟨hb, u, hs'⟩)
      obtain ⟨rfl, rfl⟩ := List.append_inj hat hlengths
      rw [ih rest']

/-- What begins no attribute is passed over in the grammar too. -/
theorem Found.skip {c : Char} {s : List Char} {as : List (List Char)}
    (h : ¬ (c = '@' ∧ s.head?.any Text.isWord = true)) (hf : Found s as) : Found (c :: s) as := by
  cases hf with
  | nil hnone =>
    refine .nil fun p a hst => ?_
    cases p with
    | nil => exact h hst.head
    | cons d p => exact hnone p a (stands_cons_iff.1 hst).2
  | @cons _ p a t as hs ha first longest rest =>
    refine .cons (p := c :: p) (by rw [hs]; rfl) ha (fun q b hst => ?_) (fun b hst => ?_) rest
    · cases q with
      | nil => exact absurd hst.head h
      | cons d q => exact Nat.succ_le_succ (first q b (stands_cons_iff.1 hst).2)
    · exact longest b (stands_cons_iff.1 hst).2

section Word

variable {w s : List Char}

/-- An attribute that stands in front of a word is no longer than the word, or it takes
in the whole word and the arguments behind it. -/
theorem Stands.at_word {b : List Char} (h : Stands [] b ('@' :: (w ++ s)))
    (hw : ∀ c ∈ w, Text.isWord c = true) (hs : ∀ c ∈ s.head?, Text.isWord c = false) :
    b.length ≤ ('@' :: w).length ∨ ∃ args t, ')' ∉ args ∧ s = '(' :: (args ++ ')' :: t) ∧
      b = '@' :: (w ++ '(' :: (args ++ [')'])) := by
  obtain ⟨hb, t, htext⟩ := h
  cases hb with
  | @bare v _ hv =>
    refine .inl ?_
    have hsame : w ++ s = v ++ t := (List.cons.inj htext).2
    have htake := congrArg (List.takeWhile Text.isWord) hsame
    rw [Text.takeWhile_append_stop hw hs, List.takeWhile_append_of_pos hv] at htake
    rw [htake]
    simp
  | @called v args _ hv hargs =>
    refine .inr ⟨args, t, hargs, ?_⟩
    have hparen : ∀ c ∈ ('(' :: (args ++ ')' :: t)).head?, Text.isWord c = false :=
      Text.forall_mem_head?_cons (by decide) _
    have hsame : w ++ s = v ++ '(' :: (args ++ ')' :: t) := by simpa using htext
    have htake := congrArg (List.takeWhile Text.isWord) hsame
    rw [Text.takeWhile_append_stop hw hs, Text.takeWhile_append_stop hv hparen] at htake
    obtain rfl := htake
    exact ⟨List.append_cancel_left hsame, rfl⟩

theorem found_bare {as : List (List Char)} (hne : w ≠ [])
    (hw : ∀ c ∈ w, Text.isWord c = true) (hs : ∀ c ∈ s.head?, Text.isWord c = false)
    (hopen : ¬ (s.head? = some '(' ∧ ')' ∈ s)) (hf : Found s as) :
    Found ('@' :: (w ++ s)) (('@' :: w) :: as) := by
  refine .cons (p := []) rfl (.bare hne hw) (fun _ _ _ => Nat.zero_le _) (fun b hb => ?_) hf
  rcases hb.at_word hw hs with hle | ⟨args, t, -, rfl, -⟩
  · exact hle
  · exact absurd (by simp) hopen

theorem found_called {args : List Char} {as : List (List Char)} (hne : w ≠ [])
    (hw : ∀ c ∈ w, Text.isWord c = true) (hargs : ')' ∉ args) (hf : Found s as) :
    Found ('@' :: (w ++ '(' :: (args ++ ')' :: s)))
      (('@' :: (w ++ '(' :: (args ++ [')']))) :: as) := by
  have hparen : ∀ c ∈ ('(' :: (args ++ ')' :: s)).head?, Text.isWord c = false :=
    Text.forall_mem_head?_cons (by decide) _
  refine .cons (p := []) (by simp) (.called hne hw hargs) (fun _ _ _ => Nat.zero_le _)
    (fun b hb => ?_) hf
  rcases hb.at_word hw hparen with hle | ⟨args', t, hargs', hsame, rfl⟩
  · refine Nat.le_trans hle ?_
    simp
  · have hclosing := congrArg closing? (List.cons.inj hsame).2
    rw [closing?_append hargs, closing?_append hargs'] at hclosing
    obtain ⟨hsame, -⟩ := Prod.mk.inj (Option.some.inj hclosing)
    rw [List.append_cancel_right hsame]

end Word

/-- The reader finds the attributes of the grammar. -/
theorem found_scan (s : List Char) : Found s (scan s) := by
  induction hlen : s.length using Nat.strongRecOn generalizing s with
  | _ n ih =>
    subst hlen
    cases s with
    | nil =>
      rw [scan_nil]
      refine .nil ?_
      rintro p a ⟨ha, t, hs⟩
      obtain ⟨c, v, rfl, -⟩ := ha.exists_head
      simp at hs
    | cons c s =>
      by_cases hat : c = '@' ∧ s.head?.any Text.isWord = true
      · obtain ⟨rfl, hword⟩ := hat
        obtain ⟨w, r, rfl, hne, hw, hr⟩ := exists_word hword
        by_cases hclosed : r.head? = some '(' ∧ ')' ∈ r
        · obtain ⟨args, t, hargs, rfl⟩ := exists_arguments hclosed
          rw [scan_called hne hw hargs]
          refine found_called hne hw hargs (ih t.length ?_ t rfl)
          simp only [List.length_cons, List.length_append]
          omega
        · rw [scan_bare hne hw hr hclosed]
          refine found_bare hne hw hr hclosed (ih r.length ?_ r rfl)
          simp only [List.length_cons, List.length_append]
          omega
      · rw [scan_skip hat]
        exact .skip hat (ih s.length (Nat.lt_succ_self _) s rfl)

/-! ### The turns of a reading -/

/-- The reader comes to this place, with this text left, when it reads the text. -/
inductive Reached (text : List Char) : Place → List Char → Prop
  | start : Reached text .between text
  | turn {p : Place} {c : Char} {s : List Char} {t : Turn} (h : Reached text p (c :: s))
    (ht : turn p c s = some t) : Reached text t.place t.rest

theorem Reached.fits {text s : List Char} {p : Place} (h : Reached text p s) : Fits p s := by
  induction h with
  | start => trivial
  | turn _ ht ih =>
    obtain ⟨t', ht', hfits⟩ := exists_turn ih
    obtain rfl := Option.some.inj (ht.symm.trans ht')
    exact hfits

/-- **Attributes are found where they stand.** Reading comes to an end and does not
fail, and it finds exactly the attributes of the grammar: each as early and then as long
as it can be, from left to right and one behind the other. Every turn has an outcome;
so whenever a closing parenthesis is looked for there is one. -/
theorem scan_finds (text : List Char) :
    read .between text = some (scan text) ∧
      (∀ as, Found text as ↔ as = scan text) ∧
      (∀ p c s, Reached text p (c :: s) → ∃ t, turn p c s = some t) ∧
      ∀ taken s, Reached text (.arguments taken) s → ∃ a t, closing? s = some (a, t) := by
  refine ⟨read_between text, fun as => ⟨fun h => h.unique (found_scan text), ?_⟩, ?_, ?_⟩
  · rintro rfl
    exact found_scan text
  · intro p c s h
    obtain ⟨t, ht, -⟩ := exists_turn h.fits
    exact ⟨t, ht⟩
  · exact fun taken s h => exists_closing? h.fits

/-- Arguments run to the first closing parenthesis, and one that is not closed is left
out. -/
theorem scan_finds_unclosed :
    let text := "@a(@b(c)) @@d(".toList
    Reached text (.arguments ['@', 'a']) "(@b(c)) @@d(".toList ∧
      (∃ a t, closing? "(@b(c)) @@d(".toList = some (a, t)) ∧
      Found text ["@a(@b(c)".toList, "@d".toList] := by
  intro text
  have hword : Reached text (.word ['@']) "a(@b(c)) @@d(".toList :=
    Reached.start.turn (show turn .between '@' "a(@b(c)) @@d(".toList = some ⟨[], _, _⟩ from rfl)
  have hreached : Reached text (.arguments ['@', 'a']) "(@b(c)) @@d(".toList :=
    hword.turn (show turn _ 'a' "(@b(c)) @@d(".toList = some ⟨[], _, _⟩ from rfl)
  obtain ⟨-, hfound, -, hclosing⟩ := scan_finds text
  exact ⟨hreached, hclosing _ _ hreached, (hfound _).2 (by decide +kernel)⟩

end Attribute
end SchemaDiagram

/-
# What a search finds

A search finds the declarations whose name in lower case holds the query, each as often
as it is declared: in the order of their names in lower case, equal ones in the order of
the names as they are written, and declarations of one name in the order of declaration.
There is one such list. A query that holds another one finds what the other one finds or
less, and blanks around it do not count.

Key definitions: `Entity.rank`, `Schema.Finds`.
Key theorems: `Schema.filter_name_mergeSort`, `Schema.Finds.unique`, `Schema.finds_search`,
`Schema.search_sublist`, `Session.filtered_search`, `Session.search_exact`.
-/
import Mathlib.Data.Prod.Lex
import Mathlib.Data.String.Basic
import SchemaDiagram.Proofs.Exact
import SchemaDiagram.Proofs.Sorting
import SchemaDiagram.Proofs.Text.Lines
import SchemaDiagram.Proofs.Text.Trim
import SchemaDiagram.Schema.Lookup
import SchemaDiagram.Session.Step

namespace SchemaDiagram

/-! ### The order of names -/

/-- Entities are ordered by their names in lower case, and then by the names. -/
def Entity.rank (e : Entity) : String ×ₗ String :=
  toLex (Text.lowerString e.name, e.name)

theorem Entity.rank_inj {a b : Entity} : a.rank = b.rank ↔ a.name = b.name := by
  refine ⟨fun h => congrArg (fun p => (ofLex p).2) h, fun h => ?_⟩
  rw [rank, rank, h]

namespace Schema

variable {m : Schema} {q r : String} {es fs : List Entity}

theorem precedes_iff {a b : Entity} : precedes a b = true ↔ a.rank ≤ b.rank := by
  simp only [precedes, Entity.rank, Prod.Lex.toLex_le_toLex, Bool.or_eq_true, Bool.and_eq_true,
    decide_eq_true_eq, beq_iff_eq, Bool.not_eq_true', decide_eq_false_iff_not, not_lt]

theorem precedes_trans (a b c : Entity) (hab : precedes a b = true) (hbc : precedes b c = true) :
    precedes a c = true :=
  precedes_iff.2 (le_trans (precedes_iff.1 hab) (precedes_iff.1 hbc))

theorem precedes_total (a b : Entity) : (precedes a b || precedes b a) = true := by
  rw [Bool.or_eq_true, precedes_iff, precedes_iff]
  exact le_total _ _

/-- Sorting leaves the declarations of one name as they are. -/
theorem filter_name_mergeSort (es : List Entity) (n : String) :
    (es.mergeSort precedes).filter (·.name = n) = es.filter (·.name = n) := by
  refine filter_mergeSort precedes_trans precedes_total (fun a b ha hb => ?_) es
  have hname : a.name = b.name := (of_decide_eq_true ha).trans (of_decide_eq_true hb).symm
  exact precedes_iff.2 (Entity.rank_inj.2 hname).le

/-! ### What is found -/

/-- The list is what a search for the query is to find. -/
structure Finds (m : Schema) (q : String) (es : List Entity) : Prop where
  /-- Each declaration whose name holds the query, as often as it is declared. -/
  count : ∀ e, es.count e =
    if needle q <:+: (Text.lowerString e.name).toList then m.entities.count e else 0
  ordered : es.Pairwise (·.rank ≤ ·.rank)
  /-- Declarations of one name stay in the order of declaration. -/
  stable : ∀ n, (es.filter (·.name = n)).Sublist m.entities

theorem nameHas_iff {e : Entity} :
    nameHas (needle q) e = true ↔ needle q <:+: (Text.lowerString e.name).toList :=
  Text.contains_iff_infix

theorem count_search (m : Schema) (q : String) (e : Entity) :
    (m.search q).count e =
      if needle q <:+: (Text.lowerString e.name).toList then m.entities.count e else 0 := by
  rw [search]
  by_cases he : nameHas (needle q) e = true
  · rw [if_pos (nameHas_iff.1 he), List.count_filter he, (List.mergeSort_perm _ _).count_eq]
  · rw [if_neg fun h => he (nameHas_iff.2 h)]
    exact List.count_eq_zero.2 fun hm => he (List.mem_filter.1 hm).2

theorem finds_search (m : Schema) (q : String) : m.Finds q (m.search q) where
  count := m.count_search q
  ordered := by
    have hsorted := List.pairwise_mergeSort precedes_trans precedes_total m.entities
    exact (hsorted.imp precedes_iff.1).filter _
  stable n := by
    have hsub : (m.search q).Sublist (m.entities.mergeSort precedes) := List.filter_sublist
    have hname := hsub.filter fun e => decide (e.name = n)
    rw [filter_name_mergeSort] at hname
    exact hname.trans List.filter_sublist

theorem count_filter_name (es : List Entity) (n : String) (e : Entity) :
    (es.filter (·.name = n)).count e = if e.name = n then es.count e else 0 := by
  by_cases he : e.name = n
  · rw [if_pos he]
    exact List.count_filter (decide_eq_true he)
  · rw [if_neg he]
    exact List.count_eq_zero.2 fun hm => he (of_decide_eq_true (List.mem_filter.1 hm).2)

/-- Of each name all declarations are found, in their order, or none. -/
theorem Finds.filter_name (h : m.Finds q es) (n : String) :
    es.filter (·.name = n) =
      if needle q <:+: (Text.lowerString n).toList then m.entities.filter (·.name = n) else [] := by
  have hcount : ∀ e, (es.filter (·.name = n)).count e =
      if needle q <:+: (Text.lowerString n).toList
        then (m.entities.filter (·.name = n)).count e else 0 := fun e => by
    rw [count_filter_name, count_filter_name, h.count]
    by_cases he : e.name = n
    · rw [if_pos he, if_pos he, he]
    · rw [if_neg he, if_neg he, ite_self]
  by_cases hn : needle q <:+: (Text.lowerString n).toList
  · simp only [if_pos hn] at hcount ⊢
    have hsub := (h.stable n).filter fun e => decide (e.name = n)
    simp only [List.filter_filter, Bool.and_self] at hsub
    exact hsub.eq_of_length (List.perm_iff_count.2 hcount).length_eq
  · simp only [if_neg hn] at hcount ⊢
    exact List.eq_nil_iff_forall_not_mem.2 fun e => List.count_eq_zero.1 (hcount e)

/-- There is one list that a search is to find. -/
theorem Finds.unique (he : m.Finds q es) (hf : m.Finds q fs) : es = fs := by
  refine eq_of_filter_eq he.ordered hf.ordered fun a => ?_
  simp only [Entity.rank_inj, he.filter_name, hf.filter_name]

/-- A query that holds another one finds no more, and in the same order. -/
theorem search_sublist (m : Schema) (h : needle r <:+: needle q) :
    (m.search q).Sublist (m.search r) := by
  refine List.monotone_filter_right _ fun e he => ?_
  exact nameHas_iff.2 (h.trans (nameHas_iff.1 he))

theorem needle_trimString (q : String) : needle (Text.trimString q) = needle q := by
  rw [needle, Text.trimString, String.toList_ofList, Text.trim_trim, needle]

end Schema

/-! ### Searching in a session -/

namespace Session

variable {α : Type}

/-- A query is kept without the blanks around it, which make no difference. -/
theorem filtered_search {s : Session α} {m : Schema} (hm : s.schema = some m) (q : String) :
    (s.search q).filtered = m.search q := by
  have hschema : (s.search q).schema = some m := hm
  rw [filtered, hschema]
  show m.search (Text.trimString q) = m.search q
  rw [Schema.search, Schema.needle_trimString, Schema.search]

variable [Scalar α] [Sunflower α]

/-- **Search is exact, ordered and monotone.** Whatever the schema and the query, what is
found is the one list that is to be found. A query that holds another one finds some of
what that one finds, in the same order. In a session with a schema, what is listed after a
search is what the search finds. -/
theorem search_exact (m : Schema) (q : String) :
    (∀ es, m.search q = es ↔ m.Finds q es) ∧
      (∀ r, Schema.needle r <:+: Schema.needle q → (m.search q).Sublist (m.search r)) ∧
      ∀ files (s : Session α), s.schema = some m →
        (s.step files (.search q)).2.filtered = m.search q := by
  refine ⟨fun es => ⟨?_, ?_⟩, fun r hr => m.search_sublist hr, fun files s hs => ?_⟩
  · rintro rfl
    exact m.finds_search q
  · exact (m.finds_search q).unique
  · exact filtered_search hs q

/-- A name that is declared twice, names that differ in case, a final sigma, and blanks
around the queries. -/
theorem search_exact_cases :
    letI : Sunflower ℚ := ⟨fun _ => 1, fun _ => 0, fun _ => 0⟩
    let first : Entity := ⟨"Usage", [⟨"n", "Int", [], "n Int", false⟩], [], []⟩
    let second : Entity := ⟨"Usage", [], ["@@map"], []⟩
    let m := Schema.ofEntities [first, ⟨"MUS", [], [], []⟩, second, ⟨"mus", [], [], []⟩,
      ⟨"ΜΟΥΣ", [], [], []⟩, ⟨"user", [], [], []⟩]
    let fresh : Session ℚ := .start .stock
    let s : Session ℚ := { fresh with schema := some m }
    Schema.needle "s" <:+: Schema.needle " US " ∧ s.schema = some m ∧
      m.Finds " US " (m.search " US ") ∧ (m.search " US ").count first = 1 ∧
      (m.search " US ").count ⟨"ΜΟΥΣ", [], [], []⟩ = 0 ∧
      (m.search " US ").Sublist (m.search "s") ∧
      (s.step ⟨[]⟩ (.search " US ")).2.filtered = m.search " US " := by
  let _ : Sunflower ℚ := ⟨fun _ => 1, fun _ => 0, fun _ => 0⟩
  intro first second m fresh s
  obtain ⟨hexact, hless, hsession⟩ := search_exact (α := ℚ) m " US "
  have hfinds : m.Finds " US " (m.search " US ") := (hexact _).1 rfl
  have hsub : Schema.needle "s" <:+: Schema.needle " US " := ⟨['u'], [], by decide +kernel⟩
  refine ⟨hsub, rfl, hfinds, ?_, ?_, hless "s" hsub, hsession ⟨[]⟩ s rfl⟩
  · rw [hfinds.count]
    decide +kernel
  · rw [hfinds.count]
    decide +kernel

end Session
end SchemaDiagram

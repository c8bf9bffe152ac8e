/-
# Laws of keyed collections

A collection is its entries, each found under its key. Values are often gathered
item by item, each item changing the value under its own key: then the keys come
in the order in which they first occur, and what is under a key depends on the
items with that key alone.

Key definitions: `Keyed.gather`.
Key theorems: `nodup_eraseDups`, `eraseDups_filter`, `eraseDups_flatMap`,
`getLast?_filter_of_last`, `Keyed.put_put`, `Keyed.put_of_find?`,
`Keyed.find?_eq_some_iff`, `Keyed.values_eq_filterMap`, `Keyed.keys_gather`,
`Keyed.find?_gather`, `Keyed.find?_ofList`, `Keyed.find?_ofList_of_last`,
`Keyed.entries_ofList_eq_iff`, `Keyed.length_ofList_eq_iff`, `Keyed.mem_keys_ofList`.
-/
import Mathlib.Data.List.Basic
import Mathlib.Data.List.Induction
import Mathlib.Data.List.Nodup
import SchemaDiagram.Keyed

namespace SchemaDiagram

/-! ### First occurrences -/

section

variable {γ δ : Type} [BEq γ] [LawfulBEq γ] [BEq δ] [LawfulBEq δ]

theorem eraseDups_concat (l : List γ) (a : γ) :
    (l ++ [a]).eraseDups = if a ∈ l then l.eraseDups else l.eraseDups ++ [a] := by
  rw [List.eraseDups_append]
  by_cases h : a ∈ l
  · rw [if_pos h]
    simp [List.removeAll, h]
  · rw [if_neg h]
    simp [List.removeAll, h, List.eraseDups_cons]

theorem nodup_eraseDups (l : List γ) : l.eraseDups.Nodup := by
  induction l using List.reverseRecOn with
  | nil => exact List.nodup_nil
  | append_singleton l a ih =>
    rw [eraseDups_concat]
    split
    · exact ih
    · next h =>
      rw [← List.mem_eraseDups] at h
      exact List.nodup_append'.2 ⟨ih, List.nodup_singleton a, List.disjoint_singleton.2 h⟩

theorem eraseDups_sublist (l : List γ) : l.eraseDups.Sublist l := by
  induction l using List.reverseRecOn with
  | nil => exact .slnil
  | append_singleton l a ih =>
    rw [eraseDups_concat]
    split
    · exact ih.trans (List.sublist_append_left l [a])
    · exact ih.append (List.Sublist.refl [a])

theorem eraseDups_map {f : γ → δ} {l : List γ} (hf : ∀ a ∈ l, ∀ b ∈ l, f a = f b → a = b) :
    (l.map f).eraseDups = l.eraseDups.map f := by
  induction l using List.reverseRecOn with
  | nil => rfl
  | append_singleton l a ih =>
    have hl : ∀ b ∈ l, b ∈ l ++ [a] := fun b hb => List.mem_append_left _ hb
    have ha : a ∈ l ++ [a] := List.mem_append_right _ (List.mem_singleton_self a)
    have hmem : f a ∈ l.map f ↔ a ∈ l := by
      refine ⟨fun h => ?_, List.mem_map_of_mem⟩
      obtain ⟨b, hb, hba⟩ := List.mem_map.1 h
      exact hf b (hl b hb) a ha hba ▸ hb
    rw [List.map_append, List.map_singleton, eraseDups_concat, eraseDups_concat,
      ih fun b hb c hc => hf b (hl b hb) c (hl c hc)]
    by_cases h : a ∈ l
    · rw [if_pos h, if_pos (hmem.2 h)]
    · rw [if_neg h, if_neg fun hm => h (hmem.1 hm), List.map_append, List.map_singleton]

theorem eraseDups_filter (p : γ → Bool) (l : List γ) :
    (l.filter p).eraseDups = l.eraseDups.filter p := by
  induction l using List.reverseRecOn with
  | nil => rfl
  | append_singleton l a ih =>
    rw [List.filter_append, eraseDups_concat]
    by_cases hp : p a = true
    · have hone : [a].filter p = [a] := List.filter_cons_of_pos hp
      have hmem : a ∈ l.filter p ↔ a ∈ l := by rw [List.mem_filter, and_iff_left hp]
      rw [hone, eraseDups_concat, ih]
      by_cases ha : a ∈ l
      · rw [if_pos ha, if_pos (hmem.2 ha)]
      · rw [if_neg ha, if_neg fun h => ha (hmem.1 h), List.filter_append, hone]
    · have hnone : [a].filter p = [] := List.filter_cons_of_neg hp
      rw [hnone, List.append_nil, ih]
      by_cases ha : a ∈ l
      · rw [if_pos ha]
      · rw [if_neg ha, List.filter_append, hnone, List.append_nil]

/-- Blocks of one item each, no two of the same, come to the items of those that are
not empty. -/
theorem eraseDups_flatMap {ι : Type*} {l : List ι} {block : ι → List δ} {item : ι → δ}
    (hblock : ∀ a ∈ l, ∀ b ∈ block a, b = item a) (hl : (l.map item).Nodup) :
    (l.flatMap block).eraseDups = (l.filter fun a => !(block a).isEmpty).map item := by
  induction l with
  | nil => rfl
  | cons a l ih =>
    obtain ⟨ha, hblocks⟩ := List.forall_mem_cons.1 hblock
    rw [List.map_cons, List.nodup_cons] at hl
    have hrest : (l.flatMap block).removeAll (block a) = l.flatMap block := by
      refine List.filter_eq_self.2 fun b hb => ?_
      obtain ⟨c, hc, hbc⟩ := List.mem_flatMap.1 hb
      have hnot : b ∉ block a := fun hba => hl.1 <| List.mem_map.2
        ⟨c, hc, by rw [← hblocks c hc b hbc, ha b hba]⟩
      simpa using hnot
    rw [List.flatMap_cons, List.eraseDups_append, hrest, ih hblocks hl.2, List.filter_cons]
    cases hb : block a with
    | nil => rfl
    | cons b bs =>
      rw [hb] at ha
      obtain ⟨rfl, hbs⟩ := List.forall_mem_cons.1 ha
      have hnone : bs.filter (fun c => !c == item a) = [] :=
        List.filter_eq_nil_iff.2 fun c hc => by simp [hbs c hc]
      rw [List.eraseDups_cons, hnone]
      rfl

theorem eraseDups_perm {l m : List γ} (h : l.Perm m) : l.eraseDups.Perm m.eraseDups := by
  refine (List.perm_ext_iff_of_nodup (nodup_eraseDups l) (nodup_eraseDups m)).2 fun a => ?_
  rw [List.mem_eraseDups, List.mem_eraseDups, h.mem_iff]

end

/-! ### Last occurrences -/

/-- Of the wanted items of a list there is a last one. -/
theorem exists_last_of_mem {γ : Type} {l : List γ} {p : γ → Bool} {a : γ} (ha : a ∈ l)
    (hp : p a = true) :
    ∃ (i : ℕ) (b : γ), l[i]? = some b ∧ p b = true ∧
      ∀ (j : ℕ) (c : γ), i < j → l[j]? = some c → p c = false := by
  induction l generalizing a with
  | nil => exact absurd ha List.not_mem_nil
  | cons x l ih =>
    by_cases hl : ∃ b ∈ l, p b = true
    · obtain ⟨b, hb, hpb⟩ := hl
      obtain ⟨i, c, hc, hpc, hlast⟩ := ih hb hpb
      refine ⟨i + 1, c, hc, hpc, fun j d hij hd => ?_⟩
      cases j with
      | zero => omega
      | succ j => exact hlast j d (Nat.lt_of_succ_lt_succ hij) hd
    · have hnone : ∀ b ∈ l, p b = false := fun b hb =>
        Bool.eq_false_iff.2 fun hpb => hl ⟨b, hb, hpb⟩
      obtain rfl : a = x := (List.mem_cons.1 ha).resolve_right fun hal => hl ⟨a, hal, hp⟩
      refine ⟨0, a, rfl, hp, fun j c hj hc => ?_⟩
      cases j with
      | zero => omega
      | succ j => exact hnone c (List.mem_of_getElem? hc)

/-- The last item that is wanted is the one after which none is. -/
theorem getLast?_filter_of_last {γ : Type} {l : List γ} {p : γ → Bool} {i : ℕ} {a : γ}
    (h : l[i]? = some a) (ha : p a = true)
    (hlast : ∀ j b, i < j → l[j]? = some b → p b = false) : (l.filter p).getLast? = some a := by
  have hrest : (l.drop (i + 1)).filter p = [] := by
    refine List.filter_eq_nil_iff.2 fun b hb => ?_
    obtain ⟨j, hj⟩ := List.mem_iff_getElem?.1 hb
    rw [List.getElem?_drop] at hj
    rw [hlast _ b (by omega) hj]
    exact Bool.false_ne_true
  have hsplit : l = l.take i ++ [a] ++ l.drop (i + 1) := by
    have htake := List.take_append_drop (i + 1) l
    rw [List.take_add_one, h] at htake
    exact htake.symm
  rw [hsplit, List.filter_append, List.filter_append, hrest, List.append_nil,
    List.filter_singleton, ha, cond_true, List.getLast?_concat]

namespace Keyed

variable {κ β γ : Type} [DecidableEq κ]

theorem exists_find?_of_mem_keys {m : Keyed κ β} {k : κ} (h : k ∈ m.keys) :
    ∃ v, m.find? k = some v :=
  Option.isSome_iff_exists.1 ((isSome_find?_iff m k).2 h)

theorem mem_keys_of_find? {m : Keyed κ β} {k : κ} {v : β} (h : m.find? k = some v) : k ∈ m.keys :=
  (isSome_find?_iff m k).1 (Option.isSome_of_eq_some h)

/-- A value put under a key is one of those found from then on. -/
theorem forall_find?_put {P : β → Prop} {m : Keyed κ β} {k : κ} {v : β}
    (h : ∀ j w, m.find? j = some w → P w) (hv : P v) :
    ∀ j w, (m.put k v).find? j = some w → P w := by
  intro j w hw
  by_cases hj : j = k
  · rw [hj, find?_put_self] at hw
    exact Option.some.inj hw ▸ hv
  · rw [find?_put_of_ne v hj] at hw
    exact h j w hw

omit [DecidableEq κ] in
theorem eq_of_entries {m n : Keyed κ β} (h : m.entries = n.entries) : m = n := by
  cases m
  cases n
  cases h
  rfl

/-- Of two values put under one key the second is kept. -/
theorem put_put (m : Keyed κ β) (k : κ) (v w : β) : (m.put k v).put k w = m.put k w := by
  obtain ⟨es, hd⟩ := m
  refine eq_of_entries ?_
  show putIn k w (putIn k v es) = putIn k w es
  clear hd
  induction es with
  | nil => exact if_pos rfl
  | cons e es ih =>
    by_cases h : e.1 = k
    · simp only [putIn, if_pos h, if_true]
    · simp only [putIn, if_neg h, ih]

/-- The value that is found can be put there again. -/
theorem put_of_find? {m : Keyed κ β} {k : κ} {v : β} (h : m.find? k = some v) : m.put k v = m := by
  obtain ⟨es, hd⟩ := m
  refine eq_of_entries ?_
  replace h : findIn k es = some v := h
  show putIn k v es = es
  clear hd
  induction es with
  | nil => cases h
  | cons e es ih =>
    rw [findIn] at h
    rw [putIn]
    by_cases hk : e.1 = k
    · rw [if_pos hk] at h ⊢
      rw [← hk, ← Option.some.inj h]
    · rw [if_neg hk] at h ⊢
      rw [ih h]

/-- Exactly the entries are found. -/
theorem find?_eq_some_iff {m : Keyed κ β} {k : κ} {v : β} :
    m.find? k = some v ↔ (k, v) ∈ m.entries := by
  obtain ⟨es, hd⟩ := m
  show findIn k es = some v ↔ (k, v) ∈ es
  induction es with
  | nil => simp [findIn]
  | cons e es ih =>
    rw [List.map_cons, List.nodup_cons] at hd
    rw [findIn, List.mem_cons]
    by_cases h : e.1 = k
    · have hne : (k, v) ∉ es := fun hm => hd.1 (h ▸ List.mem_map.2 ⟨(k, v), hm, rfl⟩)
      rw [if_pos h, or_iff_left hne, Option.some_inj]
      exact ⟨fun hv => by rw [← h, ← hv], fun he => (congrArg (·.2) he).symm⟩
    · rw [if_neg h, ih hd.2, or_iff_right fun he => h (congrArg (·.1) he).symm]

theorem lookup_entries (m : Keyed κ β) (k : κ) : m.entries.lookup k = m.find? k := by
  obtain ⟨es, hd⟩ := m
  show es.lookup k = findIn k es
  clear hd
  induction es with
  | nil => rfl
  | cons e es ih =>
    rw [findIn, List.lookup_cons, ih]
    by_cases h : e.1 = k
    · rw [h, beq_self_eq_true, if_pos rfl]
    · rw [beq_false_of_ne (Ne.symm h), if_neg h]

theorem values_eq_filterMap (m : Keyed κ β) : m.values = m.keys.filterMap m.find? := by
  have h : ∀ e ∈ m.entries, (m.find? ∘ (·.1)) e = some e.2 := fun e he => find?_eq_some_iff.2 he
  rw [values, keys, List.filterMap_map, List.filterMap_congr h, List.filterMap_eq_map']

/-! ### Gathering -/

/-- The collection in which each item has changed the value under its key. -/
def gather (key : γ → κ) (change : Option β → γ → β) (xs : List γ) : Keyed κ β :=
  xs.foldl (fun m x => m.put (key x) (change (m.find? (key x)) x)) empty

variable {key : γ → κ} {change : Option β → γ → β}

theorem gather_concat (xs : List γ) (x : γ) :
    gather key change (xs ++ [x]) =
      (gather key change xs).put (key x)
        (change ((gather key change xs).find? (key x)) x) :=
  List.foldl_concat _ _ _ _

/-- The keys come in the order in which they first occur. -/
theorem keys_gather (xs : List γ) : (gather key change xs).keys = (xs.map key).eraseDups := by
  induction xs using List.reverseRecOn with
  | nil => rfl
  | append_singleton xs x ih =>
    rw [gather_concat, keys_put, ih, List.map_append, List.map_singleton, eraseDups_concat]
    simp only [List.mem_eraseDups]

/-- What is under a key depends on the items with that key. -/
theorem find?_gather (xs : List γ) (k : κ) :
    (gather key change xs).find? k =
      (xs.filter (key · = k)).foldl (fun v x => some (change v x)) none := by
  induction xs using List.reverseRecOn with
  | nil => rfl
  | append_singleton xs x ih =>
    rw [gather_concat, List.filter_append]
    by_cases h : key x = k
    · rw [h, find?_put_self, ih, List.filter_singleton, decide_eq_true h, List.foldl_append]
      rfl
    · rw [find?_put_of_ne _ (Ne.symm h), ih, List.filter_singleton, decide_eq_false h]
      simp

theorem ofList_eq_gather (es : List (κ × β)) :
    ofList es = gather (·.1) (fun _ e => e.2) es :=
  rfl

/-- Of several entries with one key the last is found. -/
theorem find?_ofList (es : List (κ × β)) (k : κ) :
    (ofList es).find? k = (es.filter (·.1 = k)).getLast?.map (·.2) := by
  rw [ofList_eq_gather, find?_gather]
  induction es.filter (·.1 = k) using List.reverseRecOn with
  | nil => rfl
  | append_singleton es e ih => rw [List.foldl_concat, List.getLast?_concat, Option.map_some]

/-- What is found under a key is the entry after which no other has it. -/
theorem find?_ofList_of_last {es : List (κ × β)} {i : ℕ} {k : κ} {v : β}
    (h : es[i]? = some (k, v)) (hlast : ∀ j e, i < j → es[j]? = some e → e.1 ≠ k) :
    (ofList es).find? k = some v := by
  have hnone : ∀ j e, i < j → es[j]? = some e → decide (e.1 = k) = false := fun j e hij he =>
    decide_eq_false (hlast j e hij he)
  rw [find?_ofList, getLast?_filter_of_last h (decide_eq_true rfl) hnone, Option.map_some]

theorem keys_ofList (es : List (κ × β)) : (ofList es).keys = (es.map (·.1)).eraseDups := by
  rw [ofList_eq_gather, keys_gather]

/-- A value under a new key comes last. -/
theorem entries_put_of_not_mem {m : Keyed κ β} {k : κ} {v : β} (h : k ∉ m.keys) :
    (m.put k v).entries = m.entries ++ [(k, v)] := by
  obtain ⟨es, hd⟩ := m
  show putIn k v es = es ++ [(k, v)]
  replace h : k ∉ es.map (·.1) := h
  clear hd
  induction es with
  | nil => rfl
  | cons e es ih =>
    rw [List.map_cons, List.mem_cons, not_or] at h
    rw [putIn, if_neg (Ne.symm h.1), ih h.2, List.cons_append]

/-- All entries are kept exactly if their keys are distinct. -/
theorem entries_ofList_eq_iff (es : List (κ × β)) :
    (ofList es).entries = es ↔ (es.map (·.1)).Nodup := by
  refine ⟨fun h => h ▸ (ofList es).distinct, fun h => ?_⟩
  induction es using List.reverseRecOn with
  | nil => rfl
  | append_singleton es e ih =>
    have hconcat : ofList (es ++ [e]) = (ofList es).put e.1 e.2 := List.foldl_concat _ _ _ _
    rw [List.map_append, List.nodup_append'] at h
    have hnew : e.1 ∉ (ofList es).keys := by
      rw [keys_ofList, List.mem_eraseDups]
      exact fun hm => h.2.2 hm List.mem_cons_self
    rw [hconcat, entries_put_of_not_mem hnew, ih h.1]

omit [DecidableEq κ] in
theorem length_entries (m : Keyed κ β) : m.entries.length = m.keys.length :=
  (List.length_map _).symm

theorem length_ofList_le (es : List (κ × β)) : (ofList es).entries.length ≤ es.length := by
  have hkeys : (es.map (·.1)).length = es.length := List.length_map _
  rw [length_entries, keys_ofList, ← hkeys]
  exact (eraseDups_sublist _).length_le

/-- There are as many entries as were put exactly if their keys are distinct. -/
theorem length_ofList_eq_iff (es : List (κ × β)) :
    (ofList es).entries.length = es.length ↔ (es.map (·.1)).Nodup := by
  have hkeys : (es.map (·.1)).length = es.length := List.length_map _
  refine ⟨fun h => ?_, fun h => by rw [(entries_ofList_eq_iff es).2 h]⟩
  rw [length_entries, keys_ofList, ← hkeys] at h
  rw [← (eraseDups_sublist _).eq_of_length h]
  exact nodup_eraseDups _

theorem mem_keys_ofList {es : List (κ × β)} {k : κ} :
    k ∈ (ofList es).keys ↔ k ∈ es.map (·.1) := by
  rw [keys_ofList, List.mem_eraseDups]

end Keyed
end SchemaDiagram

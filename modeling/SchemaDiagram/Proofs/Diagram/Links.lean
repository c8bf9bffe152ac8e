/-
# What the pairs gather

Relations are taken in one by one, each under the key of the pair of names that
it joins. No two pairs of words have the same key, so a pair gathers exactly the
relations between its two names (`Links.values_ofJoins`): there is one link for
each pair, and a name has a side in it when it declares a relation to the other.

Key definitions: `Join`, `Join.pair`, `Links.ofJoins`, `sidesOf`.
Key theorems: `pairKey_inj`, `Links.values_ofJoins`, `mem_keys_sidesOf`.
-/
import SchemaDiagram.Diagram.Route
import SchemaDiagram.Proofs.Keyed
import SchemaDiagram.Proofs.Text.Run

namespace SchemaDiagram

/-! ### Pairs of names -/

/-- A text without colons ends where the first colon stands. -/
theorem append_colon_inj {a b c d : List Char} (ha : ':' ∉ a) (hc : ':' ∉ c)
    (h : a ++ ':' :: b = c ++ ':' :: d) : a = c ∧ b = d := by
  have hall : ∀ {s : List Char}, ':' ∉ s → ∀ x ∈ s, (x != ':') = true :=
    fun hs x hx => bne_iff_ne.2 fun hxc => hs (hxc ▸ hx)
  have hstop : ∀ {s : List Char}, ∀ x ∈ (':' :: s).head?, (x != ':') = false :=
    Text.forall_mem_head?_cons (by decide) _
  have hleft := congrArg (List.takeWhile (· != ':')) h
  have hright := congrArg (List.dropWhile (· != ':')) h
  rw [Text.takeWhile_append_stop (hall ha) hstop,
    Text.takeWhile_append_stop (hall hc) hstop] at hleft
  rw [Text.dropWhile_append_stop (hall ha) hstop,
    Text.dropWhile_append_stop (hall hc) hstop] at hright
  exact ⟨hleft, List.tail_eq_of_cons_eq hright⟩

theorem toList_pairKey (a b : String) :
    (pairKey a b).toList = a.toList ++ ':' :: ':' :: b.toList := by
  simp [pairKey]

theorem pairKey_inj {a b c d : String} (ha : ':' ∉ a.toList) (hc : ':' ∉ c.toList)
    (h : pairKey a b = pairKey c d) : a = c ∧ b = d := by
  have hl := congrArg String.toList h
  rw [toList_pairKey, toList_pairKey] at hl
  obtain ⟨hfirst, hrest⟩ := append_colon_inj ha hc hl
  exact ⟨String.toList_inj.1 hfirst, String.toList_inj.1 (List.tail_eq_of_cons_eq hrest)⟩

/-- The same, read from the end. -/
theorem pairKey_inj_of_right {a b c d : String} (hb : ':' ∉ b.toList) (hd : ':' ∉ d.toList)
    (h : pairKey a b = pairKey c d) : a = c ∧ b = d := by
  have hl := congrArg (fun k => k.toList.reverse) h
  simp only [toList_pairKey, List.reverse_append, List.reverse_cons, List.append_assoc,
    List.singleton_append] at hl
  rw [← List.mem_reverse] at hb hd
  obtain ⟨hlast, hrest⟩ := append_colon_inj hb hd hl
  exact ⟨String.toList_inj.1 (List.reverse_inj.1 (List.tail_eq_of_cons_eq hrest)),
    String.toList_inj.1 (List.reverse_inj.1 hlast)⟩

theorem orderedPair_le (a b : String) : (orderedPair a b).1 ≤ (orderedPair a b).2 := by
  unfold orderedPair
  split
  · next h => exact String.lt_asymm h
  · next h => exact h

/-- A pair consists of the two names. -/
theorem orderedPair_cases (a b : String) :
    orderedPair a b = (a, b) ∨ orderedPair a b = (b, a) := by
  unfold orderedPair
  split
  · exact .inr rfl
  · exact .inl rfl

/-! ### Relations taken in -/

/-- A relation and the name of the entity that declares it. -/
abbrev Join := String × Relation

namespace Join

/-- The two names, in alphabetical order. -/
def pair (j : Join) : String × String := orderedPair j.1 j.2.target

/-- What the relation says of its end. -/
def side (j : Join) : String × Side := (j.1, .ofRelation j.2)

def key (j : Join) : String := pairKey j.pair.1 j.pair.2

/-- The link of the pair, if there is one yet, with the relation taken in. -/
def takenIn (l : Option Link) (j : Join) : Link :=
  let link := l.getD ⟨j.pair.1, j.pair.2, .empty⟩
  { link with sides := link.sides.put j.1 (.ofRelation j.2) }

end Join

/-- The sides of a pair: of several relations that one name declares the last
counts. -/
def sidesOf (js : List Join) (pair : String × String) : Keyed String Side :=
  .ofList ((js.filter (·.pair = pair)).map Join.side)

theorem mem_keys_sidesOf {js : List Join} {pair : String × String} {n : String} :
    n ∈ (sidesOf js pair).keys ↔ ∃ j ∈ js, j.pair = pair ∧ j.1 = n := by
  simp [sidesOf, Keyed.mem_keys_ofList, Join.side, and_assoc]

/-- The link of a pair has taken in the relations between its two names. -/
theorem foldl_takenIn {pair : String × String} {js : List Join} (h : ∀ j ∈ js, j.pair = pair) :
    js.foldl (fun l j => some (j.takenIn l)) none =
      if js = [] then none else some ⟨pair.1, pair.2, .ofList (js.map Join.side)⟩ := by
  induction js using List.reverseRecOn with
  | nil => rfl
  | append_singleton js j ih =>
    have hj : j.pair = pair := h j (List.mem_append_right _ (List.mem_singleton_self j))
    have hofList : Keyed.ofList ((js ++ [j]).map Join.side) =
        (Keyed.ofList (js.map Join.side)).put j.1 (.ofRelation j.2) := by
      rw [List.map_append]
      exact List.foldl_concat _ _ _ _
    rw [List.foldl_concat, ih fun i hi => h i (List.mem_append_left _ hi), hofList,
      if_neg (List.append_ne_nil_of_right_ne_nil _ (List.cons_ne_nil j [])), Join.takenIn, hj]
    by_cases hn : js = []
    · rw [if_pos hn, hn]
      rfl
    · rw [if_neg hn]
      rfl

namespace Links

/-- The pairs with some relations taken in one after the other. -/
def ofJoins (js : List Join) : Links :=
  js.foldl (fun l j => l.add j.1 j.2) .empty

theorem ofJoins_eq_gather (js : List Join) : ofJoins js = .gather Join.key Join.takenIn js :=
  rfl

/-- **There is one link for each pair of names**, in the order in which the pairs
first occur, with the sides that its relations give. -/
theorem values_ofJoins {js : List Join} (h : ∀ j ∈ js, ':' ∉ j.pair.1.toList) :
    (ofJoins js).values =
      (js.map Join.pair).eraseDups.map fun p => ⟨p.1, p.2, sidesOf js p⟩ := by
  have hinj : ∀ p ∈ js.map Join.pair, ∀ q ∈ js.map Join.pair,
      pairKey p.1 p.2 = pairKey q.1 q.2 → p = q := by
    intro p hp q hq hpq
    obtain ⟨i, hi, rfl⟩ := List.mem_map.1 hp
    obtain ⟨j, hj, rfl⟩ := List.mem_map.1 hq
    exact Prod.ext_iff.2 (pairKey_inj (h i hi) (h j hj) hpq)
  have hkeys : (ofJoins js).keys =
      (js.map Join.pair).eraseDups.map fun p => pairKey p.1 p.2 := by
    rw [ofJoins_eq_gather, Keyed.keys_gather]
    refine Eq.trans ?_ (eraseDups_map hinj)
    rw [List.map_map]
    rfl
  have hfind : ∀ p ∈ (js.map Join.pair).eraseDups,
      ((ofJoins js).find? ∘ fun p => pairKey p.1 p.2) p =
        some ⟨p.1, p.2, sidesOf js p⟩ := by
    intro p hp
    rw [List.mem_eraseDups] at hp
    have hfilter : js.filter (·.key = pairKey p.1 p.2) = js.filter (·.pair = p) := by
      refine List.filter_congr fun j hj => decide_eq_decide.2 ⟨fun hk => ?_, fun he => ?_⟩
      · exact hinj _ (List.mem_map_of_mem hj) p hp hk
      · rw [← he, Join.key]
    have hne : js.filter (·.pair = p) ≠ [] := by
      obtain ⟨j, hj, hjp⟩ := List.mem_map.1 hp
      exact List.ne_nil_of_mem (List.mem_filter.2 ⟨hj, decide_eq_true hjp⟩)
    rw [Function.comp_apply, ofJoins_eq_gather, Keyed.find?_gather, hfilter,
      foldl_takenIn fun j hj => of_decide_eq_true (List.mem_filter.1 hj).2, if_neg hne, sidesOf]
  rw [Keyed.values_eq_filterMap, hkeys, List.filterMap_map, List.filterMap_congr hfind,
    List.filterMap_eq_map']

end Links
end SchemaDiagram

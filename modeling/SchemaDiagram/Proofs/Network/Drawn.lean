/-
# What a network keeps of the calls

A node is added under its identifier and a link under the unordered pair of its ends. Of
the calls with one identifier, and of those with one pair, the first counts (`firsts`).
So if no call fails, the nodes and the links of a network are known from the calls alone
(`Network.drawAll_of_accepts`). No call takes a node away, so a list of calls is accepted
in pieces, each of which may count on the nodes that were there before.

Key definitions: `keep`, `firsts`, `NetworkLink.ends`, `Draw.node?`, `Draw.link?`.
Key theorems: `map_firsts`, `firsts_append`, `firsts_eq_self`, `firsts_eq_eraseDups`,
`Network.drawAll_of_accepts`, `Network.accepts_append`, `Network.accepts_flatMap`.
-/
import Mathlib.Data.Sym.Sym2
import SchemaDiagram.Network.Basic
import SchemaDiagram.Proofs.Keyed

namespace SchemaDiagram

/-! ### The first item with each key -/

section

variable {β κ : Type} [DecidableEq κ] {key : β → κ}

/-- The list with an item added, unless the key of the item is taken. -/
def keep (key : β → κ) (l : List β) (x : β) : List β :=
  if key x ∈ l.map key then l else l ++ [x]

/-- The items whose key no earlier item has. -/
def firsts (key : β → κ) (l : List β) : List β :=
  l.foldl (keep key) []

theorem firsts_concat (l : List β) (x : β) :
    firsts key (l ++ [x]) = keep key (firsts key l) x :=
  List.foldl_concat _ _ _ _

theorem map_keep (l : List β) (x : β) :
    (keep key l x).map key = if key x ∈ l.map key then l.map key else l.map key ++ [key x] := by
  unfold keep
  split
  · rfl
  · rw [List.map_append, List.map_singleton]

theorem mem_map_keep {l : List β} {x : β} {k : κ} :
    k ∈ (keep key l x).map key ↔ k ∈ l.map key ∨ k = key x := by
  rw [map_keep]
  split
  · next hmem => exact ⟨.inl, fun h => h.elim (fun h => h) fun h => h ▸ hmem⟩
  · rw [List.mem_append, List.mem_singleton]

/-- The keys of the first items are the distinct keys. -/
theorem map_firsts (l : List β) : (firsts key l).map key = (l.map key).eraseDups := by
  induction l using List.reverseRecOn with
  | nil => rfl
  | append_singleton l x ih =>
    rw [firsts_concat, map_keep, ih, List.map_append, List.map_singleton, eraseDups_concat]
    simp only [List.mem_eraseDups]

theorem mem_map_firsts {l : List β} {k : κ} : k ∈ (firsts key l).map key ↔ k ∈ l.map key := by
  rw [map_firsts, List.mem_eraseDups]

theorem nodup_map_firsts (l : List β) : ((firsts key l).map key).Nodup := by
  rw [map_firsts]
  exact nodup_eraseDups _

theorem firsts_sublist (l : List β) : (firsts key l).Sublist l := by
  induction l using List.reverseRecOn with
  | nil => exact .slnil
  | append_singleton l x ih =>
    rw [firsts_concat, keep]
    split
    · exact ih.trans (List.sublist_append_left l [x])
    · exact ih.append (List.Sublist.refl [x])

/-- What has other keys is looked through on its own. -/
theorem firsts_append {a b : List β} (h : ∀ x ∈ b, key x ∉ a.map key) :
    firsts key (a ++ b) = firsts key a ++ firsts key b := by
  induction b using List.reverseRecOn with
  | nil => rw [List.append_nil, firsts, firsts, List.foldl_nil, List.append_nil]
  | append_singleton b x ih =>
    have hx : key x ∉ (firsts key a).map key :=
      fun hmem => h x (by simp) (mem_map_firsts.1 hmem)
    rw [← List.append_assoc, firsts_concat, firsts_concat,
      ih fun y hy => h y (List.mem_append_left _ hy), keep, keep]
    simp only [List.map_append, List.mem_append, hx, false_or]
    split
    · rfl
    · exact List.append_assoc _ _ _

/-- Nothing is dropped if no two keys are equal. -/
theorem firsts_eq_self {l : List β} (h : (l.map key).Nodup) : firsts key l = l := by
  induction l using List.reverseRecOn with
  | nil => rfl
  | append_singleton l x ih =>
    rw [List.map_append, List.nodup_append'] at h
    have hx : key x ∉ l.map key :=
      fun hmem => h.2.2 hmem (List.mem_singleton_self (key x))
    rw [firsts_concat, ih h.1, keep, if_neg hx]

/-- Items that the key tells apart are dropped only if they are repeated. -/
theorem firsts_eq_eraseDups [DecidableEq β] {l : List β}
    (h : ∀ x ∈ l, ∀ y ∈ l, key x = key y → x = y) : firsts key l = l.eraseDups := by
  induction l using List.reverseRecOn with
  | nil => rfl
  | append_singleton l x ih =>
    have hmem : key x ∈ l.eraseDups.map key ↔ x ∈ l := by
      refine ⟨fun hk => ?_, fun hx => List.mem_map_of_mem (List.mem_eraseDups.2 hx)⟩
      obtain ⟨y, hy, hyx⟩ := List.mem_map.1 hk
      have hyl := List.mem_eraseDups.1 hy
      exact h y (List.mem_append_left _ hyl) x (by simp) hyx ▸ hyl
    rw [firsts_concat, eraseDups_concat, keep,
      ih fun y hy z hz => h y (List.mem_append_left _ hy) z (List.mem_append_left _ hz)]
    simp only [hmem]

end

/-! ### Calls -/

/-- The two ends of a link, in no order. -/
def NetworkLink.ends (l : NetworkLink) : Sym2 String := s(l.source, l.target)

section

variable {α : Type}

/-- The node that a call adds. -/
def Draw.node? : Draw α → Option (NetworkNode α)
  | .node n => some n
  | .link _ => none

/-- The link that a call adds. -/
def Draw.link? : Draw α → Option NetworkLink
  | .node _ => none
  | .link l => some l

namespace Network

variable {g : Network α}

theorem hasNode_iff {id : String} : g.hasNode id = true ↔ id ∈ g.nodes.map (·.id) := by
  simp [hasNode]

theorem joins_iff {l : NetworkLink} :
    g.joins l.source l.target = true ↔ l.ends ∈ g.links.map NetworkLink.ends := by
  simp only [joins, List.any_eq_true, Bool.or_eq_true, Bool.and_eq_true, beq_iff_eq,
    List.mem_map, NetworkLink.ends, Sym2.eq_iff]

theorem add_node (n : NetworkNode α) :
    g.add (.node n) = some { g with nodes := keep (·.id) g.nodes n } := by
  rw [add, keep]
  simp only [← hasNode_iff]
  split <;> rfl

theorem add_link {l : NetworkLink} (hs : g.hasNode l.source = true)
    (ht : g.hasNode l.target = true) :
    g.add (.link l) = some { g with links := keep NetworkLink.ends g.links l } := by
  rw [add, hs, ht, Bool.and_self, if_pos rfl, keep]
  simp only [← joins_iff]
  split <;> rfl

/-- A link without its ends is refused. -/
theorem ends_of_add_link {l : NetworkLink} {h : Network α} (hadd : g.add (.link l) = some h) :
    g.hasNode l.source = true ∧ g.hasNode l.target = true := by
  rw [add] at hadd
  split at hadd
  · next hends => exact Bool.and_eq_true_iff.1 hends
  · cases hadd

/-- What one call does that is not refused. -/
theorem add_eq_some {d : Draw α} {h : Network α} (hadd : g.add d = some h) :
    h = ⟨d.node?.toList.foldl (keep (·.id)) g.nodes,
      d.link?.toList.foldl (keep NetworkLink.ends) g.links⟩ := by
  cases d with
  | node n => exact (Option.some.inj ((add_node n).symm.trans hadd)).symm
  | link l =>
    obtain ⟨hs, ht⟩ := ends_of_add_link hadd
    exact (Option.some.inj ((add_link hs ht).symm.trans hadd)).symm

theorem accepts_cons {d : Draw α} {ds : List (Draw α)} :
    g.accepts (d :: ds) = true ↔ ∃ h, g.add d = some h ∧ h.accepts ds = true := by
  rw [accepts]
  cases g.add d <;> simp

/-- **What is drawn**, if no call fails: the first node with each identifier and the
first link between each two nodes. -/
theorem drawAll_of_accepts {ds : List (Draw α)} (h : g.accepts ds = true) :
    g.drawAll ds = ⟨(ds.filterMap Draw.node?).foldl (keep (·.id)) g.nodes,
      (ds.filterMap Draw.link?).foldl (keep NetworkLink.ends) g.links⟩ := by
  induction ds generalizing g with
  | nil => rfl
  | cons d ds ih =>
    obtain ⟨g', hadd, hacc⟩ := accepts_cons.1 h
    rw [drawAll, List.foldl_cons, hadd, Option.getD_some, ← drawAll, ih hacc, add_eq_some hadd,
      ← List.foldl_append, ← List.foldl_append]
    cases d <;> rfl

theorem nodes_drawAll {ds : List (Draw α)} (h : empty.accepts ds = true) :
    (empty.drawAll ds).nodes = firsts (·.id) (ds.filterMap Draw.node?) :=
  congrArg nodes (drawAll_of_accepts h)

theorem links_drawAll {ds : List (Draw α)} (h : empty.accepts ds = true) :
    (empty.drawAll ds).links = firsts NetworkLink.ends (ds.filterMap Draw.link?) :=
  congrArg links (drawAll_of_accepts h)

/-! ### Which calls fail -/

theorem hasNode_add_iff {id : String} {d : Draw α} :
    ((g.add d).getD g).hasNode id = true ↔
      g.hasNode id = true ∨ id ∈ d.node?.toList.map (·.id) := by
  cases d with
  | node n =>
    rw [add_node, Option.getD_some, hasNode_iff, hasNode_iff, mem_map_keep]
    simp [Draw.node?]
  | link l =>
    have hnone : id ∉ (Draw.link l : Draw α).node?.toList.map (·.id) := by simp [Draw.node?]
    rw [or_iff_left hnone]
    cases hadd : g.add (.link l) with
    | none => rfl
    | some h =>
      rw [add_eq_some hadd]
      rfl

/-- The nodes of a network are those that were there and those of the calls. -/
theorem hasNode_drawAll_iff {id : String} {ds : List (Draw α)} :
    (g.drawAll ds).hasNode id = true ↔
      g.hasNode id = true ∨ id ∈ (ds.filterMap Draw.node?).map (·.id) := by
  induction ds generalizing g with
  | nil => simp [drawAll]
  | cons d ds ih =>
    have hcons : (d :: ds).filterMap Draw.node? = d.node?.toList ++ ds.filterMap Draw.node? := by
      cases d <;> rfl
    rw [drawAll, List.foldl_cons, ← drawAll, ih, hasNode_add_iff, hcons, List.map_append,
      List.mem_append, or_assoc]

theorem hasNode_drawAll {id : String} (ds : List (Draw α)) (h : g.hasNode id = true) :
    (g.drawAll ds).hasNode id = true :=
  hasNode_drawAll_iff.2 (.inl h)

theorem accepts_node (n : NetworkNode α) : g.accepts [.node n] = true :=
  accepts_cons.2 ⟨_, add_node n, rfl⟩

theorem accepts_link {l : NetworkLink} (hs : g.hasNode l.source = true)
    (ht : g.hasNode l.target = true) : g.accepts [.link l] = true :=
  accepts_cons.2 ⟨_, add_link hs ht, rfl⟩

theorem accepts_append {a b : List (Draw α)} :
    g.accepts (a ++ b) = true ↔ g.accepts a = true ∧ (g.drawAll a).accepts b = true := by
  induction a generalizing g with
  | nil => simp [accepts, drawAll]
  | cons d a ih =>
    rw [List.cons_append, accepts_cons, accepts_cons]
    cases hadd : g.add d with
    | none => simp
    | some g' =>
      have hdraw : g.drawAll (d :: a) = g'.drawAll a := by
        rw [drawAll, List.foldl_cons, hadd]
        rfl
      simp [ih, hdraw]

/-- Pieces, each of which is accepted wherever the nodes are that were there at first. -/
theorem accepts_flatMap {β : Type} {f : β → List (Draw α)} {xs : List β}
    (h : ∀ x ∈ xs, ∀ g' : Network α, (∀ id, g.hasNode id = true → g'.hasNode id = true) →
      g'.accepts (f x) = true) :
    g.accepts (xs.flatMap f) = true := by
  induction xs generalizing g with
  | nil => rfl
  | cons x xs ih =>
    rw [List.flatMap_cons, accepts_append]
    refine ⟨h x List.mem_cons_self g fun _ hid => hid, ih fun y hy g' hg' => ?_⟩
    exact h y (List.mem_cons_of_mem _ hy) g' fun id hid => hg' id (hasNode_drawAll _ hid)

end Network
end

end SchemaDiagram

/-
# Keys of what is drawn

A node is known by its name, an edge by the names of its ends, and a stub by the
name and the field that declare it and its slot. Edges never share a key. Slots are
counted for each declaration, so stubs share one only if a name is declared twice
and both declarations have a field of one name in the same slot
(`nodup_keys_stubs_iff`); nodes share a name when it is declared twice.

Key definitions: `Stub.origin`, `hiddenSlots`, `Scene.Keys`.
Key theorems: `Stub.key_eq_key_iff`, `nodup_keys_edges`, `nodup_keys_stubs_iff`,
`keys_scene`.
-/
import SchemaDiagram.Diagram.Scene
import SchemaDiagram.Proofs.Diagram.Routing

namespace SchemaDiagram

theorem nodup_map_iff_nodup_map {β γ δ : Type} {f : β → γ} {g : β → δ} {l : List β}
    (h : ∀ a ∈ l, ∀ b ∈ l, f a = f b ↔ g a = g b) : (l.map f).Nodup ↔ (l.map g).Nodup := by
  rw [List.Nodup, List.Nodup, List.pairwise_map, List.pairwise_map]
  exact List.Pairwise.iff_of_mem fun ha hb => not_congr (h _ ha _ hb)

/-! ### Keys of stubs -/

theorem toList_slot (n : ℕ) : (toString (n : ℤ)).toList = Nat.toDigits 10 n := by
  have hdigits : toString (n : ℤ) = String.ofList (Nat.toDigits 10 n) := Nat.repr_eq_ofList_toDigits
  rw [hdigits, String.toList_ofList]

theorem colon_not_mem_slot (n : ℕ) : ':' ∉ (toString (n : ℤ)).toList := by
  rw [toList_slot]
  exact fun h => absurd (Nat.isDigit_of_mem_toDigits (by decide) (by decide) h) (by decide)

theorem slot_inj {m n : ℕ} (h : toString (m : ℤ) = toString (n : ℤ)) : m = n := by
  have hdigits := congrArg String.toList h
  rw [toList_slot, toList_slot] at hdigits
  calc
    m = Nat.ofDigitChars 10 (Nat.toDigits 10 m) 0 := Nat.ofDigitChars_ten_toDigits.symm
    _ = Nat.ofDigitChars 10 (Nat.toDigits 10 n) 0 := by rw [hdigits]
    _ = n := Nat.ofDigitChars_ten_toDigits

variable {α : Type}

/-- The name and the field that declare a stub, and its slot. -/
def Stub.origin (t : Stub α) : String × String × ℤ := (t.source, t.field, t.slot)

theorem Stub.key_eq_key_iff {s t : Stub α} (hs : ':' ∉ s.source.toList)
    (ht : ':' ∉ t.source.toList) {m n : ℕ} (hm : s.slot = m) (hn : t.slot = n) :
    s.key = t.key ↔ s.origin = t.origin := by
  refine ⟨fun h => ?_, fun h => ?_⟩
  · have hslots : pairKey (pairKey s.source s.field) (toString (m : ℤ)) =
        pairKey (pairKey t.source t.field) (toString (n : ℤ)) := hm ▸ hn ▸ h
    obtain ⟨hfields, hslot⟩ :=
      pairKey_inj_of_right (colon_not_mem_slot m) (colon_not_mem_slot n) hslots
    obtain ⟨hsource, hfield⟩ := pairKey_inj hs ht hfields
    rw [origin, origin, hsource, hfield, hm, hn, slot_inj hslot]
  · obtain ⟨hsource, hrest⟩ := Prod.mk.inj h
    obtain ⟨hfield, hslot⟩ := Prod.mk.inj hrest
    rw [key, key, hsource, hfield, hslot]

/-- The fields of an entity that lead to hidden entities, with their slots. -/
def hiddenSlots (shown : String → Bool) (e : Entity) : List (String × ℤ) :=
  (hiddenRelations shown e).zipIdx.map fun p => (p.1.field, (p.2 : ℤ))

/-- No slot is used twice by one entity. -/
theorem nodup_hiddenSlots (shown : String → Bool) (e : Entity) : (hiddenSlots shown e).Nodup := by
  have hslots : (hiddenSlots shown e).map (·.2) =
      (List.range' 0 (hiddenRelations shown e).length).map ((↑) : ℕ → ℤ) := by
    rw [hiddenSlots, List.map_map, ← List.zipIdx_map_snd, List.map_map]
    rfl
  have hnodup : ((hiddenSlots shown e).map (·.2)).Nodup := by
    rw [hslots]
    exact List.Nodup.map (fun _ _ h => Int.ofNat.inj h) List.nodup_range'
  exact hnodup.of_map _

variable [Scalar α]

section

variable {schema : Option Schema} {v : View α}
  (hboxes : ∀ n ∈ (shownEntities schema v).map (·.name), n ∈ v.boxes.keys)
  (hcolons : ∀ n ∈ (shownEntities schema v).map (·.name), ':' ∉ n.toList)

include hboxes

theorem origins_route :
    (route schema v).stubs.map Stub.origin =
      (shownEntities schema v).flatMap fun e =>
        (hiddenSlots (isDeclared (shownEntities schema v)) e).map fun q => (e.name, q) := by
  rw [map_stubs_route hboxes (fun n r k => (n, r.field, (k : ℤ))) fun _ _ _ _ => rfl]
  refine List.flatMap_congr fun e _ => ?_
  rw [hiddenSlots, List.map_map]
  rfl

/-- A stub starts at a shown entity. -/
theorem origin_of_mem_stubs {t : Stub α} (ht : t ∈ (route schema v).stubs) :
    t.source ∈ (shownEntities schema v).map (·.name) ∧ ∃ n : ℕ, t.slot = n := by
  have hmem := List.mem_map_of_mem (f := Stub.origin) ht
  rw [origins_route hboxes] at hmem
  obtain ⟨e, he, hq⟩ := List.mem_flatMap.1 hmem
  obtain ⟨q, hq, hqt⟩ := List.mem_map.1 hq
  obtain ⟨p, -, rfl⟩ := List.mem_map.1 hq
  obtain ⟨hsource, hrest⟩ := Prod.mk.inj hqt
  exact ⟨hsource ▸ List.mem_map_of_mem he, p.2, (Prod.mk.inj hrest).2.symm⟩

/-- Every shown declaration has a node. -/
theorem names_nodes_scene :
    (scene schema v).nodes.map (·.name) = (shownEntities schema v).map (·.name) := by
  have hnode : ∀ e ∈ shownEntities schema v, (node? v e).map (·.name) = some e.name := by
    intro e he
    obtain ⟨b, hb⟩ := Keyed.exists_find?_of_mem_keys (hboxes _ (List.mem_map_of_mem he))
    rw [node?, hb]
    rfl
  rw [scene, List.map_filterMap, List.filterMap_congr hnode, List.filterMap_eq_map']

include hcolons

theorem nodup_keys_edges : ((route schema v).edges.map Edge.key).Nodup := by
  have hdraws := draws_route hboxes hcolons
  refine (nodup_map_iff_nodup_map fun c hc d hd => ⟨fun h => ?_, fun h => ?_⟩).2 hdraws.nodup_ends
  · exact Prod.ext_iff.2 (pairKey_inj (hcolons _ (hdraws.ends_mem c hc).1)
      (hcolons _ (hdraws.ends_mem d hd).1) h)
  · obtain ⟨hsource, htarget⟩ := Prod.mk.inj h
    rw [Edge.key, Edge.key, hsource, htarget]

/-- Stubs have distinct keys unless two declarations of one name have a field of one
name in one slot. -/
theorem nodup_keys_stubs_iff :
    ((route schema v).stubs.map Stub.key).Nodup ↔
      (shownEntities schema v).Pairwise fun d e => d.name = e.name →
        (hiddenSlots (isDeclared (shownEntities schema v)) d).Disjoint
          (hiddenSlots (isDeclared (shownEntities schema v)) e) := by
  have hkeys := nodup_map_iff_nodup_map fun s hs t ht => by
    obtain ⟨hsource, m, hm⟩ := origin_of_mem_stubs hboxes hs
    obtain ⟨htarget, n, hn⟩ := origin_of_mem_stubs hboxes ht
    exact Stub.key_eq_key_iff (hcolons _ hsource) (hcolons _ htarget) hm hn
  have hnodup : ∀ e ∈ shownEntities schema v,
      ((hiddenSlots (isDeclared (shownEntities schema v)) e).map fun q => (e.name, q)).Nodup :=
    fun e _ => (nodup_hiddenSlots _ e).map fun _ _ h => (Prod.mk.inj h).2
  rw [hkeys, origins_route hboxes, List.nodup_flatMap, and_iff_right hnodup]
  refine List.Pairwise.iff fun d e => ⟨fun h hname q hd he => ?_, fun h p hd he => ?_⟩
  · refine h (List.mem_map_of_mem hd) ?_
    rw [hname]
    exact List.mem_map_of_mem he
  · obtain ⟨q, hq, rfl⟩ := List.mem_map.1 hd
    obtain ⟨r, hr, hrq⟩ := List.mem_map.1 he
    obtain ⟨hname, rfl⟩ := Prod.mk.inj hrq
    exact h hname.symm hq hr

end

/-- The keys in a scene of some entities: edges never share one, and nodes and stubs
share one only if a name is declared twice, stubs only if the two declarations have a
field of one name in one slot. -/
structure Scene.Keys (σ : Scene α) (es : List Entity) : Prop where
  edges : (σ.edges.map Edge.key).Nodup
  nodes_iff : (σ.nodes.map (·.name)).Nodup ↔ (es.map (·.name)).Nodup
  stubs_iff : (σ.stubs.map Stub.key).Nodup ↔
    es.Pairwise fun d e => d.name = e.name →
      (hiddenSlots (isDeclared es) d).Disjoint (hiddenSlots (isDeclared es) e)

omit [Scalar α] in
/-- Stubs of declarations with distinct names have distinct keys. -/
theorem Scene.Keys.stubs {σ : Scene α} {es : List Entity} (h : σ.Keys es)
    (hes : (es.map (·.name)).Nodup) : (σ.stubs.map Stub.key).Nodup := by
  rw [List.Nodup, List.pairwise_map] at hes
  exact h.stubs_iff.2 (hes.imp fun hne hname => absurd hname hne)

theorem keys_scene {schema : Option Schema} {v : View α}
    (hboxes : ∀ n ∈ (shownEntities schema v).map (·.name), n ∈ v.boxes.keys)
    (hcolons : ∀ n ∈ (shownEntities schema v).map (·.name), ':' ∉ n.toList) :
    (scene schema v).Keys (shownEntities schema v) where
  edges := nodup_keys_edges hboxes hcolons
  nodes_iff := by rw [names_nodes_scene hboxes]
  stubs_iff := nodup_keys_stubs_iff hboxes hcolons

end SchemaDiagram

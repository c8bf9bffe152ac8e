/-
# Maps in the order of insertion

A keyed collection holds one value for each of its keys. A value put under a
new key comes last; a value put under a known key takes the place of the old
one. No key occurs twice, which the type keeps.

Key definitions: `Keyed`, `Keyed.find?`, `Keyed.put`, `Keyed.erase`,
`Keyed.ofList`.
Key theorems: `Keyed.keys_put`, `Keyed.find?_put_self`, `Keyed.find?_put_of_ne`.
-/

namespace SchemaDiagram

/-- Entries with distinct keys, in the order in which the keys came. -/
structure Keyed (κ β : Type) where
  entries : List (κ × β)
  distinct : (entries.map (·.1)).Nodup

namespace Keyed

variable {κ β : Type} [DecidableEq κ]

/-- The value under a key in a list of entries. -/
def findIn (k : κ) : List (κ × β) → Option β
  | [] => none
  | e :: es => if e.1 = k then some e.2 else findIn k es

/-- The entries with a value put under a key. -/
def putIn (k : κ) (v : β) : List (κ × β) → List (κ × β)
  | [] => [(k, v)]
  | e :: es => if e.1 = k then (k, v) :: es else e :: putIn k v es

theorem keys_putIn (k : κ) (v : β) (es : List (κ × β)) :
    (putIn k v es).map (·.1) =
      if k ∈ es.map (·.1) then es.map (·.1) else es.map (·.1) ++ [k] := by
  induction es with
  | nil => simp [putIn]
  | cons e es ih =>
    rw [putIn]
    by_cases h : e.1 = k
    · simp [h]
    · rw [if_neg h, List.map_cons, ih]
      have h2 : ¬ k = e.1 := fun hk => h hk.symm
      by_cases hm : k ∈ es.map (·.1)
      · rw [if_pos hm, if_pos (by simp [hm]), List.map_cons]
      · rw [if_neg hm, if_neg (by simpa [h2] using hm), List.map_cons, List.cons_append]

theorem nodup_putIn {k : κ} {v : β} {es : List (κ × β)} (h : (es.map (·.1)).Nodup) :
    ((putIn k v es).map (·.1)).Nodup := by
  rw [keys_putIn]
  split
  · exact h
  · next hk =>
    rw [List.nodup_append]
    refine ⟨h, by simp, ?_⟩
    intro a ha b hb
    rw [List.mem_singleton.1 hb]
    exact fun hab => hk (hab ▸ ha)

/-- No entries. -/
def empty : Keyed κ β := ⟨[], List.nodup_nil⟩

/-- The keys in the order in which they came. -/
def keys (m : Keyed κ β) : List κ :=
  m.entries.map (·.1)

/-- The values in the order of their keys. -/
def values (m : Keyed κ β) : List β :=
  m.entries.map (·.2)

/-- The value under a key. -/
def find? (m : Keyed κ β) (k : κ) : Option β :=
  findIn k m.entries

/-- There is a value under the key. -/
def has (m : Keyed κ β) (k : κ) : Bool :=
  (m.find? k).isSome

/-- The collection with a value put under a key. -/
def put (m : Keyed κ β) (k : κ) (v : β) : Keyed κ β :=
  ⟨putIn k v m.entries, nodup_putIn m.distinct⟩

/-- The collection without a key. -/
def erase (m : Keyed κ β) (k : κ) : Keyed κ β :=
  ⟨m.entries.filter fun e => decide (e.1 ≠ k),
    m.distinct.sublist (List.filter_sublist.map _)⟩

/-- The entries of a list put one after the other. -/
def ofList (es : List (κ × β)) : Keyed κ β :=
  es.foldl (fun m e => m.put e.1 e.2) empty

theorem keys_put (m : Keyed κ β) (k : κ) (v : β) :
    (m.put k v).keys = if k ∈ m.keys then m.keys else m.keys ++ [k] :=
  keys_putIn k v m.entries

theorem mem_keys_put {m : Keyed κ β} {k j : κ} {v : β} :
    j ∈ (m.put k v).keys ↔ j = k ∨ j ∈ m.keys := by
  rw [keys_put]
  split
  · next h => exact ⟨.inr, fun hj => hj.elim (· ▸ h) id⟩
  · simp [or_comm]

theorem find?_put_self (m : Keyed κ β) (k : κ) (v : β) : (m.put k v).find? k = some v := by
  obtain ⟨es, h⟩ := m
  show findIn k (putIn k v es) = some v
  clear h
  induction es with
  | nil => simp [putIn, findIn]
  | cons e es ih =>
    rw [putIn]
    by_cases h : e.1 = k
    · simp [h, findIn]
    · rw [if_neg h, findIn, if_neg h, ih]

theorem find?_put_of_ne {m : Keyed κ β} {k j : κ} (v : β) (h : j ≠ k) :
    (m.put k v).find? j = m.find? j := by
  obtain ⟨es, hd⟩ := m
  show findIn j (putIn k v es) = findIn j es
  clear hd
  induction es with
  | nil => simp [putIn, findIn, Ne.symm h]
  | cons e es ih =>
    rw [putIn]
    by_cases hk : e.1 = k
    · rw [if_pos hk, findIn, findIn]
      simp [hk, Ne.symm h]
    · rw [if_neg hk, findIn, findIn, ih]

theorem isSome_find?_iff (m : Keyed κ β) (k : κ) : (m.find? k).isSome ↔ k ∈ m.keys := by
  obtain ⟨es, h⟩ := m
  show (findIn k es).isSome ↔ k ∈ es.map (·.1)
  clear h
  induction es with
  | nil => simp [findIn]
  | cons e es ih =>
    rw [findIn]
    by_cases h : e.1 = k
    · simp [h]
    · rw [if_neg h, ih]
      simp [Ne.symm h]

end Keyed
end SchemaDiagram

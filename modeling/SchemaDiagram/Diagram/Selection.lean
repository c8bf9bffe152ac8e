/-
# Selections

A selection is a set of entity names, kept as a list without repetitions.

Key definitions: `Selection`, `Selection.insert`, `Selection.erase`,
`Selection.ofList`, `Selection.sorted`.
Key theorems: `Selection.mem_insert`, `Selection.mem_erase`,
`Selection.mem_ofList`.
-/

namespace SchemaDiagram

/-- Names without repetition. -/
structure Selection where
  names : List String
  distinct : names.Nodup
  deriving DecidableEq, Repr

namespace Selection

/-- Nothing selected. -/
def empty : Selection := ⟨[], List.nodup_nil⟩

/-- The name is selected. -/
def has (s : Selection) (name : String) : Bool :=
  s.names.contains name

/-- The selection with a name added. -/
def insert (s : Selection) (name : String) : Selection :=
  if h : name ∈ s.names then s
  else ⟨name :: s.names, List.nodup_cons.2 ⟨h, s.distinct⟩⟩

/-- The selection without a name. -/
def erase (s : Selection) (name : String) : Selection :=
  ⟨s.names.filter (· ≠ name), s.distinct.sublist List.filter_sublist⟩

/-- The names of a list. -/
def ofList (names : List String) : Selection :=
  names.foldr (fun n s => s.insert n) empty

/-- How many names are selected. -/
def size (s : Selection) : Nat :=
  s.names.length

/-- The names in order. -/
def sorted (s : Selection) : List String :=
  s.names.mergeSort fun a b => !decide (b < a)

theorem has_iff {s : Selection} {n : String} : s.has n = true ↔ n ∈ s.names :=
  List.contains_iff_mem

theorem mem_insert {s : Selection} {n m : String} :
    m ∈ (s.insert n).names ↔ m = n ∨ m ∈ s.names := by
  unfold insert
  split
  · next h => exact ⟨.inr, fun hm => hm.elim (· ▸ h) id⟩
  · simp

theorem mem_erase {s : Selection} {n m : String} :
    m ∈ (s.erase n).names ↔ m ∈ s.names ∧ m ≠ n := by
  simp [erase]

theorem mem_ofList {names : List String} {n : String} : n ∈ (ofList names).names ↔ n ∈ names := by
  induction names with
  | nil => simp [ofList, empty]
  | cons m ms ih =>
    show n ∈ ((ofList ms).insert m).names ↔ _
    rw [mem_insert, ih, List.mem_cons]

end Selection
end SchemaDiagram

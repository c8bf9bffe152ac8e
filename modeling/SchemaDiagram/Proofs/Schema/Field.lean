/-
# Reading a field

A word, blanks and a type are read as a field whatever follows the type, as long
as that begins with a blank.

Key theorems: `Field.match?_eq_some`.
-/
import SchemaDiagram.Proofs.Text.Run
import SchemaDiagram.Schema.Body

namespace SchemaDiagram

/-- A word, a gap and a type are read as a field with the attributes in the tail. -/
theorem Field.match?_eq_some {name gap type tail : List Char}
    (hn0 : name ≠ []) (hn : ∀ c ∈ name, Text.isWord c = true)
    (hg0 : gap ≠ []) (hg : ∀ c ∈ gap, Text.isBlank c = true)
    (ht0 : type ≠ []) (ht : ∀ c ∈ type, Text.isBlank c = false)
    (hs : ∀ c ∈ tail.head?, Text.isBlank c = true) :
    Field.match? (name ++ (gap ++ (type ++ tail))) =
      some ⟨String.ofList name, String.ofList type, (Attribute.scan tail).map String.ofList,
        String.ofList (name ++ (gap ++ (type ++ tail))), false⟩ := by
  have hgw : ∀ c ∈ (gap ++ (type ++ tail)).head?, Text.isWord c = false := fun c hc =>
    Text.isWord_eq_false_of_isBlank (Text.head?_append_of_all hg hg0 c hc)
  have htb : ∀ c ∈ (type ++ tail).head?, Text.isBlank c = false := by
    cases type with
    | nil => exact absurd rfl ht0
    | cons d type => exact Text.forall_mem_head?_cons (ht d List.mem_cons_self) _
  have hty : ∀ c ∈ type, (!Text.isBlank c) = true := fun c hc => by rw [ht c hc]; rfl
  have hstop : ∀ c ∈ tail.head?, (!Text.isBlank c) = false := fun c hc => by rw [hs c hc]; rfl
  simp only [Field.match?]
  rw [Text.takeWhile_append_stop hn hgw, Text.dropWhile_append_stop hn hgw, Text.trimStart,
    Text.dropWhile_append_stop hg htb, Text.takeWhile_append_stop hty hstop,
    Text.dropWhile_append_stop hty hstop, if_neg]
  have hlen : 0 < gap.length := List.length_pos_iff.2 hg0
  simp only [List.length_append, Bool.or_eq_true, decide_eq_true_eq, List.isEmpty_iff, hn0,
    false_or, List.append_eq_nil_iff, ht0, false_and, or_false]
  omega

end SchemaDiagram

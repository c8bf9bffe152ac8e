/-
# Sorting by keys

A stable sort leaves items that do not exclude each other's place as they are. A list in
the order of keys is known by its items of each key.

Key theorems: `filter_mergeSort`, `eq_of_filter_eq`.
-/
import Mathlib

namespace SchemaDiagram

/-- Sorting leaves items as they are of which any one may come before any other. -/
theorem filter_mergeSort {γ : Type} {le : γ → γ → Bool} {p : γ → Bool}
    (trans : ∀ a b c, le a b = true → le b c = true → le a c = true)
    (total : ∀ a b, (le a b || le b a) = true)
    (hp : ∀ a b, p a = true → p b = true → le a b = true) (l : List γ) :
    (l.mergeSort le).filter p = l.filter p := by
  have hpair : (l.filter p).Pairwise fun a b => le a b = true :=
    List.pairwise_of_forall_mem_list fun a ha b hb =>
      hp a b (List.mem_filter.1 ha).2 (List.mem_filter.1 hb).2
  have hsub := (List.sublist_mergeSort trans total hpair List.filter_sublist).filter p
  simp only [List.filter_filter, Bool.and_self] at hsub
  exact (hsub.eq_of_length ((List.mergeSort_perm l le).filter p).length_eq.symm).symm

section

variable {γ κ : Type} [LinearOrder κ] {key : γ → κ} {l m : List γ}

theorem mem_iff_of_filter_eq (h : ∀ a, l.filter (key · = key a) = m.filter (key · = key a))
    (a : γ) : a ∈ l ↔ a ∈ m := by
  have ha := congrArg (a ∈ ·) (h a)
  simpa only [List.mem_filter, decide_true, and_true, eq_iff_iff] using ha

/-- A list in the order of keys is known by its items of each key. -/
theorem eq_of_filter_eq (hl : l.Pairwise (key · ≤ key ·)) (hm : m.Pairwise (key · ≤ key ·))
    (h : ∀ a, l.filter (key · = key a) = m.filter (key · = key a)) : l = m := by
  induction l generalizing m with
  | nil =>
    refine (List.eq_nil_iff_forall_not_mem.2 fun a ha => ?_).symm
    exact List.not_mem_nil ((mem_iff_of_filter_eq h a).2 ha)
  | cons a l ih =>
    cases m with
    | nil => exact absurd ((mem_iff_of_filter_eq h a).1 List.mem_cons_self) List.not_mem_nil
    | cons b m =>
      obtain ⟨hal, hl'⟩ := List.pairwise_cons.1 hl
      obtain ⟨hbm, hm'⟩ := List.pairwise_cons.1 hm
      -- either head is in the other list, so neither key is above the other
      have hba : key b ≤ key a := by
        rcases List.mem_cons.1 ((mem_iff_of_filter_eq h a).1 List.mem_cons_self) with hab | ha
        · rw [hab]
        · exact hbm a ha
      have hab : key a ≤ key b := by
        rcases List.mem_cons.1 ((mem_iff_of_filter_eq h b).2 List.mem_cons_self) with hba | hb
        · rw [hba]
        · exact hal b hb
      have hkey : key b = key a := le_antisymm hba hab
      have hhead := h a
      rw [List.filter_cons_of_pos (by simp), List.filter_cons_of_pos (by simp [hkey])] at hhead
      obtain ⟨rfl, -⟩ := List.cons.inj hhead
      refine congrArg (a :: ·) (ih hl' hm' fun c => ?_)
      have hc := h c
      by_cases hac : key a = key c <;> simpa [hac] using hc

end

end SchemaDiagram

/-
# Outcomes

A computation that may fail comes to a value when each of its parts does, and fails
when one of them does after values of those before it.

Key theorems: `bind_eq_ok_iff`, `map_eq_ok_iff`, `map_eq_map_map`,
`bind_eq_error_iff`, `map_eq_error_iff`, `exists_eq_ok_of_any`.
-/
import SchemaDiagram.Fault

namespace SchemaDiagram

variable {ε β γ δ : Type}

theorem bind_eq_ok_iff {x : Except ε β} {f : β → Except ε γ} {c : γ} :
    x >>= f = .ok c ↔ ∃ b, x = .ok b ∧ f b = .ok c := by
  cases x with
  | error e => exact ⟨fun h => (by cases h), fun ⟨_, h, _⟩ => (by cases h)⟩
  | ok b => exact ⟨fun h => ⟨b, rfl, h⟩, fun ⟨_, hb, h⟩ => Except.ok.inj hb ▸ h⟩

theorem map_eq_ok_iff {x : Except ε β} {f : β → γ} {c : γ} :
    x.map f = .ok c ↔ ∃ b, x = .ok b ∧ f b = c := by
  cases x with
  | error e => exact ⟨fun h => (by cases h), fun ⟨_, h, _⟩ => (by cases h)⟩
  | ok b =>
    refine ⟨fun h => ⟨b, rfl, Except.ok.inj h⟩, fun ⟨_, hb, h⟩ => ?_⟩
    rw [Except.ok.inj hb, ← h]
    rfl

/-- A result that is computed by way of another. -/
theorem map_eq_map_map {x : Except ε β} {f : β → γ} {g : γ → δ} {k : β → δ}
    (h : ∀ b, k b = g (f b)) : x.map k = (x.map f).map g := by
  cases x with
  | error e => rfl
  | ok b => exact congrArg Except.ok (h b)

theorem bind_eq_error_iff {x : Except ε β} {f : β → Except ε γ} {e : ε} :
    x >>= f = .error e ↔ x = .error e ∨ ∃ b, x = .ok b ∧ f b = .error e := by
  cases x with
  | error d =>
    refine ⟨fun h => .inl (congrArg _ (Except.error.inj h)), ?_⟩
    rintro (h | ⟨b, hb, -⟩)
    · exact congrArg _ (Except.error.inj h)
    · cases hb
  | ok b =>
    refine ⟨fun h => .inr ⟨b, rfl, h⟩, ?_⟩
    rintro (h | ⟨c, hc, h⟩)
    · cases h
    · exact Except.ok.inj hc ▸ h

/-- A check that a value passes shows that there is one. -/
theorem exists_eq_ok_of_any {x : Except ε β} {p : β → Bool} (h : x.toOption.any p = true) :
    ∃ b, x = .ok b ∧ p b = true := by
  cases x with
  | error e => cases h
  | ok b => exact ⟨b, rfl, h⟩

theorem map_eq_error_iff {x : Except ε β} {f : β → γ} {e : ε} :
    x.map f = .error e ↔ x = .error e := by
  cases x with
  | error d =>
    exact ⟨fun h => congrArg _ (Except.error.inj h), fun h => congrArg _ (Except.error.inj h)⟩
  | ok b => exact ⟨fun h => (by cases h), fun h => (by cases h)⟩

end SchemaDiagram

/-
# Open strings

Which string is open after a stretch of text goes by two rules: a quote after a
backslash opens and closes nothing, and only the quote that opened a string closes
it. Read off the text from its end, the rules are the inductive `Quote.Leaves`, and
the state that the reader of comments is in is the one they give.

Key definitions: `Quote.escapes`, `Quote.Counts`, `Quote.Leaves`.
Key theorems: `Quote.run_append`, `Quote.after_concat`, `Quote.leaves_iff`.
-/
import Mathlib.Data.List.Induction
import SchemaDiagram.Proofs.Schema.Comment

namespace SchemaDiagram
namespace Quote

/-! ### The state after a stretch of text -/

/-- A backslash stands before what follows the text; before the text one does if
`escaped` says so. -/
def escapes (escaped : Bool) (s : List Char) : Bool :=
  (s.getLast?.map (· == '\\')).getD escaped

theorem escapes_cons (e : Bool) (c : Char) (s : List Char) :
    escapes (c == '\\') s = escapes e (c :: s) := by
  cases s with
  | nil => rfl
  | cons d s => simp [escapes, List.getLast?_cons]

theorem run_append (e : Bool) (q : Quote) (s t : List Char) :
    run e q (s ++ t) = run (escapes e s) (run e q s) t := by
  induction s generalizing e q with
  | nil => rfl
  | cons c s ih => rw [List.cons_append, run, run, ih, escapes_cons]

theorem after_concat (p : List Char) (c : Char) :
    after (p ++ [c]) = step (escapes false p) (after p) c :=
  run_append false none p [c]

theorem exists_eq_concat_of_escapes {p : List Char} (h : escapes false p = true) :
    ∃ b, p = b ++ ['\\'] := by
  unfold escapes at h
  cases hlast : p.getLast? with
  | none => rw [hlast] at h; cases h
  | some c =>
    obtain ⟨b, rfl⟩ := List.getLast?_eq_some_iff.1 hlast
    rw [hlast] at h
    exact ⟨b, by rw [eq_of_beq h]⟩

/-- A backslash opens and closes nothing. -/
theorem after_concat_backslash (p : List Char) : after (p ++ ['\\']) = after p := by
  rw [after_concat, step_of_not_quote (by decide)]

/-- A quote after a backslash opens and closes nothing. -/
theorem after_escaped (p : List Char) (c : Char) : after (p ++ ['\\'] ++ [c]) = after p := by
  have hescapes : escapes false (p ++ ['\\']) = true := by simp [escapes]
  rw [after_concat, hescapes, after_concat_backslash]
  simp [step]

/-- What takes no part in strings and escapes may stand before a text. -/
theorem after_plain_append {a : List Char} (h : ∀ c ∈ a, isPlain c = true) (s : List Char) :
    after (a ++ s) = after s := by
  have hnone : run false none a = none :=
    run_of_not_quote (fun c hc => (isPlain_iff.1 (h c hc)).1) false none
  have hescapes : escapes false a = false := by
    unfold escapes
    cases hlast : a.getLast? with
    | none => rfl
    | some c => simp [(isPlain_iff.1 (h c (List.mem_of_getLast? hlast))).2.2]
  rw [after, run_append, hnone, hescapes, after]

/-- What opens a string is a quote. -/
theorem isQuote_of_mem_step {e : Bool} {q : Quote} {c : Char} (h : ∀ r ∈ q, isQuote r = true) :
    ∀ r ∈ step e q c, isQuote r = true := by
  unfold step
  split
  · next hc =>
    cases q with
    | none => exact fun r hr => Option.some.inj hr ▸ (Bool.and_eq_true_iff.1 hc).1
    | some q =>
      intro r hr
      dsimp only at hr
      split at hr
      · cases hr
      · exact h r hr
  · exact h

/-- A quote that counts changes nothing only in a string of the other quote. -/
theorem step_eq_self_iff {c : Char} (hc : isQuote c = true) (q : Quote) :
    step false q c = q ↔ ∃ r, q = some r ∧ r ≠ c := by
  cases q with
  | none => simp [step, hc]
  | some r =>
    by_cases h : r = c
    · simp [step, hc, h]
    · simp [step, hc, h]

/-! ### The rules -/

/-- A quote after the text opens or closes a string: no backslash stands before it. -/
def Counts (p : List Char) (c : Char) : Prop :=
  isQuote c = true ∧ p.getLast? ≠ some '\\'

/-- The quote that opened the string which a text leaves open, if it leaves one open. -/
inductive Leaves : List Char → Quote → Prop
  | nil : Leaves [] none
  | opens {p : List Char} {c : Char} (h : Leaves p none) (hc : Counts p c) :
    Leaves (p ++ [c]) (some c)
  | closes {p : List Char} {c : Char} (h : Leaves p (some c)) (hc : Counts p c) :
    Leaves (p ++ [c]) none
  | stays {p : List Char} {q c : Char} (h : Leaves p (some q)) (hc : c ≠ q) :
    Leaves (p ++ [c]) (some q)
  | passes {p : List Char} {q : Quote} {c : Char} (h : Leaves p q) (hc : ¬ Counts p c) :
    Leaves (p ++ [c]) q

theorem escapes_eq_true_iff {p : List Char} : escapes false p = true ↔ p.getLast? = some '\\' := by
  unfold escapes
  cases p.getLast? <;> simp

theorem step_of_counts {p : List Char} {c : Char} (h : Counts p c) (q : Quote) :
    step (escapes false p) q c = step false q c := by
  rw [Bool.eq_false_iff.2 fun he => h.2 (escapes_eq_true_iff.1 he)]

theorem step_of_not_counts {p : List Char} {c : Char} (h : ¬ Counts p c) (q : Quote) :
    step (escapes false p) q c = q := by
  cases hc : isQuote c with
  | false => exact step_of_not_quote hc _ q
  | true =>
    have hescapes : escapes false p = true :=
      escapes_eq_true_iff.2 (Classical.byContradiction fun hl => h ⟨hc, hl⟩)
    rw [hescapes]
    simp [step]

/-- A string stays open at every character but its own quote. -/
theorem step_some_of_ne {q c : Char} (h : c ≠ q) (e : Bool) : step e (some q) c = some q := by
  unfold step
  split
  · exact if_neg (Ne.symm h)
  · rfl

/-- The rules leave what the reader of comments finds. -/
theorem leaves_after (p : List Char) : Leaves p (after p) := by
  induction p using List.reverseRecOn with
  | nil => exact .nil
  | append_singleton p c ih =>
    rw [after_concat]
    by_cases hc : Counts p c
    · rw [step_of_counts hc]
      cases hq : after p with
      | none =>
        rw [hq] at ih
        have hstep : step false none c = some c := by simp [step, hc.1]
        rw [hstep]
        exact ih.opens hc
      | some q =>
        rw [hq] at ih
        by_cases hcq : c = q
        · obtain rfl := hcq
          have hstep : step false (some c) c = none := by simp [step, hc.1]
          rw [hstep]
          exact ih.closes hc
        · rw [step_some_of_ne hcq]
          exact ih.stays hcq
    · rw [step_of_not_counts hc]
      exact ih.passes hc

theorem leaves_iff {p : List Char} {q : Quote} : Leaves p q ↔ after p = q := by
  constructor
  · intro h
    induction h with
    | nil => rfl
    | opens _ hc ih => rw [after_concat, ih, step_of_counts hc]; simp [step, hc.1]
    | closes _ hc ih => rw [after_concat, ih, step_of_counts hc]; simp [step, hc.1]
    | stays _ hc ih => rw [after_concat, ih, step_some_of_ne hc]
    | passes _ hc ih => rw [after_concat, ih, step_of_not_counts hc]
  · rintro rfl
    exact leaves_after p

end Quote
end SchemaDiagram

/-
# Attributes after a field's type

An attribute is an at sign and a word, with arguments in parentheses after it
if the word is followed directly by an opening parenthesis that is closed
somewhere later. Arguments run to the first closing parenthesis. All other
text is skipped.

The reader goes over the text turn by turn. It is between attributes, in front
of the word of one, or in front of its arguments. There it looks for the closing
parenthesis, and it would fail if there were none; it comes there only if there
is one (`exists_turn`), so reading always has an outcome.

Key definitions: `Attribute.Place`, `Attribute.turn`, `Attribute.read`,
`Attribute.scan`.
Key theorems: `Attribute.measure_turn`, `Attribute.exists_turn`,
`Attribute.isSome_read`.
-/
import SchemaDiagram.Text.Blank

namespace SchemaDiagram
namespace Attribute

/-- Where the reader is: between attributes, or in one of which it has taken a
part and whose word or arguments come next. -/
inductive Place where
  | between
  | word (taken : List Char)
  | arguments (taken : List Char)
  deriving DecidableEq, Repr

/-- What a turn leads to: the attributes it completes, the place after it and
the text that is left. -/
structure Turn where
  found : List (List Char)
  place : Place
  rest : List Char
  deriving DecidableEq, Repr

/-- The text up to its first closing parenthesis, and what comes after that. -/
def closing? : List Char → Option (List Char × List Char)
  | [] => none
  | c :: s => if c = ')' then some ([c], s) else (closing? s).map fun p => (c :: p.1, p.2)

/-- The next turn of the reader, which fails if arguments are not closed. -/
def turn (p : Place) (c : Char) (s : List Char) : Option Turn :=
  match p with
  | .between =>
    if c = '@' ∧ s.head?.any Text.isWord = true then some ⟨[], .word ['@'], s⟩
    else some ⟨[], .between, s⟩
  | .word taken =>
    let name := taken ++ (c :: s).takeWhile Text.isWord
    let rest := (c :: s).dropWhile Text.isWord
    if rest.head? = some '(' ∧ ')' ∈ rest then some ⟨[], .arguments name, rest⟩
    else some ⟨[name], .between, rest⟩
  | .arguments taken => (closing? (c :: s)).map fun p => ⟨[taken ++ p.1], .between, p.2⟩

/-! ### Turns come to an end -/

theorem length_closing? {s a t : List Char} (h : closing? s = some (a, t)) :
    t.length < s.length := by
  induction s generalizing a with
  | nil => cases h
  | cons c s ih =>
    rw [closing?] at h
    split at h
    · obtain ⟨-, rfl⟩ := Prod.mk.inj (Option.some.inj h)
      exact Nat.lt_succ_self _
    · obtain ⟨⟨b, u⟩, hb, hpair⟩ := Option.map_eq_some_iff.1 h
      obtain ⟨-, rfl⟩ := Prod.mk.inj hpair
      exact Nat.lt_succ_of_lt (ih hb)

/-- How many turns the reader may make in this place before it has to go on. -/
def Place.turns : Place → Nat
  | between => 0
  | arguments _ => 1
  | word _ => 2

/-- With each turn there is less text left, or fewer turns before it gets less. -/
theorem measure_turn {p : Place} {c : Char} {s : List Char} {t : Turn}
    (h : turn p c s = some t) :
    3 * t.rest.length + t.place.turns < 3 * (s.length + 1) + p.turns := by
  cases p with
  | between =>
    simp only [turn] at h
    split at h <;> obtain rfl := Option.some.inj h <;> simp only [Place.turns] <;> omega
  | word taken =>
    have hlen : ((c :: s).dropWhile Text.isWord).length ≤ s.length + 1 :=
      (List.dropWhile_suffix Text.isWord).length_le
    simp only [turn] at h
    split at h <;> obtain rfl := Option.some.inj h <;> simp only [Place.turns] <;> omega
  | arguments taken =>
    obtain ⟨⟨a, u⟩, ha, rfl⟩ := Option.map_eq_some_iff.1 h
    have hlen := length_closing? ha
    simp only [List.length_cons] at hlen
    simp only [Place.turns]
    omega

/-- The attributes that the reader completes from a place on, if it does not fail. -/
def read (p : Place) : List Char → Option (List (List Char))
  | [] => some []
  | c :: s =>
    match _ : turn p c s with
    | none => none
    | some t => (read t.place t.rest).map (t.found ++ ·)
termination_by s => 3 * s.length + p.turns
decreasing_by exact measure_turn ‹_›

/-! ### No turn fails -/

/-- What stands before a reader that is in an attribute: a word, or arguments
that are closed. -/
def Fits : Place → List Char → Prop
  | .between, _ => True
  | .word _, s => s.head?.any Text.isWord = true
  | .arguments _, s => ')' ∈ s

theorem exists_closing? {s : List Char} (h : ')' ∈ s) : ∃ a t, closing? s = some (a, t) := by
  induction s with
  | nil => cases h
  | cons c s ih =>
    rw [closing?]
    by_cases hc : c = ')'
    · exact ⟨[c], s, if_pos hc⟩
    · obtain ⟨a, t, ha⟩ := ih ((List.mem_cons.1 h).resolve_left (Ne.symm hc))
      exact ⟨c :: a, t, by rw [if_neg hc, ha]; rfl⟩

/-- What a turn needs stands before the reader, and what the next turn needs stands
before it then. -/
theorem exists_turn {p : Place} {c : Char} {s : List Char} (h : Fits p (c :: s)) :
    ∃ t, turn p c s = some t ∧ Fits t.place t.rest := by
  cases p with
  | between =>
    simp only [turn]
    split
    · next hword => exact ⟨_, rfl, hword.2⟩
    · exact ⟨_, rfl, trivial⟩
  | word taken =>
    simp only [turn]
    split
    · next hclosed => exact ⟨_, rfl, hclosed.2⟩
    · exact ⟨_, rfl, trivial⟩
  | arguments taken =>
    obtain ⟨a, t, ha⟩ := exists_closing? (show ')' ∈ c :: s from h)
    exact ⟨⟨[taken ++ a], .between, t⟩, by simp only [turn, ha, Option.map_some], trivial⟩

theorem isSome_read {p : Place} {s : List Char} (h : Fits p s) : (read p s).isSome = true := by
  fun_induction read p s with
  | case1 => rfl
  | case2 p c s hnone =>
    obtain ⟨t, ht, -⟩ := exists_turn h
    rw [hnone] at ht
    cases ht
  | case3 p c s t hsome ih =>
    obtain ⟨t', ht, hfits⟩ := exists_turn h
    obtain rfl : t = t' := Option.some.inj (hsome.symm.trans ht)
    rw [Option.isSome_map]
    exact ih hfits

/-- The attributes in a text, from left to right. -/
def scan (s : List Char) : List (List Char) :=
  (read .between s).get (isSome_read trivial)

end Attribute
end SchemaDiagram

/-
# Comments at the end of a line

Two slashes start a comment unless a string is open. A string is opened by
either quote and closed by the quote that opened it; a quote after a backslash
does neither. Quote state starts afresh on each line. `Comment.strip` cuts the
line at its first comment and trims what is left; a line without a comment is
kept as it is.

Key definitions: `Quote.step`, `Quote.after`, `Comment.cut`, `Comment.strip`.
Key theorems: `Comment.cut_prefix`, `Comment.strip_of_cut_none`.
-/
import SchemaDiagram.Text.Blank

namespace SchemaDiagram

/-- Either of the characters that open and close a string. -/
def isQuote (c : Char) : Bool :=
  c == '\'' || c == '"'

/-- The quote that opened the string being read, if one is open. -/
abbrev Quote := Option Char

namespace Quote

/-- The state after the character `c`; `escaped` says that a backslash stands
before it. -/
def step (escaped : Bool) (open? : Quote) (c : Char) : Quote :=
  if isQuote c && !escaped then
    match open? with
    | none => some c
    | some q => if q = c then none else some q
  else open?

/-- The state after a stretch of text, from a given state. -/
def run (escaped : Bool) (open? : Quote) : List Char → Quote
  | [] => open?
  | c :: s => run (c == '\\') (step escaped open? c) s

/-- The state after the beginning of a line. -/
def after (s : List Char) : Quote :=
  run false none s

end Quote

namespace Comment

/-- The text before the first comment, if there is one. -/
def cut (escaped : Bool) (open? : Quote) : List Char → Option (List Char)
  | c :: d :: s =>
    let now := Quote.step escaped open? c
    if now.isNone && c == '/' && d == '/' then some []
    else (cut (c == '\\') now (d :: s)).map (c :: ·)
  | _ => none

/-- The line without its comment, trimmed at the end where a comment was cut. -/
def strip (line : List Char) : List Char :=
  match cut false none line with
  | some before => Text.trimEnd before
  | none => line

/-- What is cut is followed in the line by a comment. -/
theorem cut_prefix {e : Bool} {q : Quote} {s b : List Char} (h : cut e q s = some b) :
    ∃ r, s = b ++ '/' :: '/' :: r := by
  induction s generalizing e q b with
  | nil => simp [cut] at h
  | cons c s ih =>
    cases s with
    | nil => simp [cut] at h
    | cons d s =>
      rw [cut] at h
      split at h
      · next hc =>
        simp only [Bool.and_eq_true, beq_iff_eq] at hc
        obtain rfl := Option.some.inj h
        exact ⟨s, by rw [hc.1.2, hc.2]; rfl⟩
      · obtain ⟨t, ht, rfl⟩ := Option.map_eq_some_iff.1 h
        obtain ⟨r, hr⟩ := ih ht
        exact ⟨r, by rw [hr]; rfl⟩

theorem strip_of_cut_none {s : List Char} (h : cut false none s = none) : strip s = s := by
  rw [strip, h]

end Comment
end SchemaDiagram

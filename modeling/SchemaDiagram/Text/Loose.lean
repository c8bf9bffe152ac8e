/-
# Texts of code points

A code point is a character or half of a surrogate pair. Escapes in documents
can put such halves into a text, which is then a loose text: it can be kept and
shown, but it is no string and names no file.

Key definitions: `CodePoint`, `LooseText`, `LooseText.string?`,
`LooseText.characters`.
-/

namespace SchemaDiagram

/-- A character, or half of a surrogate pair under its number. -/
inductive CodePoint where
  | char (c : Char)
  | half (n : Nat)
  deriving DecidableEq, Repr

/-- The character that a code point is. -/
def CodePoint.char? : CodePoint → Option Char
  | char c => some c
  | half _ => none

/-- A text that may hold halves of surrogate pairs. -/
structure LooseText where
  points : List CodePoint
  deriving DecidableEq, Repr

namespace LooseText

/-- The loose text of characters. -/
def ofChars (cs : List Char) : LooseText :=
  ⟨cs.map .char⟩

/-- A string as a loose text. -/
def ofString (s : String) : LooseText :=
  .ofChars s.toList

instance : Coe String LooseText := ⟨ofString⟩

/-- Two loose texts, one after the other. -/
def append (s t : LooseText) : LooseText :=
  ⟨s.points ++ t.points⟩

instance : Append LooseText := ⟨append⟩

/-- The characters, if there is nothing else. -/
def chars? (t : LooseText) : Option (List Char) :=
  t.points.mapM CodePoint.char?

/-- The string that a loose text is, if it holds no halves. -/
def string? (t : LooseText) : Option String :=
  t.chars?.map String.ofList

/-- The characters of a loose text without the halves among them. -/
def characters (t : LooseText) : String :=
  String.ofList (t.points.filterMap CodePoint.char?)

end LooseText
end SchemaDiagram

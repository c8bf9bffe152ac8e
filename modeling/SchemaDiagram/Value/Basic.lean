/-
# Values of data documents

Documents in the data formats that settings are read from hold nulls, truth
values, numbers, dates, texts, bytes, lists, sets and mappings. Whole numbers
and doubles are kept apart. Escapes can put half of a surrogate pair into a
text, which then is no text of characters any more. A collection may stand
inside itself; there it is not looked into again.

Key definitions: `Value`, `Value.lookup?`, `Value.ofPoints`, `Value.isNothing`.
-/
import SchemaDiagram.Text.Loose

namespace SchemaDiagram

/-- A value of a data document; a mapping keeps its entries in order. -/
inductive Value where
  | null
  | bool (b : Bool)
  | int (n : Int)
  | real (x : Float)
  | date (s : String)
  | text (s : String)
  /-- A text in which half of a surrogate pair stands alone. -/
  | brokenText (t : LooseText)
  | bytes (content : ByteArray)
  | list (items : List Value)
  /-- Each item once, in the order in which they are visited. -/
  | set (items : List Value)
  | mapping (entries : List (Value × Value))
  /-- A collection inside itself. -/
  | enclosing

namespace Value

/-- The key is the given text. -/
def isText (s : String) : Value → Bool
  | text t => t == s
  | _ => false

/-- The value under a text key; of several entries the last. -/
def lookup? (name : String) : Value → Option Value
  | mapping entries => (entries.reverse.find? fun e => e.1.isText name).map (·.2)
  | _ => none

/-- The value that a text of code points is. -/
def ofPoints (t : LooseText) : Value :=
  match t.string? with
  | some s => text s
  | none => brokenText t

/-- The value says nothing: it is zero, false, null or empty. -/
def isNothing : Value → Bool
  | null => true
  | bool b => !b
  | int n => n == 0
  | real x => x == 0.0
  | text s => s.isEmpty
  | bytes content => content.isEmpty
  | list vs => vs.isEmpty
  | set vs => vs.isEmpty
  | mapping es => es.isEmpty
  | _ => false

end Value
end SchemaDiagram

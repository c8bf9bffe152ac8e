/-
# Elements of the page

The page is a list of elements, each in a region. A control holds a value that
the user can change; it is told from all others by what it stands for and by
the generation in which it is drawn, so a new generation starts with fresh
controls.

Key definitions: `Region`, `Control`, `ControlKey`, `Button`, `Element`,
`Drawn`.
-/
import SchemaDiagram.Network.Drawing
import SchemaDiagram.Schema.Table

namespace SchemaDiagram

/-- A part of the page; regions nest. -/
inductive Region where
  | sidebar
  | column (index count : Nat)
  | expander (label : String)
  | tab (label : String)
  deriving DecidableEq, Repr

/-- What a box to tick stands for. -/
inductive Control where
  | selection (entity : String)
  | relations (entity : String)
  | others (entity : String)
  deriving DecidableEq, Repr

/-- A control of a generation. -/
structure ControlKey where
  control : Control
  generation : Nat
  deriving DecidableEq, Repr

/-- The text by which the page knows a control. -/
def ControlKey.text (k : ControlKey) : String :=
  match k.control with
  | .selection entity => "sel_" ++ toString k.generation ++ "_" ++ entity
  | .relations entity => "show_relations_" ++ toString k.generation ++ "_" ++ entity
  | .others entity => "show_others_" ++ toString k.generation ++ "_" ++ entity

/-- The text by which the page knows the search box of a generation. -/
def searchKey (generation : Nat) : String :=
  "search_" ++ toString generation

/-- A button; one without a key is known by its label. -/
structure Button where
  label : String
  key : Option String := none
  help : Option LooseText := none
  deriving DecidableEq, Repr

/-- What a button is known by. -/
def Button.id (b : Button) : String :=
  b.key.getD b.label

/-- Something on the page. -/
inductive Element where
  | head (title icon layout sidebar : String)
  | style (palette : Palette)
  | markdown (text : String)
  | error (text : String)
  | code (text language : String)
  | button (b : Button)
  | fileInput (label : String) (types : List String) (key : String)
  | searchBox (label value : String) (generation : Nat) (hint : String)
  | checkbox (label : String) (value : Bool) (key : ControlKey)
  | table (t : Table) (height : Option Nat)
  | drawing (d : Drawing) (height : Int)

/-- An element and the regions around it, from the outside in. -/
structure Drawn where
  regions : List Region
  element : Element

namespace Drawn

def button? (d : Drawn) : Option Button :=
  match d.element with
  | .button b => some b
  | _ => none

def control? (d : Drawn) : Option ControlKey :=
  match d.element with
  | .checkbox _ _ key => some key
  | _ => none

def isFileInput (d : Drawn) : Bool :=
  match d.element with
  | .fileInput .. => true
  | _ => false

def searchBox? (d : Drawn) : Option Nat :=
  match d.element with
  | .searchBox _ _ generation _ => some generation
  | _ => none

end Drawn
end SchemaDiagram

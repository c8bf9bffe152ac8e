/-
# Variables of the environment

A variable gives a field its value if its name is the stem followed by the name
of the field. A document that gives settings may also say how variables are
read: which stem they have, whether cases are told apart, whether empty ones
count, which text stands for null, and what stands between the names of a field
and its parts.

Key definitions: `VariableRule`, `VariableRule.ofEntries`, `VariableRule.read`,
`VariableRule.name?`, `VariableRule.hasParts`.
-/
import SchemaDiagram.Settings.Issue
import SchemaDiagram.Text.Lowercase
import SchemaDiagram.Value.Basic

namespace SchemaDiagram

/-- How the variables of the environment are read. -/
structure VariableRule where
  /-- What the names of variables begin with. -/
  stem : LooseText := "ATLAS_"
  tellsCases : Bool := false
  skipsEmpty : Bool := false
  /-- The text that stands for null. -/
  nullText : Option String := none
  /-- What stands between the name of a field and that of a part of it. -/
  delimiter : String := ""
  deriving DecidableEq, Repr

namespace VariableRule

/-- The last entry of a name. -/
def last? (entries : List (String × Value)) (name : String) : Option Value :=
  (entries.reverse.find? fun e => e.1 = name).map (·.2)

/-- The stem that a document gives. What is no text is told apart by whether it
has a length. -/
def stemOf : Value → Except SettingsFault LooseText
  | .null => .ok "ATLAS_"
  | .text s => .ok s
  | .brokenText t => .ok t
  | .bool _ => .error .stemWithoutLength
  | .int _ => .error .stemWithoutLength
  | .real _ => .error .stemWithoutLength
  | .date _ => .error .stemWithoutLength
  | _ => .error .stemNotText

/-- The text that a value is. -/
def text? : Value → Option String
  | .text s => some s
  | _ => none

/-- The rule that the entries of a document give. -/
def ofEntries (entries : List (String × Value)) : Except SettingsFault VariableRule := do
  let stem ← stemOf ((last? entries "_env_prefix").getD .null)
  return {
    stem := stem
    tellsCases := (last? entries "_case_sensitive").any (!·.isNothing)
    skipsEmpty := (last? entries "_env_ignore_empty").any (!·.isNothing)
    nullText := (last? entries "_env_parse_none_str").bind text?
    delimiter := ((last? entries "_env_nested_delimiter").bind text?).getD "" }

/-- A name as it is compared. -/
def compared (r : VariableRule) (name : String) : String :=
  if r.tellsCases then name else Text.lowerString name

/-- The variables that count, with their values. -/
def read (r : VariableRule) (environment : List (String × String)) : List (String × Value) :=
  (environment.filter fun e => !(r.skipsEmpty && e.2.isEmpty)).map fun e =>
    (r.compared e.1, if r.nullText = some e.2 then .null else .text e.2)

/-- The name of the variable of a field; a stem that holds halves of surrogate
pairs begins no name. -/
def name? (r : VariableRule) (field : String) : Option String :=
  r.stem.string?.map fun s => r.compared (s ++ field)

/-- Some variable is that of a part of the field. -/
def hasParts (r : VariableRule) (values : List (String × Value)) (field : String) : Bool :=
  !r.delimiter.isEmpty &&
    (r.name? field).any fun n =>
      values.any fun e => (n ++ r.delimiter).toList.isPrefixOf e.1.toList

end VariableRule
end SchemaDiagram

/-
# What can be wrong with settings

An issue says where a value is wrong and why. Every issue of the fields is
reported; that a range is out of order is found only when all fields are right.

Key definitions: `Cause`, `Cause.code`, `Cause.message`, `Location`, `Issue`,
`SettingsFault`.
-/
import SchemaDiagram.Decimal.Format
import SchemaDiagram.Files.Basic
import SchemaDiagram.Yaml.Fault

namespace SchemaDiagram

/-- Why a value is refused. -/
inductive Cause where
  | notNumber
  | numberText
  | notWhole
  | wholeText
  | wholeTooLarge
  | fraction
  | notFinite
  | notAbove (bound : Nat)
  | belowBound (bound : Nat)
  | notBelow (bound : Nat)
  | notPair
  | tooLong (length : Nat)
  | missing
  | notText
  | brokenText
  | notPath
  | unordered (range : String) (low high : Float)

namespace Cause

/-- The short name of a cause. -/
def code : Cause → String
  | notNumber => "float_type"
  | numberText => "float_parsing"
  | notWhole => "int_type"
  | wholeText => "int_parsing"
  | wholeTooLarge => "int_parsing_size"
  | fraction => "int_from_float"
  | notFinite => "finite_number"
  | notAbove _ => "greater_than"
  | belowBound _ => "greater_than_equal"
  | notBelow _ => "less_than"
  | notPair => "tuple_type"
  | tooLong _ => "too_long"
  | missing => "missing"
  | notText => "string_type"
  | brokenText => "string_unicode"
  | notPath => "path_type"
  | unordered _ _ _ => "value_error"

/-- What is said about a cause. -/
def message : Cause → String
  | notNumber => "Input should be a valid number"
  | numberText => "Input should be a valid number, unable to parse string as a number"
  | notWhole => "Input should be a valid integer"
  | wholeText => "Input should be a valid integer, unable to parse string as an integer"
  | wholeTooLarge => "Unable to parse input string as an integer, exceeded maximum size"
  | fraction => "Input should be a valid integer, got a number with a fractional part"
  | notFinite => "Input should be a finite number"
  | notAbove bound => "Input should be greater than " ++ toString bound
  | belowBound bound => "Input should be greater than or equal to " ++ toString bound
  | notBelow bound => "Input should be less than " ++ toString bound
  | notPair => "Input should be a valid tuple"
  | tooLong length =>
    "Tuple should have at most 2 items after validation, not " ++ toString length
  | missing => "Field required"
  | notText => "Input should be a valid string"
  | brokenText =>
    "Input should be a valid string, unable to parse raw data as a unicode string"
  | notPath => "Input is not a valid path for <class 'pathlib.Path'>"
  | unordered range low high =>
    "Value error, " ++ range ++ " range must be ordered: " ++ NumberFormat.plain.render low ++
      ".." ++ NumberFormat.plain.render high

end Cause

/-- Where a value is wrong: in all of the settings, in a field, or in an item of
a field. -/
inductive Location where
  | whole
  | field (name : String)
  | item (name : String) (index : Nat)
  deriving DecidableEq, Repr

/-- A wrong value. -/
structure Issue where
  location : Location
  cause : Cause

/-- Why there are no settings. -/
inductive SettingsFault where
  /-- Some values are refused. -/
  | invalid (issues : List Issue)
  /-- The stem of the variables is to be a single thing that is no text. -/
  | stemWithoutLength
  /-- The stem of the variables is to be a collection or bytes. -/
  | stemNotText
  /-- The variable of the world centre is no data. -/
  | centerText
  /-- The document holds something else than settings. -/
  | notMapping (path : String)
  /-- A name in the document is not a text. -/
  | nameNotText
  /-- The document has no value. -/
  | document (fault : Yaml.DocumentFault)
  /-- The file cannot be read. -/
  | file (fault : FileFault)

/-- What is said about the faults that have a text of their own. -/
def SettingsFault.message : SettingsFault → LooseText
  | stemNotText => "error getting value for field \"world_center\" from source \"EnvSettingsSource\""
  | centerText => "error parsing value for field \"world_center\" from source \"EnvSettingsSource\""
  | notMapping path => path ++ ": expected a mapping at top level"
  | document fault => fault.message
  | file fault => fault.message
  | _ => ""

end SchemaDiagram

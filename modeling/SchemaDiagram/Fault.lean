/-
# What can go wrong while a diagram is used

The causes for which an operation on a loaded schema has no answer, and their
wording.

Key definitions: `Fault`, `Fault.message`.
-/

namespace SchemaDiagram

inductive Fault where
  /-- No entity has this name. -/
  | unknownEntity (name : String)
  /-- A length or a scale of zero was to be divided by. -/
  | divisionByZero
  /-- An infinite length was to be written as a whole number. -/
  | infiniteLength
  /-- An undefined length was to be written as a whole number. -/
  | undefinedLength
  /-- A path contains a null character. -/
  | nullInPath
  /-- A path holds half of a surrogate pair. -/
  | pathNotEncodable
  /-- A whole number is beyond every length. -/
  | numberTooLarge
  deriving DecidableEq, Repr

/-- What is said about the faults that have a text of their own; an unknown name
is reported by itself. -/
def Fault.message : Fault → String
  | unknownEntity name => name
  | divisionByZero => "float division by zero"
  | infiniteLength => "cannot convert float infinity to integer"
  | undefinedLength => "cannot convert float NaN to integer"
  | nullInPath => "embedded null byte"
  | pathNotEncodable => ""
  | numberTooLarge => "int too large to convert to float"

end SchemaDiagram

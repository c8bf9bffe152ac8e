/-
# What can be wrong with a YAML document

A document that does not follow the grammar is malformed, or unfinished if it
only ends too early. One that follows it can still hold scalars that have no
value, such as the thirtieth of February, or nest its collections too deep.

Key definitions: `Yaml.ScalarFault`, `ScalarFault.message`, `Yaml.DocumentFault`,
`Yaml.Reading`.
-/
import SchemaDiagram.Text.Quoted

namespace SchemaDiagram
namespace Yaml

/-- Why a scalar has no value. -/
inductive ScalarFault where
  /-- A text spells no whole number in a base. -/
  | notWhole (base : Nat) (text : LooseText)
  /-- A text spells no number. -/
  | notReal (text : LooseText)
  /-- A number is to be read from nothing, or a whole one from a sign alone. -/
  | noDigits
  /-- A whole number has too many decimal digits. -/
  | tooManyDigits (count : Nat)
  /-- A place of a number in base sixty counts for more than a double holds. -/
  | placeTooLarge
  /-- A text is no truth value. -/
  | notTruth (text : LooseText)
  /-- A text is no point in time. -/
  | notTime
  /-- A mapping cannot be a point in time. -/
  | timeOfMapping
  | noYear
  | noMonth
  | noDay
  | noHour
  | noMinute
  | noSecond
  /-- A clock is a day or more off from universal time. -/
  | noOffset (minutes : Int)
  /-- No character has the number that is written after a backslash. -/
  | noCharacter
  /-- The number after a backslash is beyond a signed word of 32 bits. -/
  | characterTooLarge
  deriving DecidableEq, Repr

/-- A difference of times, by its days and the seconds of a day. -/
def differenceText (minutes : Int) : String :=
  let days := minutes.fdiv 1440
  let seconds := minutes.fmod 1440 * 60
  "datetime.timedelta(days=" ++ toString days ++
    (if seconds = 0 then ")" else ", seconds=" ++ toString seconds ++ ")")

/-- The most characters that are shown of a text that spells no whole number. -/
def longestShown : Nat := 200

/-- What is said about a scalar without a value; a text that is no truth value is
reported by itself. -/
def ScalarFault.message : ScalarFault → LooseText
  | notWhole base text =>
    "invalid literal for int() with base " ++ toString base ++ ": " ++
      String.ofList ((Text.quoted text).take longestShown)
  | notReal text => "could not convert string to float: " ++ String.ofList (Text.quoted text)
  | noDigits => "string index out of range"
  | tooManyDigits count =>
    "Exceeds the limit (4300 digits) for integer string conversion: value has " ++
      toString count ++ " digits; use sys.set_int_max_str_digits() to increase the limit"
  | placeTooLarge => "int too large to convert to float"
  | notTruth text => text
  | notTime => "'NoneType' object has no attribute 'groupdict'"
  | timeOfMapping => ""
  | noYear => "year 0 is out of range"
  | noMonth => "month must be in 1..12"
  | noDay => "day is out of range for month"
  | noHour => "hour must be in 0..23"
  | noMinute => "minute must be in 0..59"
  | noSecond => "second must be in 0..59"
  | noOffset minutes =>
    "offset must be a timedelta strictly between -timedelta(hours=24) and timedelta(hours=24), not " ++
      differenceText minutes ++ "."
  | noCharacter => "chr() arg not in range(0x110000)"
  | characterTooLarge => "Python int too large to convert to C int"

/-- Why a document has no value. -/
inductive DocumentFault where
  /-- The text does not follow the grammar. -/
  | malformed
  /-- The text ends within a token. -/
  | unfinished
  /-- Bytes further on are no text. -/
  | notText
  /-- A scalar has no value. -/
  | scalar (fault : ScalarFault)
  /-- Too many collections stand inside each other. -/
  | tooDeep
  deriving DecidableEq, Repr

/-- What is said about the faults that have a text of their own. -/
def DocumentFault.message : DocumentFault → LooseText
  | scalar fault => fault.message
  | tooDeep => "maximum recursion depth exceeded"
  | _ => ""

/-- Something read from a document, unless the document is at fault. -/
abbrev Reading := Except DocumentFault

end Yaml
end SchemaDiagram

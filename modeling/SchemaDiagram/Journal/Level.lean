/-
# Levels of records

A record is kept when its level is at least the threshold. Levels have names,
written in capitals; of two names for one level the first is used in records.
A threshold that is not set leaves warnings and worse.

Key definitions: `Level`, `thresholdOf?`, `effectiveThreshold`, `LevelFault`,
`readThreshold`.
-/
import SchemaDiagram.Text.Uppercase

namespace SchemaDiagram

/-- How grave a record is. -/
inductive Level where
  | debug
  | info
  | warning
  | error
  deriving DecidableEq, Repr

namespace Level

def value : Level → Nat
  | debug => 10
  | info => 20
  | warning => 30
  | error => 40

def name : Level → String
  | debug => "DEBUG"
  | info => "INFO"
  | warning => "WARNING"
  | error => "ERROR"

end Level

/-- The names of thresholds. -/
def thresholdNames : List (String × Nat) :=
  [("DEBUG", 10), ("INFO", 20), ("WARNING", 30), ("WARN", 30), ("ERROR", 40), ("CRITICAL", 50),
   ("FATAL", 50), ("NOTSET", 0)]

/-- The threshold under a name in capitals. -/
def thresholdOf? (name : LooseText) : Option Nat :=
  (thresholdNames.find? fun e => LooseText.ofString e.1 = name).map (·.2)

/-- The threshold that applies. -/
def effectiveThreshold (n : Nat) : Nat :=
  if n = 0 then 30 else n

/-- What can stand in place of a level. -/
inductive LevelFault where
  /-- Nothing has the name. -/
  | unknown (name : LooseText)
  /-- The name is that of a text that names no level. -/
  | noLevel (text : String)
  /-- The name is that of something that is neither a number nor a text. -/
  | noText
  deriving DecidableEq, Repr

/-- What is said about a name that stands for no level. -/
def LevelFault.message : LevelFault → LooseText
  | unknown name => "module 'logging' has no attribute '" ++ name ++ "'"
  | noLevel text => "Unknown level: '" ++ text ++ "'"
  | noText => ""

/-- The threshold that a text in any case stands for. -/
def readThreshold (text : LooseText) : Except LevelFault Nat :=
  let name := Text.upper text
  match thresholdOf? name with
  | some n => .ok n
  | none =>
    if name = "BASIC_FORMAT" then .error (.noLevel "%(levelname)s:%(name)s:%(message)s")
    else if name = "_STYLES" then .error .noText
    else .error (.unknown name)

end SchemaDiagram

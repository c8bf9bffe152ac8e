/-
# Points in time

A scalar may be a date, or a date with a time of day and perhaps the distance of
its clock from universal time. A plain scalar is a date without a time only if it
writes month and day with two digits.

Key definitions: `Yaml.Timestamp`, `Timestamp.read?`, `Timestamp.isWritten`,
`Timestamp.fault?`.
-/
import SchemaDiagram.Value.Number
import SchemaDiagram.Yaml.Fault

namespace SchemaDiagram
namespace Yaml

/-- A time of day, with the minutes by which its clock is ahead of universal time. -/
structure Clock where
  hour : Nat
  minute : Nat
  second : Nat
  offset : Int
  deriving DecidableEq, Repr

/-- A date, perhaps with a time of day. -/
structure Timestamp where
  year : Nat
  month : Nat
  day : Nat
  clock : Option Clock
  deriving DecidableEq, Repr

/-- What is wrong with a time of day. -/
def Clock.fault? (c : Clock) : Option ScalarFault :=
  if 23 < c.hour then some .noHour
  else if 59 < c.minute then some .noMinute
  else if 59 < c.second then some .noSecond
  else none

namespace Timestamp

/-- A number with so many digits, and the text after it. -/
def number? (least most : Nat) (s : List Char) : Option (Nat × List Char) :=
  let run := (s.take most).takeWhile Char.isDigit
  if run.length < least then none
  else (Number.digits? 10 run).map fun n => (n, s.drop run.length)

/-- The text after the given character. -/
def after? (c : Char) : List Char → Option (List Char)
  | d :: s => if d = c then some s else none
  | [] => none

def isBlank (c : Char) : Bool := c == ' ' || c == '\t'

/-- The minutes by which a clock is ahead; none are written, or a `Z`, or hours
with perhaps minutes under a sign. -/
def offset? (s : List Char) : Option Int :=
  match s, s.dropWhile isBlank with
  | [], _ => some 0
  | _, ['Z'] => some 0
  | _, sign :: t =>
    if sign = '+' || sign = '-' then do
      let (hours, t) ← number? 1 2 t
      let minutes ← if t.isEmpty then some 0 else do
        let (minutes, t) ← number? 2 2 (← after? ':' t)
        if t.isEmpty then some minutes else none
      let n : Int := hours * 60 + minutes
      return if sign = '-' then -n else n
    else none
  | _, [] => none

/-- A time of day: hours, minutes, seconds, a fraction and an offset. -/
def clock? (s : List Char) : Option Clock := do
  let (hour, s) ← number? 1 2 s
  let (minute, s) ← number? 2 2 (← after? ':' s)
  let (second, s) ← number? 2 2 (← after? ':' s)
  let s := if s.head? = some '.' then (s.drop 1).dropWhile Char.isDigit else s
  return ⟨hour, minute, second, ← offset? s⟩

/-- The point in time that a text writes. -/
def read? (s : List Char) : Option Timestamp := do
  let (year, s) ← number? 4 4 s
  let (month, s) ← number? 1 2 (← after? '-' s)
  let (day, s) ← number? 1 2 (← after? '-' s)
  match s with
  | [] => return ⟨year, month, day, none⟩
  | c :: t =>
    if c = 'T' || c = 't' then return ⟨year, month, day, some (← clock? t)⟩
    else if isBlank c then return ⟨year, month, day, some (← clock? (t.dropWhile isBlank))⟩
    else none

/-- The length of a date without a time whose month and day have two digits. -/
def fullDate : Nat := 10

/-- The form of a point in time. -/
def isWritten (s : List Char) : Bool :=
  match read? s with
  | some t => t.clock.isSome || s.length == fullDate
  | none => false

def isLeap (year : Nat) : Bool :=
  year % 4 == 0 && (year % 100 != 0 || year % 400 == 0)

/-- The number of days of a month. -/
def daysIn (year month : Nat) : Nat :=
  if month = 2 then (if isLeap year then 29 else 28)
  else if month ∈ [4, 6, 9, 11] then 30
  else 31

/-- What is wrong with a date. -/
def dateFault? (t : Timestamp) : Option ScalarFault :=
  if t.year = 0 then some .noYear
  else if t.month = 0 || 12 < t.month then some .noMonth
  else if t.day = 0 || daysIn t.year t.month < t.day then some .noDay
  else none

/-- Why there is no such point in time: the offset is looked at first, then the
date, then the time. -/
def fault? (t : Timestamp) : Option ScalarFault :=
  match t.clock with
  | none => t.dateFault?
  | some c =>
    if 1440 ≤ c.offset.natAbs then some (.noOffset c.offset)
    else t.dateFault?.or c.fault?

end Timestamp
end Yaml
end SchemaDiagram

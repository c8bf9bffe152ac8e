/-
# Records

Reading a schema and saying something to the user leave records, each with its
level and the name of the part that made it. Names lie below the name of the
program.

Key definitions: `loggerName`, `Record`, `Record.shortLine`, `Record.fullLine`,
`Schema.records`, `Status.record`, `Session.notes`.
-/
import SchemaDiagram.Journal.Level
import SchemaDiagram.Session.Step

namespace SchemaDiagram

/-- The name under which a part of the program makes records. -/
def loggerName (part : String) : String :=
  if part = "atlas" || "atlas.".toList.isPrefixOf part.toList then part else "atlas." ++ part

/-- Something that was noted. -/
structure Record where
  level : Level
  part : String
  message : String
  deriving DecidableEq, Repr

/-- A record on a line: level, name and message between bars. -/
def Record.shortLine (r : Record) : String :=
  r.level.name ++ "|" ++ loggerName r.part ++ "|" ++ r.message

/-- A record on a line: time, name, level, place and message. Time and place are
not known here and have a stand-in. -/
def Record.fullLine (r : Record) : String :=
  "0000-00-00 00:00:00,000 - " ++ loggerName r.part ++ " - " ++ r.level.name ++ " - [" ++ r.part ++
    ":0] - " ++ r.message

/-- What is noted when a schema text is read: a block without end, and how much
was found. -/
def Schema.records (text : String) : List Record :=
  let schema := Schema.parse text
  let scan := Scan.ofText (Text.joinLineEnds text.toList)
  let unended := scan.current.toList.map fun b =>
    ⟨.debug, "schema_parser",
      "Unterminated " ++ b.kind.word ++ " " ++ b.name ++ " consumed to end of input"⟩
  unended ++ [⟨.debug, "schema_parser",
    "Parsed " ++ toString schema.blocks.length ++ " block(s), " ++ toString schema.summary.models ++
      " model(s), " ++ toString schema.summary.relations ++ " relation(s)"⟩]

/-- What is noted when something is said to the user. -/
def Status.record (s : Status) : Record :=
  ⟨if s.isError then .warning else .info, "explorer", s.message⟩

/-- An error met by a session. -/
def Record.ofError (message : String) : Record :=
  ⟨.error, "explorer", message⟩

namespace Session

variable {α : Type} [Scalar α]

/-- What is noted while everything selected is framed. -/
def fitNotes (s : Session α) : List Record :=
  match s.fit with
  | .ok (false, t) => [t.status.record]
  | _ => []

/-- What is noted while hidden neighbours are revealed. -/
def revealNotes (s : Session α) (name : String) : List Record :=
  match s.revealNeighbors name with
  | .ok (_ :: _, t) => [t.status.record]
  | _ => []

/-- What is noted while the target of a stub is revealed. -/
def activateNotes (s : Session α) (stub : Stub α) : List Record :=
  match s.activate stub with
  | (.error _, _) => []
  | (.ok _, t) => (s.setView (s.view.reveal stub)).fitNotes ++ [t.status.record]

variable [Sunflower α]

/-- What is noted while a schema text is loaded. -/
def loadNotes (s : Session α) (text label : String) : List Record :=
  let reading := match s.reader text with
    | .ok _ => Schema.records text
    | .error _ => [.ofError ("Failed to parse " ++ label)]
  reading ++ [(s.load text label).2.status.record]

/-- What is noted while a schema file is loaded. -/
def loadFileNotes (files : Files) (s : Session α) (path : String) : List Record :=
  let p := s.schemaPath path
  match s.loadFile files path, files.readText p.text with
  | (.error _, _), _ => []
  | (.ok _, _), .ok text => s.loadNotes text p.name.characters
  | (.ok _, t), .error _ => [.ofError ("Could not read " ++ p.text.characters), t.status.record]

/-- What is noted while a session carries out an operation. -/
def notes (files : Files) (s : Session α) : Op α → List Record
  | .load text label => s.loadNotes text label
  | .loadFile path => s.loadFileNotes files path
  | .loadDemo => s.loadNotes demoSchema "demo schema"
  | .revealNeighbors name => s.revealNotes name
  | .activate stub => s.activateNotes stub
  | .fit => s.fitNotes
  | _ => []

end Session

end SchemaDiagram

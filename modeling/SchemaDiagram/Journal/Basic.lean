/-
# The journal

Records go to the console and, if a file is named, to that file too. A journal
is set up from a level, a file and a form, where the settings stand in for what
is not given.

Key definitions: `Journal`, `JournalFault`, `Journal.setUp`, `Journal.output`,
`Journal.fileText?`, `Journal.filesAfter`, `Journal.ofSession`.
-/
import SchemaDiagram.Journal.Record
import SchemaDiagram.Settings.Source

namespace SchemaDiagram

/-- Where records go. -/
inductive Handler where
  | console
  | file (path : Path)
  deriving DecidableEq, Repr

/-- A journal: its threshold, where its records go and in which form. -/
structure Journal where
  threshold : Nat
  handlers : List Handler
  form : String
  deriving DecidableEq, Repr

/-- Why a journal cannot be set up. -/
inductive JournalFault where
  | settings (fault : SettingsFault)
  | level (fault : LevelFault)
  | file (fault : FileFault)

namespace Journal

/-- The form of records when none is asked for: time, name, level, place and
message. -/
def fullForm : String :=
  "%(asctime)s - %(name)s - %(levelname)s - [%(filename)s:%(lineno)d] - %(message)s"

/-- The file of a journal: the one that is named, or else that of the settings. -/
def fileOf (settings : Settings Float) (file : String) : Option Path :=
  if file = "" then settings.logFile else some (.parse file)

/-- The journal for a level, a file and a form. -/
def setUp (files : Files) (settings : Settings Float) (level file form : String) :
    Except JournalFault Journal := do
  let name : LooseText := if level = "" then settings.logLevel else level
  let threshold ← (readThreshold name).mapError .level
  match fileOf settings file with
  | none => return ⟨threshold, [.console], form⟩
  | some p =>
    (files.canCreate p.flattened).mapError .file
    return ⟨threshold, [.console, .file p.flattened], form⟩

/-- The records that are kept. -/
def kept (j : Journal) (records : List Record) : List Record :=
  records.filter fun r => effectiveThreshold j.threshold ≤ r.level.value

/-- What the kept records write, a line each. -/
def output (j : Journal) (line : Record → String) (records : List Record) : String :=
  String.join ((j.kept records).map fun r => line r ++ "\n")

/-- The file of a journal. -/
def path? (j : Journal) : Option Path :=
  j.handlers.findSome? fun
    | .console => none
    | .file p => some p

/-- The files once some records have gone to the file of a journal: they follow
what stood there before. -/
def filesAfter (j : Journal) (files : Files) (line : Record → String) (records : List Record) :
    Files :=
  match j.path? with
  | none => files
  | some p =>
    files.write p ((files.find p.text).toOption.getD .empty ++ (j.output line records).toUTF8)

/-- What stands in the file of a journal after some records. -/
def fileText? (j : Journal) (files : Files) (records : List Record) : Option String := do
  let p ← j.path?
  let content ← ((j.filesAfter files Record.shortLine records).find p.text).toOption
  Files.decode? content

/-- What a session notes while texts are loaded and framed and things are said. -/
def ofSession (s : Session Float) (loads : List (String × String)) (said : List Status) :
    List Record :=
  let loaded := loads.flatMap fun (label, text) =>
    s.loadNotes text label ++ (s.load text label).2.fitNotes
  loaded ++ said.map Status.record

end Journal
end SchemaDiagram

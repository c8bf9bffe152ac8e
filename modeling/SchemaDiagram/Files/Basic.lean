/-
# Files

The files that a session can read lie below a working directory; a directory
exists where a file lies below it. A written path is followed name by name. It
may lead out of the working directory, where little is known: the directories
that every system has, the file that is always empty, and what was written.
Files are read as UTF-8 text in which every line end is a line feed.

Key definitions: `Files`, `FileFault`, `Files.follow`, `Files.find`,
`Files.readRun`, `Files.readText`, `Files.canCreate`, `Files.write`.
-/
import SchemaDiagram.Files.Spot
import SchemaDiagram.Text.Piece

namespace SchemaDiagram

/-- The contents of files and where they lie. -/
structure Files where
  entries : List (Spot × ByteArray)

/-- Why a file cannot be used. -/
inductive FileFault where
  | missing
  | isDirectory
  | notDirectory
  | notText
  /-- A path holds half of a surrogate pair. -/
  | notEncodable
  /-- A path contains a null character. -/
  | nullInPath
  /-- A path or one of its names has too many bytes. -/
  | nameTooLong
  deriving DecidableEq, Repr

/-- What is said about the faults that have a text of their own. -/
def FileFault.message : FileFault → String
  | nullInPath => "embedded null byte"
  | _ => ""

/-- What lies at a spot. -/
inductive Place where
  | file (content : ByteArray)
  | directory
  | nothing

namespace Files

/-- The most bytes of a name in a path. -/
def longestName : Nat := 255

/-- The most bytes of a path. -/
def longestPath : Nat := 4095

/-- The files with the given names below the working directory. -/
def ofList (named : List (List String × ByteArray)) : Files :=
  ⟨named.map fun e => (.inside e.1, e.2)⟩

/-- A file lies at the spot or below it. -/
def reaches (fs : Files) (names : List String) : Bool :=
  fs.entries.any fun
    | (.inside ns, _) => names.isPrefixOf ns
    | _ => false

/-- What lies at a spot. -/
def placeAt (fs : Files) (spot : Spot) : Place :=
  match fs.entries.reverse.find? fun e => e.1 = spot with
  | some e => .file e.2
  | none =>
    match spot with
    | .inside names => if names.isEmpty || fs.reaches names then .directory else .nothing
    | .outside names =>
      if spot = .sink then .file .empty
      else if names.isEmpty || names ∈ Spot.standardDirectories then .directory
      else .nothing

/-- The spot reached from another by the names of a written path. Only from a
directory does a path go on. -/
def follow (fs : Files) (spot : Spot) : List String → Except FileFault Spot
  | [] => .ok spot
  | n :: ns =>
    match fs.placeAt spot with
    | .nothing => .error .missing
    | .file _ => .error .notDirectory
    | .directory =>
      if n = "" || n = "." then fs.follow spot ns
      else if n = ".." then fs.follow spot.parent ns
      else if longestName < n.utf8ByteSize then .error .nameTooLong
      else fs.follow (spot.enter n) ns

/-- The text of a path that may lead somewhere. -/
def usable (path : LooseText) : Except FileFault String :=
  match path.string? with
  | none => .error .notEncodable
  | some s =>
    if s.toList.contains '\x00' then .error .nullInPath
    else if s.isEmpty then .error .missing
    else if longestPath < s.utf8ByteSize then .error .nameTooLong
    else .ok s

/-- The spot at a written path. -/
def locate (fs : Files) (path : LooseText) : Except FileFault Spot := do
  let s ← usable path
  fs.follow (.start (Path.parse s).root) ((Text.cutAt '/' s.toList).map String.ofList)

/-- The content at a written path. -/
def find (fs : Files) (path : LooseText) : Except FileFault ByteArray := do
  match fs.placeAt (← fs.locate path) with
  | .file content => return content
  | .directory => throw .isDirectory
  | .nothing => throw .missing

/-- The text of bytes, if they are well-formed UTF-8. -/
def decode? (content : ByteArray) : Option String :=
  String.fromUTF8? content

/-- The text at a written path, as far as it can be read. -/
def readRun (fs : Files) (path : LooseText) : Except FileFault TextRun := do
  return .ofBytes (← fs.find path)

/-- The text at a written path. -/
def readText (fs : Files) (path : LooseText) : Except FileFault String := do
  let run ← fs.readRun path
  if run.isWhole then return String.ofList run.chars else throw .notText

/-- A file can be written at a path: its directory exists and it is none itself.
The path is used from the root on. -/
def canCreate (fs : Files) (path : Path) : Except FileFault Unit := do
  let _ ← usable path.absolute.text
  match fs.placeAt (← fs.locate path.text) with
  | .directory => throw .isDirectory
  | _ => return ()

/-- The files after a content was written at a path; what goes to the sink is
gone. -/
def write (fs : Files) (path : Path) (content : ByteArray) : Files :=
  match fs.locate path.text with
  | .error _ => fs
  | .ok spot => if spot = .sink then fs else ⟨fs.entries ++ [(spot, content)]⟩

end Files
end SchemaDiagram

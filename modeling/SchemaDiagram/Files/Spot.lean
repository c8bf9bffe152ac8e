/-
# Spots

A spot is where a path leads: to names below the working directory, or to names
below the root outside of it. The working directory lies in the directory for
temporary files, under a name that nobody knows beforehand.

Key definitions: `Spot`, `Spot.parent`, `Spot.enter`, `Spot.sink`,
`Spot.standardDirectories`.
-/
import SchemaDiagram.Files.Path

namespace SchemaDiagram

/-- Names below the working directory, or below the root outside of it. -/
inductive Spot where
  | inside (names : List String)
  | outside (names : List String)
  deriving DecidableEq, Repr

namespace Spot

/-- Where a path starts. -/
def start (root : String) : Spot :=
  if root = "" then inside [] else outside []

/-- The directory above; above the root is the root. -/
def parent : Spot → Spot
  | inside [] => outside ["tmp"]
  | inside names => inside names.dropLast
  | outside names => outside names.dropLast

/-- The spot of a name in a directory. -/
def enter (name : String) : Spot → Spot
  | inside names => inside (names ++ [name])
  | outside names => outside (names ++ [name])

/-- The file that takes everything in and is always empty. -/
def sink : Spot := outside ["dev", "null"]

/-- The directories that are known to lie below the root. -/
def standardDirectories : List (List String) :=
  [["bin"], ["boot"], ["dev"], ["dev", "shm"], ["etc"], ["home"], ["lib"], ["media"], ["mnt"],
    ["opt"], ["proc"], ["root"], ["run"], ["sbin"], ["srv"], ["sys"], ["tmp"], ["usr"],
    ["usr", "bin"], ["usr", "include"], ["usr", "lib"], ["usr", "local"], ["usr", "sbin"],
    ["usr", "share"], ["var"], ["var", "cache"], ["var", "lib"], ["var", "log"], ["var", "tmp"]]

end Spot

/-- The names that lead from the root to the working directory. The last one is
as long as that of any other directory for a single use. -/
def Path.workingDirectory : List LooseText := ["tmp", "tmp--------"]

/-- The path from the root, with its double dots followed by name. -/
def Path.absolute (p : Path) : Path :=
  if p.root = "" then flattened ⟨"/", workingDirectory ++ p.parts⟩ else p.flattened

end SchemaDiagram

import ArchiveCatalog.Local.Records

namespace ArchiveCatalog

inductive FileNode where
  | directory
  | file (content : String)
  | store (records : Records)

/-- Parts of a path from the top directory on. -/
abbrev Path := List String

/-- What the system below decides: why it does not make a directory at a path, why it does not open
a file as a store of so many bytes, and why it does not write changes to a store of that size. -/
structure Obstacles where
  making : Path → Option String
  opening : Path → Nat → Option StoreError
  writing : Nat → Changes → Option StoreError

/-- Nothing but values that exceed the size of the store. -/
def Obstacles.ofSize : Obstacles where
  making _ := none
  opening _ _ := none
  writing size changes := if changes.valueBytes ≤ size then none else some .full

/-- Paths with what stands at each; the top directory is there without an entry. -/
structure Directory where
  nodes : List (Path × FileNode)
  obstacles : Obstacles

namespace Directory

def empty : Directory := ⟨[], .ofSize⟩

instance : Inhabited Directory := ⟨empty⟩

def node? (directory : Directory) (path : Path) : Option FileNode :=
  if path.isEmpty then some .directory else directory.nodes.lookup path

def setNode (directory : Directory) (path : Path) (node : FileNode) : Directory :=
  { directory with nodes := (path, node) :: directory.nodes.filter (·.1 != path) }

def removeNode (directory : Directory) (path : Path) : Directory :=
  { directory with nodes := directory.nodes.filter (·.1 != path) }

def pathOf (text : String) : Path :=
  ((text.toList.splitOn '/').filter (!·.isEmpty)).map String.ofList

/-- Create the directories of a path that are missing, below `above`, and find where the path
leads. -/
def create (directory : Directory) (above : Path) : Path → Except StoreError Path × Directory
  | [] => (.ok above, directory)
  | "." :: rest => directory.create above rest
  | ".." :: rest => directory.create above.dropLast rest
  | part :: rest =>
    let here := above ++ [part]
    match directory.node? here with
    | some .directory => directory.create here rest
    | none =>
      match directory.obstacles.making here with
      | some reason => (.error (.io reason), directory)
      | none => (directory.setNode here .directory).create here rest
    | some _ => (.error (if rest.isEmpty then .occupied else .notDirectory), directory)

def dataFile : String := "data.mdb"

/-- Open the store of a size in a directory, creating it where it is missing: its file and what it
holds. -/
def openStore (directory : Directory) (place : Path) (size : Nat) :
    Except StoreError (Path × Records) × Directory :=
  let file := place ++ [dataFile]
  match directory.obstacles.opening file size with
  | some error => (.error error, directory)
  | none =>
    match directory.node? file with
    | some (.store records) => (.ok (file, records), directory)
    | some .directory => (.error .storeIsDirectory, directory)
    | some (.file content) =>
      if content.isEmpty then (.ok (file, .empty), directory.setNode file (.store .empty))
      else (.error .foreignFile, directory)
    | none => (.ok (file, .empty), directory.setNode file (.store .empty))

def writeFile (directory : Directory) (path : Path) (content : String) : Directory :=
  match directory.create [] path.dropLast with
  | (.ok place, directory) =>
    match path.getLast? with
    | some name => directory.setNode (place ++ [name]) (.file content)
    | none => directory
  | (.error _, directory) => directory

def removeFile (directory : Directory) (path : Path) : Directory := directory.removeNode path

end Directory

end ArchiveCatalog

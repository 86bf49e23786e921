import Strata.Files
import Strata.Path

/-!
File trees: directories and files in memory.

A tree is seen from its root, which is the current directory. Of what lies outside little is known:
there are directories above the root, and some things are found everywhere.
-/

namespace Strata

/-- What a path can lead to. -/
inductive Item where
  | directory
  | text (content : String)
  /-- Bytes that are no UTF-8. -/
  | bytes
  deriving DecidableEq

/-- Directories and files by the names that lead to them. The root itself is not listed. -/
structure FileTree where
  entries : List (List String × Item)

/-- Where a path leads. -/
inductive Location where
  | inside (names : List String)
  /-- A directory above the root. -/
  | above
  /-- Where names lead from the root of all paths. -/
  | absolute (names : List String)
  /-- Below a directory of which nothing is known. -/
  | unknown

namespace FileTree

/-- The tree in which the root is empty. -/
def empty : FileTree := ⟨[]⟩

/-- What some names lead to. -/
def item? (t : FileTree) : List String → Option Item
  | [] => some .directory
  | names => t.entries.lookup names

/-- The tree with an item where some names lead. -/
def put (t : FileTree) (names : List String) (item : Item) : FileTree :=
  ⟨(names, item) :: t.entries.filter (·.1 != names)⟩

/-- The tree with a directory where some names lead, unless something is there. -/
def addDirectory (t : FileTree) (names : List String) : FileTree :=
  if (t.item? names).isSome then t else t.put names .directory

/-! ### Walking -/

/-- What is found everywhere, by the names that lead there from the root of all paths. -/
def everywhere : List (List String × Item) :=
  [([], .directory), (["tmp"], .directory), (["dev"], .directory), (["dev", "null"], .text "")]

/-- What is found at a location. -/
def at? (t : FileTree) : Location → Option Item
  | .inside names => t.item? names
  | .above => some .directory
  | .absolute names => everywhere.lookup names
  | .unknown => none

/-- The location after one more component. -/
def step (component : String) (here : Location) : Location :=
  if component = "" ∨ component = "." then here
  else if component = ".." then
    match here with
    | .inside [] => .above
    | .inside names => .inside names.dropLast
    | .absolute names => .absolute names.dropLast
    | here => here
  else
    match here with
    | .inside names => .inside (names ++ [component])
    | .absolute names => .absolute (names ++ [component])
    | _ => .unknown

/-- Where components lead. All but the last have to lead to directories. -/
def walk (t : FileTree) : List String → Location → Except FileFault Location
  | [], here => pure here
  | c :: rest, here =>
    match t.at? here with
    | none => throw .missing
    | some .directory =>
      if FileFault.nameLimit < c.utf8ByteSize then throw .tooLong else walk t rest (step c here)
    | some _ => throw .notDirectory

/-- Where a path leads. -/
def locate (t : FileTree) (path : String) : Except FileFault Location :=
  match FileFault.ofPath? path with
  | some fault => throw fault
  | none => t.walk (Path.components path) (if Path.isAbsolute path then .absolute [] else .inside [])

/-! ### Building -/

/-- The tree with a directory after one more component, and the location of that. -/
def enter (component : String) : FileTree × Location → FileTree × Location
  | (t, here) =>
    match step component here with
    | .inside names => (t.addDirectory names, .inside names)
    | there => (t, there)

/-- The tree with an item at the end of a path, and with the directories on the way to it. -/
def add (t : FileTree) (path : String) (item : Item) : FileTree :=
  let components := Path.components path
  let (t, here) := components.dropLast.foldl (fun place c => enter c place) (t, .inside [])
  match step (components.getLastD "") here with
  | .inside names => t.put names item
  | _ => t

/-! ### Files -/

/-- Whether there is a file or directory. -/
def holds (t : FileTree) (path : String) : Bool :=
  match t.locate path with
  | .ok here => (t.at? here).isSome
  | .error _ => false

/-- The text of a file. -/
def read (t : FileTree) (path : String) : Except FileFault String := do
  match t.at? (← t.locate path) with
  | none => throw .missing
  | some .directory => throw .isDirectory
  | some .bytes => throw .notText
  | some (.text content) => pure content

/-- The tree after a text has been written to a file. What is written to a file that is found
everywhere is lost. -/
def write (t : FileTree) (path content : String) : Except FileFault FileTree := do
  let here ← t.locate path
  match t.at? here, here with
  | some .directory, _ => throw .isDirectory
  | _, .inside names => pure (t.put names (.text content))
  | some _, _ => pure t
  | none, _ => throw .missing

/-- The operations on a tree that a program holds. -/
def files : Files (StateM FileTree) where
  holds path := do return (← get).holds path
  read path := do return (← get).read path
  write path content := do
    match (← get).write path content with
    | .ok t => set t; return .ok ()
    | .error fault => return .error fault

end FileTree

end Strata

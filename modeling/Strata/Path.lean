import Strata.Text

/-!
Paths: components with slashes between them.

Empty components and single dots mean nothing, save a dot at the very beginning. An absolute path
stays what it is wherever it is looked up.
-/

namespace Strata.Path

/-- Whether a path starts at the root. -/
def isAbsolute (path : String) : Bool := path.toList.head? == some '/'

/-- A path as it is seen from a directory. -/
def join (directory path : String) : String :=
  if isAbsolute path then path
  else if directory.isEmpty || directory.toList.getLast? == some '/' then directory ++ path
  else directory ++ "/" ++ path

/-- The components between slashes, those too that mean nothing. -/
def components (path : String) : List String := Text.pieces '/' path

/-- Components without those at the end that mean nothing. -/
def trimEnd (components : List String) : List String :=
  (components.reverse.dropWhile fun c => c == "" || c == ".").reverse

/-- The directory in which a path ends, as the path writes it. The root and the empty path are in
none. -/
def parent? (path : String) : Option String :=
  match components path with
  | [] => none
  | first :: rest =>
    match trimEnd rest with
    | [] => if first.isEmpty then none else some ""
    | rest =>
      let kept := trimEnd rest.dropLast
      if first.isEmpty && kept.isEmpty then some "/" else some (Text.join "/" (first :: kept))

end Strata.Path

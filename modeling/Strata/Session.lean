import Strata.Files
import Strata.Path
import Strata.Progress
import Strata.Text

/-!
Sessions: commands at work, which tell of their progress and may fail.
-/

namespace Strata

/-- Why a command fails: what it was about to do, and what kept it from it, the last being the
first cause. -/
structure Failure where
  context : String
  causes : List String
  deriving DecidableEq

namespace Failure

/-- A text with a mark before its first line, and blanks of the same width before the others. -/
def indented (mark : String) (text : String) : String :=
  mark ++ Text.join ("\n" ++ String.ofList (List.replicate mark.length ' ')) (Text.pieces '\n' text)

/-- The causes, numbered if there is more than one. -/
def causeLines (f : Failure) : List String :=
  match f.causes with
  | [cause] => [indented "    " cause]
  | causes => causes.zipIdx.map fun (cause, n) =>
    let number := toString n
    indented (String.ofList (List.replicate (5 - number.length) ' ') ++ number ++ ": ") cause

/-- The text by which a failure is told. -/
def render (f : Failure) : String :=
  "Error: " ++ f.context
    ++ if f.causes.isEmpty then "\n" else "\n\nCaused by:\n" ++ Text.join "\n" f.causeLines ++ "\n"

end Failure

/-- A command at work in a monad `m`. -/
abbrev Session (m : Type → Type) := ExceptT Failure (StateT (List Progress) m)

/-- Tells of progress. -/
def tell {m : Type → Type} [Monad m] (lines : List Progress) : Session m Unit :=
  modify (· ++ lines)

end Strata

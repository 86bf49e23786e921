import Strata.Program

/-!
The program on a disk.
-/

namespace Strata.Main

/-- The number of a fault, which may come negated. -/
def absolute (code : UInt32) : UInt32 := if code < 0x80000000 then code else 0 - code

/-- The fault with a number of the operating system. -/
def faultOfCode (code : UInt32) (details : String) : FileFault :=
  let code := absolute code
  if code = 2 then .missing
  else if code = 20 then .notDirectory
  else if code = 21 then .isDirectory
  else if code = 36 then .tooLong
  else .other (details.capitalize ++ " (os error " ++ toString code ++ ")")

/-- Why the operating system refuses a file. -/
def faultOf : IO.Error → FileFault
  | .noFileOrDirectory _ code details => faultOfCode code details
  | .inappropriateType _ code details => faultOfCode code details
  | .permissionDenied _ code details => faultOfCode code details
  | .noSuchThing _ code details => faultOfCode code details
  | .invalidArgument _ code details => faultOfCode code details
  | e => .other (toString e)

/-- The result of an operation on the disk at a path, if that is not refused at once. -/
def attempt {α : Type} (path : String) (act : IO α) : IO (Except FileFault α) := do
  match FileFault.ofPath? path with
  | some fault => return .error fault
  | none => try return .ok (← act) catch e => return .error (faultOf e)

/-- The files of a disk. -/
def disk : Files IO where
  holds path := do return (← attempt path (IO.FS.realPath path)).toOption.isSome
  read path := do
    match ← attempt path (IO.FS.readBinFile path) with
    | .error fault => return .error fault
    | .ok bytes =>
      match String.fromUTF8? bytes with
      | some text => return .ok text
      | none => return .error .notText
  write path content := attempt path (IO.FS.writeFile path content)

/-- The surroundings of the process. -/
def environment : IO Environment := do
  return ⟨← IO.getEnv "ARCH_VERDICT_CONFIG_DIR", ← IO.getEnv "HOME"⟩

end Strata.Main

/-- Runs the program and prints what it leaves behind. -/
def main (args : List String) : IO UInt32 := do
  let run ← Strata.Program.run Strata.Main.disk (← Strata.Main.environment) args
  for line in run.progress do
    IO.eprintln (line.level.label ++ " " ++ line.text)
  IO.print run.output
  IO.eprint run.errors
  return run.status.toUInt32

/-!
Files: what the commands need of a file system.

A command is written for any monad with operations on files, so that it can be run on a disk as
well as on a tree in memory. Some paths are refused whatever they lead to: `FileFault.ofPath?`.
-/

namespace Strata

/-- Why a file cannot be read or written. -/
inductive FileFault where
  | missing
  /-- Something on the way is no directory. -/
  | notDirectory
  | isDirectory
  /-- A name in the path, or the path as a whole, has too many bytes. -/
  | tooLong
  /-- The path holds a zero byte, which would end it. -/
  | zeroByte
  /-- The bytes are no UTF-8. -/
  | notText
  | other (message : String)
  deriving DecidableEq

namespace FileFault

/-- The wording of the operating system. -/
def message : FileFault → String
  | missing => "No such file or directory (os error 2)"
  | notDirectory => "Not a directory (os error 20)"
  | isDirectory => "Is a directory (os error 21)"
  | tooLong => "File name too long (os error 36)"
  | zeroByte => "file name contained an unexpected NUL byte"
  | notText => "stream did not contain valid UTF-8"
  | other message => message

/-- How many bytes a name in a path may have. -/
def nameLimit : Nat := 255

/-- How many bytes a path may have. -/
def pathLimit : Nat := 4095

/-- Why a path is refused whatever it leads to, if it is. -/
def ofPath? (path : String) : Option FileFault :=
  if path.toList.contains '\x00' then some zeroByte
  else if path.isEmpty then some missing
  else if pathLimit < path.utf8ByteSize then some tooLong
  else none

end FileFault

/-- Operations on files. -/
structure Files (m : Type → Type) where
  /-- Whether there is a file or directory. -/
  holds : String → m Bool
  read : String → m (Except FileFault String)
  write : String → String → m (Except FileFault Unit)

/-- Why something cannot be loaded from a file: the file, or what stands in it. -/
inductive LoadFault (ε : Type) where
  | file (path : String) (fault : FileFault)
  | content (fault : ε)

namespace LoadFault

variable {ε : Type}

/-- The wording, given how it begins for files, and the wording for contents. -/
def message (reading : String) (content : ε → String) : LoadFault ε → String
  | file path fault => reading ++ " " ++ path ++ ": " ++ fault.message
  | .content fault => content fault

/-- The causes, the last being the first of them. -/
def causes (reading : String) (content : ε → String) (f : LoadFault ε) : List String :=
  match f with
  | file _ fault => [f.message reading content, fault.message]
  | .content _ => [f.message reading content]

end LoadFault

/-- What a file says, read by `parse`. -/
def Files.load {m : Type → Type} [Monad m] {α ε : Type} (files : Files m)
    (parse : String → Except ε α) (path : String) : m (Except (LoadFault ε) α) := do
  match ← files.read path with
  | .error fault => return .error (.file path fault)
  | .ok text => return (parse text).mapError .content

end Strata

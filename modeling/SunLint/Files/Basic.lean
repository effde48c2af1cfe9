/-!
# Files

What this library asks of a file system, which may be a disk or a value in memory,
and what may go wrong with it.
-/

namespace SunLint

/-- Why a file cannot be read or written. -/
inductive FileFault
  | missing
  | isFolder
  | notFolder
  | notText
  /-- Any other reason, in the words of the system. -/
  | other (reason : String)
deriving DecidableEq, Repr

/-- The wording of the fault. -/
def FileFault.message : FileFault → String
  | .missing => "No such file or directory (os error 2)"
  | .isFolder => "Is a directory (os error 21)"
  | .notFolder => "Not a directory (os error 20)"
  | .notText => "stream did not contain valid UTF-8"
  | .other reason => reason

/-- Access to files by their paths. -/
structure Files (m : Type → Type) where
  /-- The text of a file. -/
  read : String → m (Except FileFault String)
  /-- Gives a file a new text. -/
  write : String → String → m (Except FileFault Unit)
  /-- Whether there is a file, and not a folder, at the path. -/
  isFile : String → m Bool

end SunLint

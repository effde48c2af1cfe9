import SunLint.Files.Basic

/-!
# Directories in memory

A file system as a value: the files below one folder, by their paths from there.
A folder exists if there is a file below it. Paths are resolved step by step, so
that `x/../y` is found only if `x` is a folder.
-/

namespace SunLint

/-- A way down the tree: the names from the top to a file or a folder. -/
abbrev Trail := List String

/-- The files below a folder, each once. -/
structure Directory where
  files : List (Trail × ByteArray) := []

namespace Directory

variable (d : Directory)

/-- The contents of the file at the end of the trail. -/
def contents? (t : Trail) : Option ByteArray := d.files.lookup t

/-- Whether there is a folder at the end of the trail. -/
def isFolder (t : Trail) : Bool :=
  t.isEmpty || d.files.any fun (u, _) => t.isPrefixOf u && t.length < u.length

/-- The directory with the contents for a file. -/
def put (t : Trail) (contents : ByteArray) : Directory :=
  ⟨(t, contents) :: d.files.filter (·.1 ≠ t)⟩

/-- The names between the slashes of a path. -/
def names (path : String) : List String := (path.splitOn "/").filter (· ≠ "")

/-- The folder to which the names lead from another one. -/
def walk (here : Trail) : List String → Except FileFault Trail
  | [] => .ok here
  | "." :: rest => walk here rest
  | ".." :: rest => walk here.dropLast rest
  | name :: rest =>
    let there := here ++ [name]
    if d.isFolder there then walk there rest
    else if (d.contents? there).isSome then .error .notFolder
    else .error .missing

/-- A place at which a file may be: the folder that holds it and its name; or a
    folder, where the path can mean no file. -/
inductive Spot
  | file (trail : Trail)
  | folder (trail : Trail)

/-- The place that a path means. Nothing is known outside of the directory. -/
def resolve (path : String) : Except FileFault Spot :=
  if path.isEmpty || path.startsWith "/" then .error .missing
  else match (names path).reverse with
    | [] => .ok (.folder [])
    | last :: above => do
      let folder ← d.walk [] above.reverse
      if last = "." || last = ".." then return .folder (← d.walk folder [last])
      let t := folder ++ [last]
      if d.isFolder t || path.endsWith "/" then return .folder t else return .file t

/-- The text of the file at the path. -/
def read (path : String) : Except FileFault String := do
  match ← d.resolve path with
  | .folder t =>
    if d.isFolder t then .error .isFolder
    else if (d.contents? t).isSome then .error .notFolder
    else .error .missing
  | .file t =>
    match d.contents? t with
    | none => .error .missing
    | some bytes => match String.fromUTF8? bytes with
      | some text => .ok text
      | none => .error .notText

/-- The directory with the text for the file at the path. -/
def write (path text : String) : Except FileFault Directory := do
  match ← d.resolve path with
  | .folder _ => .error .isFolder
  | .file t => return d.put t text.toUTF8

/-- Whether there is a file at the path. -/
def isFile (path : String) : Bool :=
  match d.resolve path with
  | .ok (.file t) => (d.contents? t).isSome
  | _ => false

/-- Access to the files of a directory that is the state. -/
def access : Files (StateM Directory) where
  read path := do return (← get).read path
  write path text := do
    match (← get).write path text with
    | .ok d =>
      set d
      return .ok ()
    | .error fault => return .error fault
  isFile path := do return (← get).isFile path

end Directory

end SunLint

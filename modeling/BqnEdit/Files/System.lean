import BqnEdit.Files.Tree

/-!
# File operations in any monad

The program needs four things from a file system: read a file's bytes, write them,
make one directory and remove a file. `FileSystem` asks a monad for these; the rest
is built on top of them here, the same way in every monad:

* a path exists when reading it succeeds or fails because it is a directory;
* a path is a directory when reading it fails for that reason;
* making a directory and its parents makes the directory, and when its parent is
  missing makes the parent first and tries again; a directory already there is fine.

The tree of files of `BqnEdit.Files.Tree`, with a working directory, is one such monad
(`Disk`); the real file system is another.

Main results:

* `createDirAllParts_empty`: the empty path needs no directory.
-/

namespace BqnEdit.Files

/-- The file operations a monad offers. Paths are read from the working directory. -/
class FileSystem (m : Type → Type) where
  readBytes : String → m (Except IoError (List UInt8))
  writeBytes : String → List UInt8 → m (Except IoError Unit)
  makeDir : String → m (Except IoError Unit)
  removeFile : String → m (Except IoError Unit)

namespace FileSystem

variable {m : Type → Type} [Monad m] [FileSystem m]

/-- The text of a file, which must be well-formed UTF-8. -/
def readText (p : String) : m (Except IoError String) := do
  match ← readBytes p with
  | .ok bs =>
    match decodeUtf8? bs with
    | some s => pure (.ok s)
    | none => pure (.error .invalidData)
  | .error e => pure (.error e)

/-- Write text to a file, as UTF-8. -/
def writeText (p : String) (s : String) : m (Except IoError Unit) := writeBytes p (encodeUtf8 s)

/-- Whether a path names a file or a directory. -/
def pathExists (p : String) : m Bool := do
  match ← readBytes p with
  | .ok _ => pure true
  | .error .isDirectory => pure true
  | .error _ => pure false

/-- Whether a path names a directory. -/
def isDirectory (p : String) : m Bool := do
  match ← readBytes p with
  | .error .isDirectory => pure true
  | _ => pure false

/-- The text of a path cut into parts. -/
def PathParts.render (pp : PathParts) : String :=
  (if pp.absolute then "/" else "") ++ "/".intercalate pp.names

/-- Make the directory of a path and those missing above it. -/
def createDirAllParts (pp : PathParts) : m (Except IoError Unit) :=
  if pp.isEmpty then pure (.ok ())
  else do
    let p := PathParts.render pp
    match ← makeDir p with
    | .ok () => pure (.ok ())
    | .error .notFound =>
      if pp.names = [] then pure (.error .notFound)
      else
        match ← createDirAllParts pp.parent with
        | .error e => pure (.error e)
        | .ok () =>
          match ← makeDir p with
          | .ok () => pure (.ok ())
          | .error e => do if ← isDirectory p then pure (.ok ()) else pure (.error e)
    | .error e => do if ← isDirectory p then pure (.ok ()) else pure (.error e)
termination_by pp.names.length
decreasing_by
  simp only [PathParts.parent, List.length_dropLast]
  have : pp.names.length ≠ 0 := by simpa using ‹¬pp.names = []›
  omega

/-- Make a directory and those missing above it. -/
def createDirAll (p : String) : m (Except IoError Unit) := createDirAllParts (PathParts.ofString p)

/-- The parent of a path, if it has a non-empty one: the path without its last part. -/
def parentPath (p : String) : Option String :=
  let pp := PathParts.ofString p
  if pp.names.isEmpty then none
  else
    let parent := pp.parent
    if parent.isEmpty then none else some (PathParts.render parent)

/-- Make the directories above a path, where a file is about to be written. -/
def createParents (p : String) : m (Except IoError Unit) :=
  match parentPath p with
  | some q => createDirAll q
  | none => pure (.ok ())

theorem createDirAllParts_empty (pp : PathParts) (h : pp.isEmpty = true) :
    createDirAllParts (m := m) pp = pure (.ok ()) := by
  rw [createDirAllParts, if_pos h]

end FileSystem

/-- A tree of files seen from a working directory. -/
structure Disk where
  files : FileTree
  cwd : List String
  deriving Inhabited

/-- Apply a change to the tree of files, when it succeeds. -/
def Disk.change (f : FileTree → Except IoError FileTree) : StateM Disk (Except IoError Unit) :=
  modifyGet fun d =>
    match f d.files with
    | .ok t => (.ok (), { d with files := t })
    | .error e => (.error e, d)

instance : FileSystem (StateM Disk) where
  readBytes p := do
    let d ← get
    pure (d.files.readBytes d.cwd p)
  writeBytes p bs := do
    let d ← get
    Disk.change (·.writeBytes d.cwd p bs)
  makeDir p := do
    let d ← get
    Disk.change (·.mkdir d.cwd (PathParts.ofString p))
  removeFile p := do
    let d ← get
    Disk.change (·.removeFile d.cwd p)

end BqnEdit.Files

import BqnEdit.Files.Utf8

/-!
# A tree of files

The program reads and writes a handful of files: the code it edits, the settings
file and the rc files with start-up flags. This module models the file system they
live in as a tree of directories and files, with the errors a POSIX system gives.

A path is text. It is cut at slashes: it starts at the root when it begins with a
slash and at the working directory otherwise; empty parts and `.` parts are dropped
(a leading `.` stays, so that `.` is not the empty path), and `..` climbs to the
parent. Every directory on the way to the last part must exist: a missing one is
"No such file or directory", a file in the way is "Not a directory". A path that
ends in a slash names a directory, so a file there is "Not a directory" and a new
file there is "Is a directory".

Making a directory needs its parent; a directory or file already at that path is
"File exists".

Main results:

* `node_root`: the root is always a directory.
* `node_put`: after a node is put at a path, the path names that node.
-/

namespace BqnEdit.Files

/-- The errors of file operations. -/
inductive IoError where
  | notFound
  | isDirectory
  | notDirectory
  | alreadyExists
  | invalidData
  /-- Any other failure, with the system's description. -/
  | other (description : String)
  deriving DecidableEq, Repr, Inhabited

/-- The system's description of an error. -/
def IoError.message : IoError → String
  | .notFound => "No such file or directory (os error 2)"
  | .isDirectory => "Is a directory (os error 21)"
  | .notDirectory => "Not a directory (os error 20)"
  | .alreadyExists => "File exists (os error 17)"
  | .invalidData => "stream did not contain valid UTF-8"
  | .other d => d

/-- What a path names: a directory, or a file with its bytes. -/
inductive Node where
  | dir
  | file (bytes : List UInt8)
  deriving DecidableEq, Repr, Inhabited

/-- A path cut into parts: whether it starts at the root, its parts, and whether it
    ends in a slash. -/
structure PathParts where
  absolute : Bool
  names : List String
  trailing : Bool
  deriving DecidableEq, Repr, Inhabited

/-- Keep the parts that name something: no empty parts, and `.` only first. -/
def keepNames : List String → List String
  | [] => []
  | n :: ns => (if n = "." || n = "" then [] else [n]) ++ keepNames ns

/-- Cut a path at its slashes. -/
def PathParts.ofString (p : String) : PathParts :=
  match p.splitOn "/" with
  | [] => ⟨false, [], false⟩
  | first :: rest =>
    let lead := if first = "." then ["."] else keepNames [first]
    let names := lead ++ keepNames rest
    ⟨p.startsWith "/", names, p.endsWith "/" && !names.isEmpty⟩

/-- The empty path, which names nothing. -/
def PathParts.isEmpty (pp : PathParts) : Bool := !pp.absolute && pp.names.isEmpty

/-- The parent of a path: the path without its last part. -/
def PathParts.parent (pp : PathParts) : PathParts := ⟨pp.absolute, pp.names.dropLast, false⟩

/-- A tree of files: the absolute path of every file and directory but the root. -/
structure FileTree where
  entries : List (List String × Node) := []
  deriving Inhabited

namespace FileTree

/-- What an absolute path names, if anything. The root is a directory. -/
def node? (t : FileTree) (p : List String) : Option Node :=
  if p = [] then some .dir else (t.entries.find? (·.1 == p)).map (·.2)

theorem node_root (t : FileTree) : t.node? [] = some .dir := by simp [node?]

/-- Put a node at an absolute path, replacing what was there. -/
def put (t : FileTree) (p : List String) (n : Node) : FileTree :=
  ⟨t.entries.filter (·.1 != p) ++ [(p, n)]⟩

/-- Remove a path and everything below it. -/
def removeTree (t : FileTree) (p : List String) : FileTree :=
  ⟨t.entries.filter fun e => !(p.isPrefixOf e.1)⟩

/-- Follow parts from a directory. Every part before the last must lead to a
    directory. Gives the absolute path the last part names. -/
def walk (t : FileTree) : List String → List String → Except IoError (List String)
  | cur, [] => .ok cur
  | cur, n :: ns =>
    let next := if n = "." then cur else if n = ".." then cur.dropLast else cur ++ [n]
    match ns with
    | [] => .ok next
    | _ :: _ =>
      match t.node? next with
      | some .dir => walk t next ns
      | some (.file _) => .error .notDirectory
      | none => .error .notFound

/-- The absolute path a path names, seen from the working directory `cwd`. -/
def resolve (t : FileTree) (cwd : List String) (pp : PathParts) : Except IoError (List String) :=
  if pp.isEmpty then .error .notFound
  else t.walk (if pp.absolute then [] else cwd) pp.names

/-- The bytes of the file at a path. -/
def readBytes (t : FileTree) (cwd : List String) (p : String) : Except IoError (List UInt8) := do
  let pp := PathParts.ofString p
  match t.node? (← t.resolve cwd pp) with
  | none => .error .notFound
  | some .dir => .error .isDirectory
  | some (.file bs) => if pp.trailing then .error .notDirectory else .ok bs

/-- The text of the file at a path, which must be well-formed UTF-8. -/
def readText (t : FileTree) (cwd : List String) (p : String) : Except IoError String := do
  match decodeUtf8? (← t.readBytes cwd p) with
  | some s => .ok s
  | none => .error .invalidData

/-- Write bytes to the file at a path, creating it or replacing its bytes. -/
def writeBytes (t : FileTree) (cwd : List String) (p : String) (bs : List UInt8) :
    Except IoError FileTree := do
  let pp := PathParts.ofString p
  let q ← t.resolve cwd pp
  match t.node? q with
  | some .dir => .error .isDirectory
  | some (.file _) => if pp.trailing then .error .notDirectory else .ok (t.put q (.file bs))
  | none => if pp.trailing then .error .isDirectory else .ok (t.put q (.file bs))

/-- Write text to the file at a path, as UTF-8. -/
def writeText (t : FileTree) (cwd : List String) (p : String) (s : String) : Except IoError FileTree :=
  t.writeBytes cwd p (encodeUtf8 s)

/-- Make one directory; its parent must exist. -/
def mkdir (t : FileTree) (cwd : List String) (pp : PathParts) : Except IoError FileTree := do
  let q ← t.resolve cwd pp
  match t.node? q with
  | some _ => .error .alreadyExists
  | none => .ok (t.put q .dir)

/-- Remove the file at a path. -/
def removeFile (t : FileTree) (cwd : List String) (p : String) : Except IoError FileTree := do
  let pp := PathParts.ofString p
  let q ← t.resolve cwd pp
  match t.node? q with
  | none => .error .notFound
  | some .dir => .error .isDirectory
  | some (.file _) => if pp.trailing then .error .notDirectory else .ok (t.removeTree q)

theorem node_put (t : FileTree) (p : List String) (n : Node) (h : p ≠ []) :
    (t.put p n).node? p = some n := by
  have hnone : (t.entries.filter (·.1 != p)).find? (·.1 == p) = none := by
    rw [List.find?_eq_none]
    intro x hx
    simp only [List.mem_filter, bne_iff_ne, ne_eq] at hx
    simpa using hx.2
  simp [put, node?, h, List.find?_append, hnone]

end FileTree

end BqnEdit.Files

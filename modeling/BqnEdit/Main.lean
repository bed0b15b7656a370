import BqnEdit.Cli.Program

/-!
# The command-line program

The entry point. It reads the arguments and the three environment variables the
program looks at, runs the program on the real file system with the real standard
output and standard error, and exits with the program's status.

A failed system call is reported by its kind: a missing path, a directory where a
file was expected, a file where a directory was expected, or a path that exists
already; any other failure keeps the system's own description.
-/

namespace BqnEdit.Cli

open BqnEdit.Files

/-- The error of a failed system call, in the program's terms. -/
def systemError (e : IO.Error) : IoError :=
  match e with
  | .noFileOrDirectory .. => .notFound
  | .alreadyExists .. => .alreadyExists
  | .inappropriateType _ code _ =>
    if code == 21 then .isDirectory else if code == 20 then .notDirectory else .other (toString e)
  | _ => .other (toString e)

/-- Run a system call, keeping its failure as a value. -/
def trySystem (x : IO α) : IO (Except IoError α) :=
  try
    let a ← x
    pure (.ok a)
  catch e =>
    pure (.error (systemError e))

instance : FileSystem IO where
  readBytes p := trySystem do
    let bytes ← IO.FS.readBinFile p
    pure bytes.toList
  writeBytes p bs := trySystem (IO.FS.writeBinFile p ⟨bs.toArray⟩)
  makeDir p := trySystem (IO.FS.createDir p)
  removeFile p := trySystem (IO.FS.removeFile p)

instance : Console IO where
  putOut t := do
    let h ← IO.getStdout
    h.putStr t
    h.flush
  putErr t := do
    let h ← IO.getStderr
    h.putStr t
    h.flush

end BqnEdit.Cli

/-- Run the program on the command line and the environment. -/
def main (args : List String) : IO UInt32 := do
  let home ← IO.getEnv "HOME"
  let xdg ← IO.getEnv "XDG_CONFIG_HOME"
  let colorFgBg ← IO.getEnv "COLORFGBG"
  let status ← BqnEdit.Cli.run { home, xdgConfigHome := xdg, colorFgBg } args
  pure status.toUInt32

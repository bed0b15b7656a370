import BqnEdit.Cli.Program

/-!
# Running the program on a tree of files

A session is the program's world as a value: a tree of files seen from a working
directory, and the text written so far to standard output and to standard error.
Running the program in a session is a function from the session before to the status
and the session after, so its behaviour can be stated and checked without a real file
system.
-/

namespace BqnEdit.Cli

open BqnEdit.Files

/-- The world of one run: files, and what was printed. -/
structure Session where
  disk : Disk
  stdout : String := ""
  stderr : String := ""
  deriving Inhabited

namespace Session

/-- Run a file operation on the session's files. -/
def onDisk (x : StateM Disk α) : StateM Session α :=
  modifyGet fun s =>
    let (a, d) := x.run s.disk
    (a, { s with disk := d })

instance : FileSystem (StateM Session) where
  readBytes p := onDisk (FileSystem.readBytes p)
  writeBytes p bs := onDisk (FileSystem.writeBytes p bs)
  makeDir p := onDisk (FileSystem.makeDir p)
  removeFile p := onDisk (FileSystem.removeFile p)

instance : Console (StateM Session) where
  putOut t := modify fun s => { s with stdout := s.stdout ++ t }
  putErr t := modify fun s => { s with stderr := s.stderr ++ t }

end Session

/-- Run the program in a session: the status, and the session after. -/
def runIn (env : Env) (args : List String) (s : Session) : Nat × Session :=
  (run env args : StateM Session Nat).run s

end BqnEdit.Cli

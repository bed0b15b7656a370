import BqnEdit.Files.System
import BqnEdit.Log.Event
import BqnEdit.Settings.Json
import BqnEdit.Settings.Store

/-!
# Settings kept in a file

The settings live in a JSON file. Loading a missing file gives the default settings,
and so does a file that does not parse, with a warning, so that a damaged file never
stops the editor. Any other failure to read the file is an error. Saving writes the
settings indented, with a final line feed, after creating the directories above the
file.

Loading and saving work in any monad with a file system; `FileStore` is a settings
file in a tree of files, a store for `Persisted`.

Main results:

* `load_missing`: a path that names nothing loads the default settings, silently.
-/

namespace BqnEdit.Settings

open BqnEdit.Files

/-- The warning for a file that does not parse (the warning of `JsonFileStore::load` in
    `settings::store`, line 63). -/
def unreadable (path err : String) : Log.Event :=
  { target := "bqnpad::settings::store", message := "ignoring unreadable store",
    fields := [("path", path), ("err", err)] }

/-- The text a settings file is saved with (the text `JsonFileStore::save` writes in
    `settings::store`, lines 72–81). -/
def fileText (v : Settings) : String := v.pretty ++ "\n"

/-- The settings read from the text of a settings file at `path`, with the warning given on the way,
    if any (the cases of `JsonFileStore::load` in `settings::store`, lines 52–68). -/
def ofFileRead (path : String) : Except IoError String → Except StoreError (Settings × Option Log.Event)
  | .error .notFound => .ok ({}, none)
  | .error e => .error (.read path e.message)
  | .ok text =>
    match Settings.parse text with
    | .ok v => .ok (v, none)
    | .error err => .ok ({}, some (unreadable path err))

section
variable {m : Type → Type} [Monad m] [FileSystem m]

/-- Load the settings file at a path (`JsonFileStore::load` in `settings::store`, lines 51–69). -/
def loadFile (path : String) : m (Except StoreError (Settings × Option Log.Event)) := do
  pure (ofFileRead path (← FileSystem.readText path))

/-- Save settings to the file at a path, creating the directories above it (`JsonFileStore::save` in
    `settings::store`, lines 71–85). -/
def saveFile (path : String) (v : Settings) : m (Except StoreError Unit) := do
  match ← FileSystem.createParents path with
  | .error e => pure (.error (.write path e.message))
  | .ok () =>
    match ← FileSystem.writeText path (fileText v) with
    | .error e => pure (.error (.write path e.message))
    | .ok () => pure (.ok ())

end

/-- A settings file in a tree of files (`JsonFileStore` in `settings::store`, lines 33–35). -/
structure FileStore where
  disk : Disk
  path : String
  deriving Inhabited

namespace FileStore

/-- Load the settings, with the warning given on the way, if any. -/
def load (s : FileStore) : Except StoreError (Settings × Option Log.Event) :=
  ((loadFile s.path : StateM Disk _).run s.disk).1

/-- Save the settings, creating the directories above the file. -/
def save (s : FileStore) (v : Settings) : Except StoreError FileStore :=
  match (saveFile s.path v : StateM Disk _).run s.disk with
  | (.ok (), d) => .ok { s with disk := d }
  | (.error e, _) => .error e

end FileStore

theorem load_missing (path : String) :
    ofFileRead path (.error .notFound) = .ok ({}, none) := rfl

end BqnEdit.Settings

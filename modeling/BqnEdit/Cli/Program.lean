import BqnEdit.App.Keys
import BqnEdit.Cli.Command
import BqnEdit.Cli.Listing
import BqnEdit.Cli.Report
import BqnEdit.Config.Flags
import BqnEdit.Settings.FileStore
import BqnEdit.Syntax.Ansi
import BqnEdit.Syntax.Html

/-!
# The program

The program reads its command line, settles its start-up flags, and runs one command
on files, printing to standard output and standard error. It works in any monad with
a file system and the two outputs, so the same definition runs on the real system and
on a tree of files.

The start-up flags come from three places, each over the one before: the global rc
file in the configuration directory, the local `.bqnpadrc` in the working directory,
and the words of the command line. The configuration directory is `bqnpad` under
`XDG_CONFIG_HOME`, else under `.config` in `HOME`; without either, the global rc file
is the local one. `--clear` removes the global rc file and ignores both rc files for
this run; `--save` then writes the flags of the command line to the global rc file.

The settings file is `--store`, else `settings.json` in the configuration directory,
else `.bqnpad-settings.json`.

The program ends with status 0, with 1 after an error report, and with 2 when the
command line cannot be read.

Main results:

* `replayKeys_nil`: replaying no keys leaves the editor as it was and warns of nothing.
-/

namespace BqnEdit.Cli

open BqnEdit.Files BqnEdit.Config BqnEdit.Settings BqnEdit.Syntax BqnEdit.Editor BqnEdit.App
  BqnEdit.Input

/-- Standard output and standard error. -/
class Console (m : Type → Type) where
  putOut : String → m Unit
  putErr : String → m Unit

/-- The environment variables the program reads. -/
structure Env where
  home : Option String := none
  xdgConfigHome : Option String := none
  colorFgBg : Option String := none
  deriving DecidableEq, Repr, Inhabited

/-- A path below a directory. -/
def joinPath (dir name : String) : String :=
  if dir.isEmpty then name else if dir.endsWith "/" then dir ++ name else dir ++ "/" ++ name

namespace Env

/-- The configuration directory (`config_dir` in `config`, lines 92–123). -/
def configDir (e : Env) : Option String :=
  match e.xdgConfigHome, e.home with
  | some x, _ => some (joinPath x "bqnpad")
  | none, some h => some (joinPath (joinPath h ".config") "bqnpad")
  | none, none => none

/-- The local rc file (`local_override_path` in `config`, lines 80–82). -/
def localRc : String := ".bqnpadrc"

/-- The global rc file (`global_config_path` in `config`, lines 76–78). -/
def globalRc (e : Env) : String := (e.configDir.map (joinPath · "config")).getD localRc

/-- The settings file used without `--store` (`default_store_path` in `config`, lines 85–90). -/
def defaultStore (e : Env) : String := (e.configDir.map (joinPath · "settings.json")).getD ".bqnpad-settings.json"

end Env

/-- The text of a truth value. -/
def boolText (b : Bool) : String := if b then "true" else "false"

/-- Where a command's selection ends up, as standard error reports it. -/
def selectionLine (s : Selection) : String := "selection " ++ toString s.start ++ ".." ++ toString s.stop ++ "\n"

/-- The lines `settings list` prints (`print_settings` in `main`, lines 221–231): every setting,
    then every key binding. -/
def settingsListing (s : Settings) : String :=
  String.join (SettingKey.all.map fun k => k.path ++ " = " ++ boolText (k.get s) ++ "\n") ++
  String.join (KeyAction.all.map fun a =>
    "keyBinds." ++ a.name ++ " = " ++ ((s.keyBind a).map (·.display)).getD "none" ++ "\n")

/-- The warning for an effect a replay cannot carry out. -/
def unavailable (e : Effect) : Log.Event :=
  { target := "bqnpad", message := "effect not available in replay", fields := [("effect", e.label)] }

/-- Whether a replay carries out an effect itself. -/
def handledInReplay : Effect → Bool
  | .codeChanged | .settingsChanged => true
  | _ => false

/-- Press keys one after another, collecting the warnings for the effects that the replay cannot
    carry out (`run_replay` in `main`, lines 270–277). -/
def replayKeys (m : Model) : List KeyPress → Model × List Log.Event
  | [] => (m, [])
  | p :: ps =>
    let (effects, m) := (pressKey m p).takeEffects
    let warned := (effects.filter (!handledInReplay ·)).map unavailable
    let (m, rest) := replayKeys m ps
    (m, warned ++ rest)

theorem replayKeys_nil (m : Model) : replayKeys m [] = (m, []) := rfl

section
variable {m : Type → Type} [Monad m] [FileSystem m] [Console m]

/-- Print on standard output, within a command. -/
def printOut (t : String) : ExceptT ErrorReport m Unit := (Console.putOut t : m Unit)

/-- Print on standard error, within a command. -/
def printErr (t : String) : ExceptT ErrorReport m Unit := (Console.putErr t : m Unit)

/-- Print a log event on standard error. -/
def logEvent (e : Log.Event) : ExceptT ErrorReport m Unit := printErr (e.render ++ "\n")

/-- Fail with a report, the context over the error's own description. -/
def attempt (context : String) (x : m (Except IoError α)) : ExceptT ErrorReport m α := do
  match ← (x : m _) with
  | .ok a => pure a
  | .error e => throw { message := context, causes := [e.message] }

/-- The text of a source file (`read_source` in `main`, lines 160–162). -/
def readSource (p : String) : ExceptT ErrorReport m String :=
  attempt ("Failed to read " ++ p) (FileSystem.readText p)

/-- Write the text of a source file (`write_source` in `main`, lines 164–166). -/
def writeSource (p text : String) : ExceptT ErrorReport m Unit :=
  attempt ("Failed to write " ++ p) (FileSystem.writeText p text)

/-- The flags of an rc file; a missing file has none (`load_config_flags` in `config`,
    lines 125–138). -/
def loadFlags (p : String) : ExceptT ErrorReport m ConfigFlags := do
  if ← (FileSystem.pathExists p : m Bool) then
    pure (ConfigFlags.ofFile (← attempt ("Failed to read config " ++ p) (FileSystem.readText p)))
  else pure {}

/-- Save flags to an rc file, creating its directory (`save_config_flags` in `config`,
    lines 140–166). -/
def saveFlags (p : String) (f : ConfigFlags) : ExceptT ErrorReport m Unit := do
  match FileSystem.parentPath p with
  | some dir => attempt ("Failed to create config dir " ++ dir) (FileSystem.createDirAll dir)
  | none => pure ()
  attempt ("Failed to write config " ++ p) (FileSystem.writeText p f.render)

/-- Remove an rc file, if there is one (`clear_config_flags` in `config`, lines 168–173). -/
def clearFlags (p : String) : ExceptT ErrorReport m Unit := do
  if ← (FileSystem.pathExists p : m Bool) then
    attempt ("Failed to remove " ++ p) (FileSystem.removeFile p)

/-- Load settings, printing the warning for a damaged file; `context` heads the report
    of a failure. -/
def loadSettings (context : Option String) (p : String) : ExceptT ErrorReport m Settings := do
  match ← (loadFile p : m _) with
  | .ok (v, warning) =>
    if let some w := warning then logEvent w
    pure v
  | .error e =>
    match context with
    | some c => throw { message := c, causes := [e.message, e.cause] }
    | none => throw { message := e.message, causes := [e.cause] }

/-- Apply an edit to a file, then write the result back or print it (`run_edit` in `main`,
    lines 169–181). -/
def runEdit (o : BlockOptions) (edit : String → Selection → Edit) : ExceptT ErrorReport m Unit := do
  let source ← readSource o.file
  let e := edit source o.selection
  let result := e.apply source
  if o.write then writeSource o.file result else printOut result
  printErr (selectionLine e.selection)

/-- Show or change the saved settings (`run_settings` in `main`, lines 233–254). -/
def runSettings (a : SettingsAction) (store : String) : ExceptT ErrorReport m Unit := do
  let s ← loadSettings (some ("Failed to load settings " ++ store)) store
  let changed : Option Settings ← match a with
    | .list => do printOut (settingsListing s); pure none
    | .get k => do printOut (boolText (k.get s) ++ "\n"); pure none
    | .set k v => do printOut (k.path ++ " = " ++ boolText v ++ "\n"); pure (some (k.set s v))
    | .toggle k => do
      let s := k.toggle s
      printOut (k.path ++ " = " ++ boolText (k.get s) ++ "\n")
      pure (some s)
    | .reset => pure (some {})
  if let some s := changed then
    match ← (saveFile store s : m _) with
    | .ok () => pure ()
    | .error e => throw { message := "Failed to save settings " ++ store, causes := [e.message, e.cause] }

/-- Type keys into a file and print or write the result (`run_replay` in `main`, lines 256–287). -/
def runReplay (file keys : String) (write : Bool) (flags : ConfigFlags) (store : String) :
    ExceptT ErrorReport m Unit := do
  let presses ← match parseKeySequence keys with
    | .ok ps => pure ps
    | .error e => throw { message := "Invalid key sequence", causes := [e.message] }
  let code ← if ← (FileSystem.pathExists file : m Bool) then readSource file else pure ""
  let saved ← loadSettings none store
  let (model, warnings) := replayKeys (Model.new code (flags.applyTo saved)) presses
  for w in warnings do logEvent w
  let result := model.code.getD ""
  if write then writeSource file result else printOut result
  if let some sel := model.selection then printErr (selectionLine sel)

/-- Run a command with the flags in effect (the program's `main`, lines 320–346). -/
def runCommand (env : Env) (flags : ConfigFlags) : Command → ExceptT ErrorReport m Unit
  | .tokens file json => do printOut (tokenListing json (tokenize (← readSource file)))
  | .highlight file html => do
    let ts := tokenize (← readSource file)
    if html then printOut (toHtml ts ++ "\n")
    else printOut (toAnsi ((flags.theme.getD .auto).background env.colorFgBg) ts)
  | .block t o => runEdit o t.apply
  | .insert o text closing => runEdit o fun source sel => Editor.insert source sel text closing
  | .glyphs json => printOut (glyphListing json (Glyph.visibleGlyphs flags.showExtra))
  | .settings a => runSettings a (flags.store.getD env.defaultStore)
  | .replay file keys write => runReplay file keys write flags (flags.store.getD env.defaultStore)

/-- Settle the flags and run the command (the program's `main`, lines 300–318). -/
def execute (env : Env) (args : List String) (inv : Invocation) : ExceptT ErrorReport m Unit := do
  let globalRc := env.globalRc
  let cliFlags := ConfigFlags.parse ("bqnpad" :: args)
  if inv.clear then clearFlags globalRc
  if inv.save then saveFlags globalRc cliFlags
  let fileFlags ← if inv.clear then pure {} else do
    let g ← loadFlags globalRc
    let l ← loadFlags Env.localRc
    pure (g.union l)
  runCommand env (fileFlags.union cliFlags) inv.command

/-- Run the program on its arguments, the program name left out, and give its exit status (the
    program's `main`, lines 289–347). -/
def run (env : Env) (args : List String) : m Nat := do
  match parseArgs args with
  | .error (.page text) => do Console.putOut text; pure 0
  | .error (.failure text) => do Console.putErr text; pure 2
  | .ok matched =>
    match Invocation.ofMatches matched with
    | none => do Console.putErr root.helpPage; pure 2
    | some inv =>
      match ← (execute env args inv).run with
      | .ok () => pure 0
      | .error r => do Console.putErr r.render; pure 1

end

end BqnEdit.Cli

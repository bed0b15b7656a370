/-!
# The command-line grammar

The command line is a tree of commands. Each command has a name, a one-line
description, arguments and subcommands. An argument is an option (`--name`, perhaps
`-x`) that is a switch or takes one value, or a positional argument. Options marked
global belong to every command below the one that declares them.

Every command answers `-h` and `--help`, and a command with subcommands has a `help`
subcommand. The root also answers `-V` and `--version`.

Options are listed in help in the order they are declared, the command's own options
before the global ones it inherits, and help (then version) last.

Main results:

* `program_names`: the subcommands of the program, in help order.
-/

namespace BqnEdit.Cli

/-- What a value must look like. -/
inductive ValueKind where
  /-- Any text. -/
  | text
  /-- A path: any text but the empty one. -/
  | path
  /-- A character count: a decimal number that fits in 64 bits. -/
  | count
  /-- One of a fixed list of names. -/
  | choice (names : List String)
  /-- The name of a setting. -/
  | setting
  deriving DecidableEq, Repr, Inhabited

/-- What an argument does when given. -/
inductive ArgRole where
  /-- Takes a value. -/
  | value
  /-- A switch, on when given. -/
  | switch
  /-- Prints help. -/
  | help
  /-- Prints the version. -/
  | version
  deriving DecidableEq, Repr, Inhabited

/-- An argument of a command. -/
structure ArgSpec where
  id : String
  long : Option String := none
  short : Option Char := none
  /-- The name of the value, for an argument that takes one. -/
  valueName : String := ""
  role : ArgRole := .switch
  kind : ValueKind := .text
  about : String := ""
  required : Bool := false
  default : Option String := none
  global : Bool := false
  /-- The position of a positional argument, counting from one; zero for options. -/
  index : Nat := 0
  /-- Where an option is listed in help. -/
  order : Nat := 999
  /-- Whether the argument takes any number of values. -/
  many : Bool := false
  deriving DecidableEq, Repr, Inhabited

namespace ArgSpec

/-- Whether the argument is positional. -/
def isPositional (a : ArgSpec) : Bool := a.index != 0

/-- Whether the argument takes a value. -/
def takesValue (a : ArgSpec) : Bool := a.isPositional || a.role == .value

/-- The value placeholder: `<NAME>` when the value is required, `[NAME]` otherwise. -/
def placeholder (a : ArgSpec) (required : Bool) : String :=
  (if a.isPositional && !required then "[" ++ a.valueName ++ "]" else "<" ++ a.valueName ++ ">") ++
    (if a.many then "..." else "")

/-- How the argument is named in messages, with its placeholder. -/
def shownAs (a : ArgSpec) (required : Bool) : String :=
  if a.isPositional then a.placeholder required
  else
    let name := match a.long, a.short with
      | some l, _ => "--" ++ l
      | none, some s => "-" ++ String.singleton s
      | none, none => ""
    if a.role == .value then name ++ " " ++ a.placeholder required else name

/-- How the argument is named in messages. -/
def display (a : ArgSpec) : String := a.shownAs a.required

/-- The possible values listed for the argument. -/
def possibleValues (a : ArgSpec) : List String :=
  match a.kind with
  | .choice names => names
  | _ => []

end ArgSpec

/-- A command: its name, description, arguments and subcommands, whether a
    subcommand must be given, and the version text if it answers `--version`. -/
inductive CommandSpec where
  | mk (name : String) (about : String) (args : List ArgSpec) (subs : List CommandSpec)
      (subRequired : Bool) (version : Option String)
  deriving Inhabited

namespace CommandSpec

/-- The name of a command. -/
def name : CommandSpec → String
  | mk n .. => n

/-- The description of a command. -/
def about : CommandSpec → String
  | mk _ a .. => a

/-- The arguments a command declares itself. -/
def ownArgs : CommandSpec → List ArgSpec
  | mk _ _ args .. => args

/-- The subcommands a command declares itself. -/
def ownSubs : CommandSpec → List CommandSpec
  | mk _ _ _ subs .. => subs

/-- Whether a subcommand must be given. -/
def subRequired : CommandSpec → Bool
  | mk _ _ _ _ r _ => r

/-- The version text, for a command that answers `--version`. -/
def version : CommandSpec → Option String
  | mk _ _ _ _ _ v => v

end CommandSpec

/-- The help option every command has. -/
def helpArg : ArgSpec :=
  { id := "help", long := some "help", short := some 'h', role := .help, about := "Print help" }

/-- The version option of the root. -/
def versionArg : ArgSpec :=
  { id := "version", long := some "version", short := some 'V', role := .version,
    about := "Print version" }

/-- The description of the `help` subcommand. -/
def helpAbout : String := "Print this message or the help of the given subcommand(s)"

/-- The `help` subcommand, as help lists it. -/
def helpCommand : CommandSpec :=
  .mk "help" helpAbout
    [{ id := "subcommand", valueName := "COMMAND", role := .value, index := 1, many := true,
       about := "Print help for the subcommand(s)" }] [] false none

/-- A command as the parser sees it: its own arguments, then the global ones of the
    commands above it, then help and version; its subcommands, then `help` when it
    has any. -/
structure Level where
  spec : CommandSpec
  /-- The names of the commands from the root down to this one. -/
  path : List String
  /-- The global arguments of the commands above. -/
  inherited : List ArgSpec
  deriving Inhabited

namespace Level

/-- Every argument the command accepts. The `help` subcommand takes only the names of
    commands. -/
def args (l : Level) : List ArgSpec :=
  let own := l.spec.ownArgs
  if l.spec.name == "help" then own
  else
    let inherited := l.inherited.filter fun g => !own.any (·.id == g.id)
    own ++ inherited ++ [helpArg] ++ (if l.spec.version.isSome then [versionArg] else [])

/-- The subcommands the command accepts, `help` included when there are any. -/
def subs (l : Level) : List CommandSpec :=
  if l.spec.ownSubs.isEmpty then [] else l.spec.ownSubs ++ [helpCommand]

/-- The name the command is shown with: the names from the root, joined by spaces. -/
def binName (l : Level) : String := " ".intercalate l.path

/-- The positional arguments, in order. -/
def positionals (l : Level) : List ArgSpec := l.args.filter (·.isPositional)

/-- The options. -/
def options (l : Level) : List ArgSpec := l.args.filter (!·.isPositional)

/-- The level of a subcommand below this one. -/
def enter (l : Level) (sub : CommandSpec) : Level :=
  { spec := sub, path := l.path ++ [sub.name],
    inherited := l.inherited ++ l.spec.ownArgs.filter (·.global) }

/-- The argument with a long name. -/
def findLong (l : Level) (name : String) : Option ArgSpec := l.args.find? (·.long == some name)

/-- The argument with a short name. -/
def findShort (l : Level) (c : Char) : Option ArgSpec := l.args.find? (·.short == some c)

/-- The argument with an id. -/
def findId (l : Level) (id : String) : Option ArgSpec := l.args.find? (·.id == id)

/-- The positional argument at a position. -/
def positionalAt (l : Level) (i : Nat) : Option ArgSpec := l.args.find? (·.index == i)

/-- The subcommand with a name. -/
def findSub (l : Level) (name : String) : Option CommandSpec := l.subs.find? (·.name == name)

end Level

/-- The arguments of the commands that edit a selection of a file (`BlockArgs` in `main`,
    lines 123–134). -/
def blockArgs : List ArgSpec :=
  [{ id := "file", valueName := "FILE", role := .value, kind := .path, required := true, index := 1 },
   { id := "start", long := some "start", valueName := "START", role := .value, kind := .count,
     about := "Selection start, in characters", default := some "0", order := 0 },
   { id := "end", long := some "end", valueName := "END", role := .value, kind := .count,
     about := "Selection end, in characters (defaults to the start)", order := 1 },
   { id := "write", long := some "write", about := "Write the result back to the file", order := 2 }]

/-- A file argument. -/
def fileArg : ArgSpec :=
  { id := "file", valueName := "FILE", role := .value, kind := .path, required := true, index := 1 }

/-- A switch for JSON output. -/
def jsonArg : ArgSpec := { id := "json", long := some "json", about := "Print as JSON", order := 0 }

/-- A setting name argument. -/
def keyArg : ArgSpec :=
  { id := "key", valueName := "KEY", role := .value, kind := .setting, required := true, index := 1 }

/-- The global options of the program (`Cli` in `main`, lines 33–64). -/
def globalArgs : List ArgSpec :=
  [{ id := "theme", long := some "theme", valueName := "THEME", role := .value,
     kind := .choice ["auto", "light", "dark"],
     about := "Force syntax highlight theme background (light or dark)", global := true, order := 9 },
   { id := "mod_toggle", long := some "mod-toggle", about := "Make the mod key latch until pressed again",
     global := true, order := 10 },
   { id := "show_extra", long := some "show-extra", about := "Include plain ASCII glyphs in listings",
     global := true, order := 11 },
   { id := "line_numbers", long := some "line-numbers", about := "Show line numbers in the editor",
     global := true, order := 12 },
   { id := "store", long := some "store", valueName := "PATH", role := .value, kind := .path,
     about := "Settings file to use", global := true, order := 13 },
   { id := "save", long := some "save", about := "Save current command-line flags as defaults",
     global := true, order := 14 },
   { id := "clear", long := some "clear", about := "Clear saved defaults", global := true, order := 15 }]

/-- The commands of `settings` (`SettingsCommand` in `main`, lines 143–158). -/
def settingsCommands : List CommandSpec :=
  [.mk "list" "List every setting and key binding" [] [] false none,
   .mk "get" "Print one setting" [keyArg] [] false none,
   .mk "set" "Change one setting"
     [keyArg, { id := "value", valueName := "VALUE", role := .value, kind := .choice ["true", "false"],
                required := true, index := 2 }] [] false none,
   .mk "toggle" "Flip one setting" [keyArg] [] false none,
   .mk "reset" "Forget all saved settings" [] [] false none]

/-- The whole command line of the program (`Cli`, `Command`, `BlockArgs` and `SettingsCommand` in
    `main`, lines 31–158). -/
def program : CommandSpec :=
  .mk "bqnpad" "Editing core for BQN: glyph-aware tokenizer, block transforms and glyph input"
    globalArgs
    [.mk "tokens" "Print the tokens of a file" [fileArg, jsonArg] [] false none,
     .mk "highlight" "Print a file with syntax highlighting"
       [fileArg, { id := "html", long := some "html", about := "Print HTML instead of terminal colors",
                   order := 0 }] [] false none,
     .mk "indent" "Indent the selected lines" blockArgs [] false none,
     .mk "outdent" "Outdent the selected lines" blockArgs [] false none,
     .mk "comment" "Toggle comments on the selected lines" blockArgs [] false none,
     .mk "insert" "Insert text at the selection"
       (blockArgs ++
         [{ id := "text", long := some "text", valueName := "TEXT", role := .value, required := true,
            about := "Text to insert", order := 3 },
          { id := "closing", long := some "closing", valueName := "CLOSING", role := .value,
            about := "Closing delimiter; wraps a non-empty selection", order := 4 }]) [] false none,
     .mk "glyphs" "List the glyph table" [jsonArg] [] false none,
     .mk "settings" "Show or change saved settings" [] settingsCommands false none,
     .mk "replay" "Type a key sequence into a file and print the result"
       [fileArg,
        { id := "keys", long := some "keys", valueName := "KEYS", role := .value, required := true,
          about := "Whitespace-separated keys, e.g. `\\ = shift+Tab ctrl+/`", order := 0 },
        { id := "write", long := some "write", about := "Write the result back to the file", order := 1 }]
       [] false none]
    true (some "bqnpad 0.4.2")

/-- The root level of the program. -/
def root : Level := { spec := program, path := ["bqnpad"], inherited := [] }

theorem program_names :
    root.subs.map CommandSpec.name =
      ["tokens", "highlight", "indent", "outdent", "comment", "insert", "glyphs", "settings",
       "replay", "help"] := rfl

end BqnEdit.Cli

import BqnEdit.Cli.Parse
import BqnEdit.Editor.Block

/-!
# The commands of the program

What the command line asks for, once read: one command with its arguments, and
whether to save or clear the saved start-up flags. The switches `--save` and `--clear`
may be given at any level of the command line.

The commands that edit a selection take a file, a start (zero by default), an end
(the start by default) and whether to write the result back. The selection runs from
the start to the end, backwards when the end comes first.

`settings` without a subcommand lists the settings.

Main results:

* `selection_caret`: without an end, the selection is a caret at the start.
-/

namespace BqnEdit.Cli

open BqnEdit.Editor BqnEdit.Settings

namespace Matches

/-- The names of the commands matched, from the root. -/
def path : Matches → List String
  | mk p .. => p

/-- The arguments given, with their values. -/
def given : Matches → List (String × List String)
  | mk _ g .. => g

/-- The defaults of the arguments not given. -/
def defaults : Matches → List (String × String)
  | mk _ _ d _ => d

/-- The matches of the innermost command. -/
def leaf : Matches → Matches
  | mk p g d none => mk p g d none
  | mk _ _ _ (some s) => leaf s

/-- Whether an argument was given at this level or below. -/
def anyGiven (id : String) : Matches → Bool
  | mk _ g _ none => g.any (·.1 == id)
  | mk _ g _ (some s) => g.any (·.1 == id) || anyGiven id s

/-- The value of an argument: the first given, else its default. -/
def value? (m : Matches) (id : String) : Option String :=
  match m.given.find? (·.1 == id) with
  | some (_, v :: _) => some v
  | _ => (m.defaults.find? (·.1 == id)).map (·.2)

/-- Whether a switch was given. -/
def flag (m : Matches) (id : String) : Bool := m.given.any (·.1 == id)

/-- The value of a count argument. -/
def count? (m : Matches) (id : String) : Option Nat :=
  (m.value? id).bind fun v => (Text.parseUnsigned (Nat.pow 2 64) v).toOption

/-- The value of a setting name argument. -/
def setting? (m : Matches) (id : String) : Option SettingKey :=
  (m.value? id).bind fun v => (SettingKey.parse v).toOption

end Matches

/-- The arguments of a command that edits a selection of a file (`BlockArgs` in `main`,
    lines 123–134). -/
structure BlockOptions where
  file : String
  start : Nat := 0
  stop : Option Nat := none
  write : Bool := false
  deriving DecidableEq, Repr, Inhabited

/-- The selection from the start to the end (`BlockArgs::selection` in `main`, lines 137–139). -/
def BlockOptions.selection (o : BlockOptions) : Selection := Selection.fromAnchor o.start (o.stop.getD o.start)

theorem selection_caret (o : BlockOptions) (h : o.stop = none) : o.selection = Selection.caret o.start := by
  simp [BlockOptions.selection, h, Selection.fromAnchor]

/-- What `settings` does (`SettingsCommand` in `main`, lines 143–158). -/
inductive SettingsAction where
  | list
  | get (key : SettingKey)
  | set (key : SettingKey) (value : Bool)
  | toggle (key : SettingKey)
  | reset
  deriving DecidableEq, Repr, Inhabited

/-- A command of the program (`Command` in `main`, lines 67–120). -/
inductive Command where
  | tokens (file : String) (json : Bool)
  | highlight (file : String) (html : Bool)
  | block (t : BlockTransform) (o : BlockOptions)
  | insert (o : BlockOptions) (text : String) (closing : Option String)
  | glyphs (json : Bool)
  | settings (action : SettingsAction)
  | replay (file keys : String) (write : Bool)
  deriving Repr, Inhabited

/-- A command with the switches for the saved flags. -/
structure Invocation where
  command : Command
  save : Bool := false
  clear : Bool := false
  deriving Repr, Inhabited

namespace Command

/-- The selection arguments of a command's matches. -/
def blockOptions (m : Matches) : Option BlockOptions := do
  pure { file := ← m.value? "file", start := (m.count? "start").getD 0, stop := m.count? "end",
         write := m.flag "write" }

/-- The command the matches of its innermost level ask for. -/
def ofLeaf (m : Matches) : Option Command :=
  match m.path with
  | [_, "tokens"] => do pure (tokens (← m.value? "file") (m.flag "json"))
  | [_, "highlight"] => do pure (highlight (← m.value? "file") (m.flag "html"))
  | [_, "indent"] => do pure (block .indent (← blockOptions m))
  | [_, "outdent"] => do pure (block .outdent (← blockOptions m))
  | [_, "comment"] => do pure (block .toggleComment (← blockOptions m))
  | [_, "insert"] => do pure (insert (← blockOptions m) (← m.value? "text") (m.value? "closing"))
  | [_, "glyphs"] => pure (glyphs (m.flag "json"))
  | [_, "settings"] => pure (settings .list)
  | [_, "settings", "list"] => pure (settings .list)
  | [_, "settings", "get"] => do pure (settings (.get (← m.setting? "key")))
  | [_, "settings", "set"] => do pure (settings (.set (← m.setting? "key") (m.value? "value" == some "true")))
  | [_, "settings", "toggle"] => do pure (settings (.toggle (← m.setting? "key")))
  | [_, "settings", "reset"] => pure (settings .reset)
  | [_, "replay"] => do pure (replay (← m.value? "file") (← m.value? "keys") (m.flag "write"))
  | _ => none

end Command

/-- What a read command line asks for. -/
def Invocation.ofMatches (m : Matches) : Option Invocation := do
  pure { command := ← Command.ofLeaf m.leaf, save := m.anyGiven "save", clear := m.anyGiven "clear" }

end BqnEdit.Cli

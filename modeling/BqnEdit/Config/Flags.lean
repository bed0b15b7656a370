import BqnEdit.Text.Blank
import BqnEdit.Syntax.Palette
import BqnEdit.Settings.Basic

/-!
# Start-up flags

A handful of command-line flags set defaults for the editor: `--mod-toggle`,
`--show-extra` and `--line-numbers` turn settings on, `--theme` forces a background
and `--store` names the settings file. The same flags can be kept in rc files, one or
more to a line, with `#` lines as comments.

The flags are read from any list of words: a word that is not a flag is skipped, so
the whole command line can be read for them. `--theme` and `--store` take the next
word, whatever it looks like, and `--theme=X`, `--store=X` carry their value in the
word itself. An unknown theme reads as no theme. A later flag overrides an earlier one.

Flags from several places are merged: a switch is on if any place turns it on, and a
theme or store from the later place wins.

Main results:

* `union_assoc`: merging is associative, so the order of nesting does not matter.
-/

namespace BqnEdit.Config

open BqnEdit.Syntax BqnEdit.Settings

/-- The start-up flags (`ConfigFlags` in `config`, lines 35–43). -/
structure ConfigFlags where
  modToggle : Bool := false
  showExtra : Bool := false
  lineNumbers : Bool := false
  theme : Option Theme := none
  store : Option String := none
  deriving DecidableEq, Repr, Inhabited

namespace ConfigFlags

/-- Merge two sets of flags, `b` over `a` (`ConfigFlags::union` in `config`, lines 46–54): switches
    are ORed, and `b`'s theme and store win when it has them. -/
def union (a b : ConfigFlags) : ConfigFlags where
  modToggle := a.modToggle || b.modToggle
  showExtra := a.showExtra || b.showExtra
  lineNumbers := a.lineNumbers || b.lineNumbers
  theme := b.theme.or a.theme
  store := b.store.or a.store

/-- Turn on the settings the flags ask for (`ConfigFlags::apply_to` in `config`, lines 58–68). Flags
    never turn a setting off. -/
def applyTo (f : ConfigFlags) (s : Settings) : Settings :=
  let s := if f.modToggle then { s with glyphs.modToggle := true } else s
  let s := if f.showExtra then { s with glyphs.showExtra := true } else s
  if f.lineNumbers then { s with editor.lineNumbers := true } else s

/-- Read one word that carries no separate value. -/
def readWord (f : ConfigFlags) (w : String) : ConfigFlags :=
  if w = "--mod-toggle" then { f with modToggle := true }
  else if w = "--show-extra" then { f with showExtra := true }
  else if w = "--line-numbers" then { f with lineNumbers := true }
  else if w.startsWith "--theme=" then { f with theme := Theme.ofName? (w.drop 8).toString }
  else if w.startsWith "--store=" then { f with store := some (w.drop 8).toString }
  else f

/-- Read flags from words, over the flags already read. -/
def readWords (f : ConfigFlags) : List String → ConfigFlags
  | [] => f
  | "--theme" :: v :: ws => readWords { f with theme := Theme.ofName? v } ws
  | "--store" :: v :: ws => readWords { f with store := some v } ws
  | w :: ws => readWords (f.readWord w) ws

/-- The flags among words; everything else is skipped (`parse_flag_tokens` in `config`,
    lines 175–204). -/
def parse (ws : List String) : ConfigFlags := readWords {} ws

/-- The words of an rc file (the words of `load_config_flags` in `config`, lines 131–136): lines are
    trimmed, blank lines and `#` lines dropped, and the rest cut at blanks. -/
def fileWords (content : String) : List String :=
  (((content.toList.splitOn '\n').map String.ofList).map Text.trim
    |>.filter fun l => !l.isEmpty && !l.startsWith "#").flatMap Text.words

/-- The flags an rc file holds (`load_config_flags` in `config`, lines 125–138). -/
def ofFile (content : String) : ConfigFlags := parse (fileWords content)

/-- The heading line of a saved rc file. -/
def savedHeading : String := "# bqnpad defaults (saved with --save)"

/-- The lines of an rc file that holds the flags (the lines of `save_config_flags` in `config`,
    lines 141–157). -/
def renderLines (f : ConfigFlags) : List String :=
  [savedHeading] ++ (if f.modToggle then ["--mod-toggle"] else []) ++
    (if f.showExtra then ["--show-extra"] else []) ++
    (if f.lineNumbers then ["--line-numbers"] else []) ++
    (f.theme.map (fun t => ["--theme " ++ t.name])).getD [] ++
    (f.store.map (fun p => ["--store " ++ p])).getD []

/-- The text of an rc file that holds the flags (the text `save_config_flags` writes in `config`,
    line 164). -/
def render (f : ConfigFlags) : String := "\n".intercalate f.renderLines ++ "\n"

theorem union_assoc (a b c : ConfigFlags) : (a.union b).union c = a.union (b.union c) := by
  simp only [union, Bool.or_assoc, Option.or_assoc]

end ConfigFlags

end BqnEdit.Config

import BqnEdit.Input.Key

/-!
# Key actions

The editor commands a key can be bound to, each with its default binding. Folding the
glyph bar has no default binding.
-/

namespace BqnEdit.Input

/-- The commands that keys can be bound to, in their fixed order (`KeyAction` in `input::keymap`,
    lines 11–20). -/
inductive KeyAction where
  | glyphMod
  | run
  | save
  | openFile
  | openInput
  | commentLine
  | foldOutputs
  | foldGlyphs
  deriving DecidableEq, Repr, Inhabited

namespace KeyAction

/-- All actions, in their fixed order (`KeyAction::ALL` in `input::keymap`, lines 23–32). -/
def all : List KeyAction :=
  [glyphMod, run, save, openFile, openInput, commentLine, foldOutputs, foldGlyphs]

/-- The name of an action, as settings spell it (`KeyAction::name` in `input::keymap`,
    lines 34–45). -/
def name : KeyAction → String
  | glyphMod => "glyphMod"
  | run => "run"
  | save => "save"
  | openFile => "open"
  | openInput => "openInput"
  | commentLine => "commentLine"
  | foldOutputs => "foldOutputs"
  | foldGlyphs => "foldGlyphs"

/-- The position of an action in the fixed order. -/
def index (a : KeyAction) : Nat := all.idxOf a

/-- The default binding of an action (`KeyAction::default_bind` in `input::keymap`, lines 48–60). -/
def defaultBind : KeyAction → Option KeyBind
  | glyphMod => some (.plain (.char '\\'))
  | run => some ⟨.enter, { shiftKey := true }⟩
  | save => some ⟨.char 's', { ctrlKey := true }⟩
  | openFile => some ⟨.char 'o', { ctrlKey := true }⟩
  | openInput => some ⟨.char 'i', { ctrlKey := true }⟩
  | commentLine => some ⟨.char '/', { ctrlKey := true }⟩
  | foldOutputs => some (.plain .escape)
  | foldGlyphs => none

/-- Read an action name (`FromStr for KeyAction` in `input::keymap`, lines 63–72). -/
def parse (s : String) : Except KeyParseError KeyAction :=
  match all.find? (·.name == s) with
  | some a => .ok a
  | none => .error (.unknownAction s)

end KeyAction

end BqnEdit.Input

import BqnEdit.Input.Key
import BqnEdit.Glyph.Basic

/-!
# The glyph input mode

BQN glyphs are typed with a mod key (by default the backslash) followed by an ASCII
key. After the mod key the editor waits for a glyph key. With a momentary mod key the
wait ends at the next key that is not a modifier key; with a toggling mod key it lasts
until the mod key is pressed again, so several glyphs can be typed in a row.

Main results:

* `onModKey_normal`: from the normal mode the mod key always starts the wait.
-/

namespace BqnEdit.Input

/-- How the mod key behaves (`ModKeyBehavior` in `input`, lines 301–307). -/
inductive ModKeyBehavior where
  /-- The next non-modifier key ends the wait. -/
  | momentary
  /-- The wait lasts until the mod key is pressed again. -/
  | toggle
  deriving DecidableEq, Repr, Inhabited

/-- The name of a behaviour. -/
def ModKeyBehavior.name : ModKeyBehavior → String
  | .momentary => "momentary"
  | .toggle => "toggle"

/-- Whether the editor waits for a glyph key (`InputMode` in `input`, lines 311–315). -/
inductive InputMode where
  | normal
  | pending
  deriving DecidableEq, Repr, Inhabited

namespace InputMode

/-- The name of a mode. -/
def name : InputMode → String
  | normal => "normal"
  | pending => "pending"

/-- The mode after the mod key, and whether the key was taken (`InputMode::on_mod_key` in `input`,
    lines 327–333). A toggling mod key ends a wait; a momentary one pressed while waiting is not
    taken. -/
def onModKey : InputMode → ModKeyBehavior → InputMode × Bool
  | normal, _ => (pending, true)
  | pending, .toggle => (normal, true)
  | pending, .momentary => (pending, false)

/-- The mode after another key, and the glyph the key types while waiting (`InputMode::on_key` in
    `input`, lines 340–349). -/
def onKey (m : InputMode) (k : Key) (b : ModKeyBehavior) : InputMode × Option Glyph.Entry :=
  match m with
  | normal => (normal, none)
  | pending =>
    let next := if b = .momentary ∧ !k.isModifier then normal else pending
    (next, k.toChar?.bind Glyph.byKey)

theorem onModKey_normal (b : ModKeyBehavior) : normal.onModKey b = (pending, true) := rfl

end InputMode

end BqnEdit.Input

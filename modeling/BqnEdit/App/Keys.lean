import BqnEdit.App.Model
import BqnEdit.Glyph.Basic

/-!
# From key presses to messages

A key press first meets the key bindings: the mod key starts (or, when it toggles,
ends) the wait for a glyph key, and any other bound key sends its action's message.
While the editor waits, a key that has a glyph types that glyph, with its closing
bracket when it opens a pair. Tab indents: it types two spaces at a caret and shifts
the selected lines otherwise, outdenting with Shift. An opening bracket typed over a
selection wraps it.

A press the editor does not take falls through to the default: characters and Enter
type themselves, Backspace and Delete delete, and the arrow keys move. A press held
with Ctrl, Alt or Meta has no default.

Main results:

* `handleKey_unmounted_plain`: without a buffer, a plain unbound key in normal mode
    sends nothing and is not taken.
-/

namespace BqnEdit.App

open BqnEdit.Editor BqnEdit.Input BqnEdit.Settings

/-- The messages a press sends, and whether the editor took the press (`KeyDispatch` in
    `app::input`, lines 8–12). -/
structure KeyDispatch where
  messages : List Message := []
  captured : Bool := false
  deriving Inhabited

/-- A press with none of Ctrl, Alt and Meta (the `plain` test in `handle_key` in `app::input`,
    line 69). -/
def isPlain (p : KeyPress) : Bool := !p.mods.ctrlKey && !p.mods.altKey && !p.mods.metaKey

/-- What the editor does with a press that no binding took (`handle_key` after the bindings in
    `app::input`, lines 50–98). While it waits for a glyph key, the press may end the wait and may
    type a glyph; a typed glyph takes it. -/
def dispatchUnbound (m : Model) (p : KeyPress) : KeyDispatch :=
  match m.mode with
  | .normal => dispatchEdit m p []
  | .pending =>
    let (next, glyph) := InputMode.pending.onKey p.key m.settings.modKeyBehavior
    let sent := if next = .pending then [] else [Message.setInputMode next]
    match glyph with
    | some g => ⟨sent ++ [.insert g.literal g.paren], true⟩
    | none => dispatchEdit m p sent
where
  /-- Tab and the opening brackets, which act on the selection. -/
  dispatchEdit (m : Model) (p : KeyPress) (sent : List Message) : KeyDispatch :=
    match m.selection with
    | none => ⟨sent, false⟩
    | some sel =>
      match p.key with
      | .tab =>
        if isPlain p then
          let msg : Message :=
            if sel.isEmpty then .insert indentUnit none
            else if p.mods.shiftKey then .transform .outdent
            else .transform .indent
          ⟨sent ++ [msg], true⟩
        else ⟨sent, false⟩
      | .char c =>
        if isPlain p && !sel.isEmpty then
          match (Glyph.byChar c).bind (·.paren) with
          | some closing => ⟨sent ++ [.insert (String.singleton c) (some closing)], true⟩
          | none => ⟨sent, false⟩
        else ⟨sent, false⟩
      | _ => ⟨sent, false⟩

/-- The messages a press sends (`handle_key` in `app::input`, lines 34–99). -/
def handleKey (m : Model) (p : KeyPress) : KeyDispatch :=
  match m.settings.actionFor p with
  | some .glyphMod =>
    let (next, taken) := m.mode.onModKey m.settings.modKeyBehavior
    if taken then ⟨[.setInputMode next], true⟩ else dispatchUnbound m p
  | some a => ⟨[Message.ofAction a], true⟩
  | none => dispatchUnbound m p

/-- The message of a press nobody took (`default_action` in `app::input`, lines 102–119). -/
def defaultAction (p : KeyPress) : Option Message :=
  if !isPlain p then none
  else
    match p.key with
    | .char c => some (.insert (String.singleton c) none)
    | .enter => some (.insert "\n" none)
    | .backspace => some .deleteBack
    | .delete => some .deleteForward
    | .left => some .moveLeft
    | .right => some .moveRight
    | _ => none

/-- Press a key (`press_key` in `app::input`, lines 123–132): send its messages, then its default
    when the editor did not take it. -/
def pressKey (m : Model) (p : KeyPress) : Model :=
  let d := handleKey m p
  let m := d.messages.foldl Model.update m
  if d.captured then m
  else
    match defaultAction p with
    | some msg => m.update msg
    | none => m

theorem handleKey_unmounted_plain (m : Model) (p : KeyPress) (h : m.editor = none)
    (hm : m.mode = .normal) (hb : m.settings.actionFor p = none) :
    (handleKey m p).messages = [] ∧ (handleKey m p).captured = false := by
  simp [handleKey, hb, dispatchUnbound, hm, dispatchUnbound.dispatchEdit, Model.selection, h]

end BqnEdit.App

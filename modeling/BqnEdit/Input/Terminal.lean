import BqnEdit.Input.Key

/-!
# Key events of a terminal

A terminal reports key events with a key code, the modifiers held and whether the key
went down, repeated or came up. The editor acts on presses and repeats and ignores
releases. Back-tab is shift and tab, the lock keys are modifier keys, and the
terminal's meta and super modifiers are both the meta modifier. Keys the editor has no
use for (print screen, pause, menu, media keys, ...) give no press.
-/

namespace BqnEdit.Input

/-- The modifier keys a terminal tells apart. -/
inductive TermModifierCode where
  | leftShift
  | leftControl
  | leftAlt
  | leftSuper
  | leftHyper
  | leftMeta
  | rightShift
  | rightControl
  | rightAlt
  | rightSuper
  | rightHyper
  | rightMeta
  | isoLevel3Shift
  | isoLevel5Shift
  deriving DecidableEq, Repr, Inhabited

namespace TermModifierCode

/-- All modifier codes with their names. -/
def named : List (String × TermModifierCode) :=
  [("LeftShift", leftShift), ("LeftControl", leftControl), ("LeftAlt", leftAlt),
   ("LeftSuper", leftSuper), ("LeftHyper", leftHyper), ("LeftMeta", leftMeta),
   ("RightShift", rightShift), ("RightControl", rightControl), ("RightAlt", rightAlt),
   ("RightSuper", rightSuper), ("RightHyper", rightHyper), ("RightMeta", rightMeta),
   ("IsoLevel3Shift", isoLevel3Shift), ("IsoLevel5Shift", isoLevel5Shift)]

/-- The modifier key a code stands for; both level shifts are AltGraph (`modifier_key` in
    `input::terminal`, lines 54–64). -/
def toModifierKey : TermModifierCode → ModifierKey
  | leftShift | rightShift => .shift
  | leftControl | rightControl => .control
  | leftAlt | rightAlt => .alt
  | leftSuper | rightSuper => .super
  | leftHyper | rightHyper => .hyper
  | leftMeta | rightMeta => .metaKey
  | isoLevel3Shift | isoLevel5Shift => .altGraph

end TermModifierCode

/-- The key codes of terminal key events. -/
inductive TermKeyCode where
  | char (c : Char)
  | function (n : Nat)
  | modifier (m : TermModifierCode)
  | backspace
  | enter
  | left
  | right
  | up
  | down
  | home
  | endKey
  | pageUp
  | pageDown
  | tab
  | backTab
  | delete
  | insert
  | null
  | esc
  | capsLock
  | scrollLock
  | numLock
  | printScreen
  | pause
  | menu
  | keypadBegin
  | media
  deriving DecidableEq, Repr, Inhabited

namespace TermKeyCode

/-- The key codes that have plain names. -/
def named : List (String × TermKeyCode) :=
  [("Backspace", backspace), ("Enter", enter), ("Left", left), ("Right", right), ("Up", up),
   ("Down", down), ("Home", home), ("End", endKey), ("PageUp", pageUp),
   ("PageDown", pageDown), ("Tab", tab), ("BackTab", backTab), ("Delete", delete),
   ("Insert", insert), ("Null", null), ("Esc", esc), ("CapsLock", capsLock),
   ("ScrollLock", scrollLock), ("NumLock", numLock), ("PrintScreen", printScreen),
   ("Pause", pause), ("Menu", menu), ("KeypadBegin", keypadBegin), ("MediaPlay", media)]

end TermKeyCode

/-- The modifier flags of a terminal event. -/
structure TermModifiers where
  shift : Bool := false
  control : Bool := false
  alt : Bool := false
  super : Bool := false
  hyper : Bool := false
  metaFlag : Bool := false
  deriving DecidableEq, Repr, Inhabited

/-- Whether a key went down, repeated or came up. -/
inductive TermKeyKind where
  | press
  | repeated
  | release
  deriving DecidableEq, Repr, Inhabited

/-- A terminal key event. -/
structure TermKeyEvent where
  code : TermKeyCode
  mods : TermModifiers := {}
  kind : TermKeyKind := .press
  deriving DecidableEq, Repr, Inhabited

/-- The key of a key code, and whether the code itself holds shift. -/
def TermKeyCode.toKey : TermKeyCode → Option (Key × Bool)
  | .char c => some (.char c, false)
  | .enter => some (.enter, false)
  | .tab => some (.tab, false)
  | .backTab => some (.tab, true)
  | .backspace => some (.backspace, false)
  | .delete => some (.delete, false)
  | .esc => some (.escape, false)
  | .left => some (.left, false)
  | .right => some (.right, false)
  | .up => some (.up, false)
  | .down => some (.down, false)
  | .home => some (.home, false)
  | .endKey => some (.endKey, false)
  | .pageUp => some (.pageUp, false)
  | .pageDown => some (.pageDown, false)
  | .insert => some (.insert, false)
  | .function n => some (.function n, false)
  | .capsLock => some (.modifier .capsLock, false)
  | .scrollLock => some (.modifier .scrollLock, false)
  | .numLock => some (.modifier .numLock, false)
  | .modifier m => some (.modifier m.toModifierKey, false)
  | _ => none

/-- The press a terminal key event stands for; releases and unused keys give none
    (`key_press_from_event` in `input::terminal`, lines 9–52). -/
def TermKeyEvent.toPress (e : TermKeyEvent) : Option KeyPress :=
  if e.kind = .release then none
  else
    e.code.toKey.map fun (k, shifted) =>
      ⟨k, { ctrlKey := e.mods.control, altKey := e.mods.alt,
            shiftKey := e.mods.shift || shifted, metaKey := e.mods.super || e.mods.metaFlag }⟩

end BqnEdit.Input

import BqnEdit.Text.Blank
import BqnEdit.Text.Unsigned

/-!
# Keys and key presses

A key is a character, a named key (Enter, the arrows, F1 to F24, ...), or a modifier
key (Shift, Control, ...). A key press is a key with the modifiers held, and it is
also the shape of a key binding: a binding matches a press exactly when the key and
all four modifiers agree.

Presses are written in a small notation: the modifiers, each followed by `+`, and
then the key, as in `ctrl+shift+s`. Modifier names are read without regard to ASCII
case (`CTRL`, `Option`, `cmd`), `space` and `plus` name those characters, and a lone
`+` is the plus key. Writing a binding gives the modifiers in the fixed order ctrl,
alt, shift, meta.
-/

namespace BqnEdit.Input

/-- Why a key, binding or action name could not be read (`KeyParseError` in `input`,
    lines 22–31). -/
inductive KeyParseError where
  | unknownKey (s : String)
  | missingKey (s : String)
  | multipleKeys (s : String)
  | unknownAction (s : String)
  deriving DecidableEq, Repr, Inhabited

namespace KeyParseError

/-- The message of a reading error. -/
def message : KeyParseError → String
  | unknownKey s => "unknown key: " ++ s
  | missingKey s => "no key in binding: " ++ s
  | multipleKeys s => "more than one key in binding: " ++ s
  | unknownAction s => "unknown key action: " ++ s

end KeyParseError

/-- The modifier keys, pressed on their own (`ModifierKey` in `input`, lines 35–50). -/
inductive ModifierKey where
  | shift
  | control
  | alt
  | altGraph
  | capsLock
  | fn
  | fnLock
  | metaKey
  | numLock
  | scrollLock
  | symbol
  | symbolLock
  | hyper
  | super
  deriving DecidableEq, Repr, Inhabited

namespace ModifierKey

/-- All modifier keys (`ModifierKey::ALL` in `input`, lines 53–68). -/
def all : List ModifierKey :=
  [shift, control, alt, altGraph, capsLock, fn, fnLock, metaKey, numLock, scrollLock, symbol,
   symbolLock, hyper, super]

/-- The name of a modifier key (`ModifierKey::name` in `input`, lines 70–87). -/
def name : ModifierKey → String
  | shift => "Shift"
  | control => "Control"
  | alt => "Alt"
  | altGraph => "AltGraph"
  | capsLock => "CapsLock"
  | fn => "Fn"
  | fnLock => "FnLock"
  | metaKey => "Meta"
  | numLock => "NumLock"
  | scrollLock => "ScrollLock"
  | symbol => "Symbol"
  | symbolLock => "SymbolLock"
  | hyper => "Hyper"
  | super => "Super"

end ModifierKey

/-- A key of the keyboard (`Key` in `input`, lines 92–110). -/
inductive Key where
  | char (c : Char)
  | enter
  | tab
  | backspace
  | delete
  | escape
  | left
  | right
  | up
  | down
  | home
  | endKey
  | pageUp
  | pageDown
  | insert
  | function (n : Nat)
  | modifier (m : ModifierKey)
  deriving DecidableEq, Repr, Inhabited

namespace Key

/-- A modifier key pressed on its own (`Key::is_modifier` in `input`, lines 113–115). -/
def isModifier : Key → Bool
  | modifier _ => true
  | _ => false

/-- The character of a character key (`Key::char` in `input`, lines 118–123). -/
def toChar? : Key → Option Char
  | char c => some c
  | _ => none

/-- The keys with names, other than the function and modifier keys. -/
def namedKeys : List (String × Key) :=
  [("Enter", enter), ("Tab", tab), ("Backspace", backspace), ("Delete", delete),
   ("Escape", escape), ("ArrowLeft", left), ("ArrowRight", right), ("ArrowUp", up),
   ("ArrowDown", down), ("Home", home), ("End", endKey), ("PageUp", pageUp),
   ("PageDown", pageDown), ("Insert", insert)]

/-- The name of a key (`Display for Key` in `input`, lines 153–175): the character itself, or the
    key's name. -/
def display : Key → String
  | char c => String.singleton c
  | function n => "F" ++ toString n
  | modifier m => m.name
  | k => ((namedKeys.find? (·.2 == k)).map (·.1)).getD ""

/-- The key a name stands for, other than a single character (`Key::named` in `input`,
    lines 125–150): a named key, a modifier key, or `F` and a byte from 1 to 24. -/
def ofName? (s : String) : Option Key :=
  match namedKeys.lookup s with
  | some k => some k
  | none =>
    match ModifierKey.all.find? (·.name == s) with
    | some m => some (modifier m)
    | none =>
      match s.toList with
      | 'F' :: ds =>
        match Text.parseByte? (String.ofList ds) with
        | some n => if 1 ≤ n ∧ n ≤ 24 then some (function n) else none
        | none => none
      | _ => none

/-- Read a key (`FromStr for Key` in `input`, lines 177–187): one character stands for itself,
    anything else must be a name. -/
def parse (s : String) : Except KeyParseError Key :=
  match s.toList with
  | [c] => .ok (char c)
  | _ =>
    match ofName? s with
    | some k => .ok k
    | none => .error (.unknownKey s)

end Key

/-- The modifiers held with a key (`Modifiers` in `input`, lines 204–209). -/
structure Modifiers where
  ctrlKey : Bool := false
  altKey : Bool := false
  shiftKey : Bool := false
  metaKey : Bool := false
  deriving DecidableEq, Repr, Inhabited

namespace Modifiers

/-- No modifier is held. -/
def isNone (m : Modifiers) : Bool :=
  !(m.ctrlKey || m.altKey || m.shiftKey || m.metaKey)

end Modifiers

/-- A key pressed with modifiers (`KeyPress` in `input`, lines 213–216, and `KeyBind` in
    `input::keymap`, lines 76–86). A key binding has the same shape, and matches exactly the press
    equal to it. -/
structure KeyPress where
  key : Key
  mods : Modifiers := {}
  deriving DecidableEq, Repr, Inhabited

/-- A key binding: the press that triggers an action. -/
abbrev KeyBind := KeyPress

namespace KeyPress

/-- A press of a key with no modifiers. -/
def plain (k : Key) : KeyPress := ⟨k, {}⟩

/-- Whether a binding matches a press (`KeyBind::matches` in `input::keymap`, lines 126–128): the
    same key and exactly the same modifiers. -/
def accepts (b p : KeyPress) : Bool := b == p

/-- The notation of a binding (`Display for KeyBind` in `input::keymap`, lines 151–169): the held
    modifiers in the order ctrl, alt, shift, meta, each followed by `+`, then the key. The space key
    is written `space`, and the plus key `plus` when a modifier is held. -/
def display (b : KeyPress) : String :=
  let mods :=
    (if b.mods.ctrlKey then "ctrl+" else "") ++ (if b.mods.altKey then "alt+" else "") ++
    (if b.mods.shiftKey then "shift+" else "") ++ (if b.mods.metaKey then "meta+" else "")
  let key := match b.key with
    | .char ' ' => "space"
    | .char '+' => if b.mods.isNone then "+" else "plus"
    | k => k.display
  mods ++ key

/-- The modifier a part of the notation names, compared without regard to ASCII case. -/
def modifierOf? (part : String) : Option (Modifiers → Modifiers) :=
  match part.toList.map Char.toLower with
  | ['c', 't', 'r', 'l'] | ['c', 'o', 'n', 't', 'r', 'o', 'l'] => some ({ · with ctrlKey := true })
  | ['a', 'l', 't'] | ['o', 'p', 't', 'i', 'o', 'n'] => some ({ · with altKey := true })
  | ['s', 'h', 'i', 'f', 't'] => some ({ · with shiftKey := true })
  | ['m', 'e', 't', 'a'] | ['c', 'm', 'd'] | ['s', 'u', 'p', 'e', 'r'] =>
    some ({ · with metaKey := true })
  | _ => none

/-- The key a part of the notation names. -/
def keyOfPart (part : String) : Except KeyParseError Key :=
  match part with
  | "space" => .ok (.char ' ')
  | "plus" => .ok (.char '+')
  | _ => Key.parse part

/-- Read the parts of a press from left to right, with the modifiers and key so far (the loop of
    `FromStr for KeyPress` in `input`, lines 270–288). -/
def readParts (whole : String) : Modifiers → Option Key → List String → Except KeyParseError KeyPress
  | mods, key, [] =>
    match key with
    | some k => .ok ⟨k, mods⟩
    | none => .error (.missingKey whole)
  | mods, key, part :: rest =>
    match modifierOf? part with
    | some f => readParts whole (f mods) key rest
    | none =>
      match key with
      | some _ => .error (.multipleKeys whole)
      | none =>
        match keyOfPart part with
        | .ok k => readParts whole mods (some k) rest
        | .error e => .error e

/-- Read a press in the notation `mod+...+key` (`FromStr for KeyPress` in `input`, lines 260–292). A
    lone `+` is the plus key. -/
def parse (s : String) : Except KeyParseError KeyPress :=
  if s = "+" then .ok (plain (.char '+'))
  else readParts s {} none ((s.toList.splitOn '+').map String.ofList)

end KeyPress

/-- Read a sequence of presses separated by blanks (`parse_key_sequence` in `input`, lines 295–297).
    The first bad press is the error. -/
def parseKeySequence (s : String) : Except KeyParseError (List KeyPress) :=
  (Text.words s).mapM KeyPress.parse

end BqnEdit.Input

import BqnEdit.Settings.Basic
import BqnEdit.Json.Record
import BqnEdit.Json.Write

/-!
# Settings as JSON

Settings are stored as a JSON object with the groups `glyphs`, `output` and `editor`
and, when any binding differs from its default, `keyBinds`, which maps action names to
a binding object or `null` for an unbound action. A binding object has the key's name
and only those of `ctrl`, `alt`, `shift` and `meta` that are held. Reading is lenient
where writing is strict: every member may be left out and keeps its default, unknown
members are ignored, and a later entry for the same action replaces an earlier one.
-/

namespace BqnEdit.Settings

open BqnEdit.Input
open BqnEdit.Json
open BqnEdit.Json.Reader

/-- A key as JSON: its name. -/
def keyJson (k : Key) : Json := .str k.display

/-- A binding as JSON: the key and the held modifiers. -/
def bindJson (b : KeyBind) : Json :=
  .obj ([("key", keyJson b.key)] ++
    (if b.mods.ctrlKey then [("ctrl", Json.bool true)] else []) ++
    (if b.mods.altKey then [("alt", Json.bool true)] else []) ++
    (if b.mods.shiftKey then [("shift", Json.bool true)] else []) ++
    (if b.mods.metaKey then [("meta", Json.bool true)] else []))

/-- Settings as JSON, in the fixed member order (the serialized `Settings` in `settings`,
    lines 74–85). -/
def toJson (s : Settings) : Json :=
  let g := s.glyphs
  let o := s.output
  let groups : List (String × Json) :=
    [("glyphs", .obj [("show", .bool g.shown), ("modToggle", .bool g.modToggle),
        ("modHighlight", .bool g.modHighlight), ("modHints", .bool g.modHints),
        ("showExtra", .bool g.showExtra)]),
     ("output", .obj [("show", .bool o.shown), ("persist", .bool o.persist),
        ("wrap", .bool o.wrap), ("multimedia", .bool o.multimedia)]),
     ("editor", .obj [("lineNumbers", .bool s.editor.lineNumbers)])]
  let binds : List (String × Json) :=
    if s.overrides.isEmpty then []
    else [("keyBinds", .obj (s.overrides.map fun (a, b) =>
      (a.name, match b with | some b => bindJson b | none => .null)))]
  .obj (groups ++ binds)

/-- How doubles are written in stored JSON. -/
def showFloat : Float → String := Text.FloatFormat.exchange.show

/-- Settings as compact JSON text. -/
def compact (s : Settings) : String := compactWith showFloat s.toJson

/-- Settings as pretty JSON text. -/
def pretty (s : Settings) : String := prettyWith showFloat 0 s.toJson

/-- A bool field of a record. -/
def boolField (name : String) (put : σ → Bool → σ) : FieldSpec σ :=
  ⟨name, fun acc => put acc <$> readBool, false⟩

/-- Read a key: its name as a string. A name that is no key is an error without a
    position, placed by the enclosing record. -/
def readKey : Reader Key := do
  match Key.parse (← readString) with
  | .ok k => pure k
  | .error e => failUnplaced e.message

/-- Read a binding object. -/
def readKeyBind : Reader KeyBind :=
  readRecordOf "KeyBind"
    [⟨"key", fun b => (fun k => { b with key := k }) <$> readKey, true⟩,
     boolField "ctrl" fun b v => { b with mods.ctrlKey := v },
     boolField "alt" fun b v => { b with mods.altKey := v },
     boolField "shift" fun b v => { b with mods.shiftKey := v },
     boolField "meta" fun b v => { b with mods.metaKey := v }]
    (KeyPress.plain (.char ' '))

/-- Read the glyph bar group. -/
def readGlyphSettings : Reader GlyphSettings :=
  readRecordOf "GlyphSettings"
    [boolField "show" fun g v => { g with shown := v },
     boolField "modToggle" fun g v => { g with modToggle := v },
     boolField "modHighlight" fun g v => { g with modHighlight := v },
     boolField "modHints" fun g v => { g with modHints := v },
     boolField "showExtra" fun g v => { g with showExtra := v }] {}

/-- Read the output group. -/
def readOutputSettings : Reader OutputSettings :=
  readRecordOf "OutputSettings"
    [boolField "show" fun o v => { o with shown := v },
     boolField "persist" fun o v => { o with persist := v },
     boolField "wrap" fun o v => { o with wrap := v },
     boolField "multimedia" fun o v => { o with multimedia := v }] {}

/-- Read the editor group. -/
def readEditorSettings : Reader EditorSettings :=
  readRecordOf "EditorSettings" [boolField "lineNumbers" fun _ v => { lineNumbers := v }] {}

/-- The action names as map keys. -/
def actionKeys : List (String × KeyAction) := KeyAction.all.map fun a => (a.name, a)

/-- Put read overrides into action order; the last entry for an action wins. -/
def normalizeOverrides (es : List (KeyAction × Option KeyBind)) :
    List (KeyAction × Option KeyBind) :=
  KeyAction.all.filterMap fun a => ((es.reverse.lookup a).map (a, ·))

theorem inActionOrder_normalizeOverrides (es : List (KeyAction × Option KeyBind)) :
    InActionOrder (normalizeOverrides es) :=
  sublist_filterMap_keys _ _

/-- Read settings (the deserialized `Settings` in `settings`, lines 74–85). -/
def readSettings : Reader Settings :=
  readRecordOf "Settings"
    [⟨"glyphs", fun s => (fun g => { s with glyphs := g }) <$> readGlyphSettings, false⟩,
     ⟨"output", fun s => (fun o => { s with output := o }) <$> readOutputSettings, false⟩,
     ⟨"editor", fun s => (fun e => { s with editor := e }) <$> readEditorSettings, false⟩,
     ⟨"keyBinds", fun s =>
        (fun es => { s with overrides := normalizeOverrides es
                            ordered := inActionOrder_normalizeOverrides es }) <$>
          readMap actionKeys (readOption readKeyBind), false⟩] {}

/-- Read settings from JSON text. -/
def parse (text : String) : Except String Settings :=
  (parseWith readSettings text).mapError ReadError.render

/-- Read a binding from JSON text. -/
def parseKeyBind (text : String) : Except String KeyBind :=
  (parseWith readKeyBind text).mapError ReadError.render

end BqnEdit.Settings

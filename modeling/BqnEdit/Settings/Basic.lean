import BqnEdit.Input.Action
import BqnEdit.Input.Mode

/-!
# Editor settings

The settings are ten switches in three groups (the glyph bar, the output pane and the
editor) and the key bindings that differ from the defaults. A binding override is
kept only while it differs from the action's default: setting an action back to its
default removes the override, so the overrides are exactly the changed bindings.

The overrides are kept in the fixed order of the actions, one at most per action, and the
settings carry the proof: every way of building them keeps the order.
-/

namespace BqnEdit.Settings

open BqnEdit.Input

/-- The switches of the glyph bar (`GlyphSettings` in `settings`, lines 23–46). -/
structure GlyphSettings where
  shown : Bool := true
  modToggle : Bool := false
  modHighlight : Bool := false
  modHints : Bool := true
  showExtra : Bool := false
  deriving DecidableEq, Repr, Inhabited

/-- The switches of the output pane (`OutputSettings` in `settings`, lines 50–67). -/
structure OutputSettings where
  shown : Bool := true
  persist : Bool := false
  wrap : Bool := false
  multimedia : Bool := true
  deriving DecidableEq, Repr, Inhabited

/-- The switches of the editor (`EditorSettings` in `settings`, lines 71–73). -/
structure EditorSettings where
  lineNumbers : Bool := false
  deriving DecidableEq, Repr, Inhabited

/-- Binding overrides in the fixed order of the actions, one at most per action (the `BTreeMap` of
    `Settings::key_binds` in `settings`, line 84): their actions, in order, are some of all the
    actions. -/
def InActionOrder (os : List (KeyAction × Option KeyBind)) : Prop :=
  (os.map Prod.fst).Sublist KeyAction.all

end BqnEdit.Settings

namespace BqnEdit

open BqnEdit.Input

/-- All settings (`Settings` in `settings`, lines 74–85): the switches and the binding overrides,
    which are kept in action order. -/
structure Settings where
  glyphs : Settings.GlyphSettings := {}
  output : Settings.OutputSettings := {}
  editor : Settings.EditorSettings := {}
  overrides : List (KeyAction × Option KeyBind) := []
  ordered : Settings.InActionOrder overrides := by exact List.nil_sublist _
  deriving DecidableEq, Repr, Inhabited

end BqnEdit

namespace BqnEdit.Settings

open BqnEdit.Input

/-- The ten switches, each named by its path (`SettingKey` in `settings`, lines 130–141). -/
inductive SettingKey where
  | glyphsShow
  | glyphsModToggle
  | glyphsModHighlight
  | glyphsModHints
  | glyphsShowExtra
  | outputShow
  | outputPersist
  | outputWrap
  | outputMultimedia
  | editorLineNumbers
  deriving DecidableEq, Repr, Inhabited

namespace SettingKey

/-- All switches, in their fixed order (`SettingKey::ALL` in `settings`, lines 144–155). -/
def all : List SettingKey :=
  [glyphsShow, glyphsModToggle, glyphsModHighlight, glyphsModHints, glyphsShowExtra,
   outputShow, outputPersist, outputWrap, outputMultimedia, editorLineNumbers]

/-- The path of a switch (`SettingKey::path` in `settings`, lines 158–171): its group and its
    name. -/
def path : SettingKey → String
  | glyphsShow => "glyphs.show"
  | glyphsModToggle => "glyphs.modToggle"
  | glyphsModHighlight => "glyphs.modHighlight"
  | glyphsModHints => "glyphs.modHints"
  | glyphsShowExtra => "glyphs.showExtra"
  | outputShow => "output.show"
  | outputPersist => "output.persist"
  | outputWrap => "output.wrap"
  | outputMultimedia => "output.multimedia"
  | editorLineNumbers => "editor.lineNumbers"

/-- The message of an unknown path (`SettingError` in `settings`, lines 122–126). -/
def unknownMessage (s : String) : String := "unknown setting: " ++ s

/-- The switch at a path (`FromStr for SettingKey` in `settings`, lines 221–230). -/
def parse (s : String) : Except String SettingKey :=
  match all.find? (·.path == s) with
  | some k => .ok k
  | none => .error (unknownMessage s)

/-- The value of a switch (`SettingKey::get` in `settings`, lines 188–201). -/
def get (k : SettingKey) (s : Settings) : Bool :=
  match k with
  | glyphsShow => s.glyphs.shown
  | glyphsModToggle => s.glyphs.modToggle
  | glyphsModHighlight => s.glyphs.modHighlight
  | glyphsModHints => s.glyphs.modHints
  | glyphsShowExtra => s.glyphs.showExtra
  | outputShow => s.output.shown
  | outputPersist => s.output.persist
  | outputWrap => s.output.wrap
  | outputMultimedia => s.output.multimedia
  | editorLineNumbers => s.editor.lineNumbers

/-- Set a switch (`SettingKey::set` in `settings`, lines 203–205). -/
def set (k : SettingKey) (s : Settings) (v : Bool) : Settings :=
  match k with
  | glyphsShow => { s with glyphs.shown := v }
  | glyphsModToggle => { s with glyphs.modToggle := v }
  | glyphsModHighlight => { s with glyphs.modHighlight := v }
  | glyphsModHints => { s with glyphs.modHints := v }
  | glyphsShowExtra => { s with glyphs.showExtra := v }
  | outputShow => { s with output.shown := v }
  | outputPersist => { s with output.persist := v }
  | outputWrap => { s with output.wrap := v }
  | outputMultimedia => { s with output.multimedia := v }
  | editorLineNumbers => { s with editor.lineNumbers := v }

/-- Flip a switch (`SettingKey::toggle` in `settings`, lines 208–212). -/
def toggle (k : SettingKey) (s : Settings) : Settings :=
  k.set s (!k.get s)

theorem get_set (k : SettingKey) (s : Settings) (v : Bool) : k.get (k.set s v) = v := by
  cases k <;> rfl

end SettingKey

/-- The overrides with one action's entry replaced, or removed for `none`, in action
    order. -/
def putOverride (os : List (KeyAction × Option KeyBind)) (a : KeyAction)
    (v : Option (Option KeyBind)) : List (KeyAction × Option KeyBind) :=
  KeyAction.all.filterMap fun b =>
    if b = a then v.map (b, ·) else (os.lookup b).map (b, ·)

/-- The keys that a choice of entries over a list of keys keeps come in the order of the
    list. -/
theorem sublist_filterMap_keys {κ ν : Type} (f : κ → Option ν) (keys : List κ) :
    ((keys.filterMap fun a => (f a).map (a, ·)).map Prod.fst).Sublist keys := by
  induction keys with
  | nil => exact .slnil
  | cons a keys ih =>
    rw [List.filterMap_cons]
    cases f a with
    | none => exact ih.cons a
    | some v => exact ih.cons_cons a

theorem inActionOrder_putOverride (os : List (KeyAction × Option KeyBind)) (a : KeyAction)
    (v : Option (Option KeyBind)) : InActionOrder (putOverride os a v) := by
  unfold putOverride InActionOrder
  have h := sublist_filterMap_keys (fun b => if b = a then v else os.lookup b) KeyAction.all
  simpa only [apply_ite (Option.map _)] using h

/-- The binding in effect for an action (`Settings::key_bind` in `settings`, lines 89–94): the
    override, else the default. -/
def keyBind (s : Settings) (a : KeyAction) : Option KeyBind :=
  (s.overrides.lookup a).getD a.defaultBind

/-- Bind an action; binding it to its default removes the override (`Settings::set_key_bind` in
    `settings`, lines 97–103). -/
def setKeyBind (s : Settings) (a : KeyAction) (b : Option KeyBind) : Settings :=
  { s with overrides := putOverride s.overrides a (if b = a.defaultBind then none else some b)
           ordered := inActionOrder_putOverride _ _ _ }

/-- The first action, in action order, whose binding accepts a press (`Settings::action_for` in
    `settings`, lines 106–111). -/
def actionFor (s : Settings) (p : KeyPress) : Option KeyAction :=
  KeyAction.all.find? fun a =>
    match s.keyBind a with
    | some b => b.accepts p
    | none => false

/-- How the mod key behaves (`Settings::mod_key_behavior` in `settings`, lines 113–119): toggling
    when the setting says so. -/
def modKeyBehavior (s : Settings) : ModKeyBehavior :=
  if s.glyphs.modToggle then .toggle else .momentary

end BqnEdit.Settings

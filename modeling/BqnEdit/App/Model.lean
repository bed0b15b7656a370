import BqnEdit.Editor.Buffer
import BqnEdit.Settings.Basic
import BqnEdit.Eval.Run

/-!
# The editor's state and its messages

The editor is a model updated by messages. The model holds the buffer (absent until
the editor is mounted), the settings, the glyph input mode, the input file for
programs, the output log, and the effects waiting for the shell around the editor:
running, saving or opening a file, and news that the code or the settings changed.
An effect is queued once, however often it is asked for, until the shell takes the
queue.

An unmounted editor ignores every message about the code and the selection. A
message that changes the code queues "code changed" only when the edit did
something; a message that changes the settings queues "settings changed", except
loading settings (they come from the store, which has them already) and setting a
switch to the value it has.

Main results:

* `pushEffect_nodup`: the effect queue never holds an effect twice.
* `update_unmounted_edit`: without a buffer, an edit message changes nothing.
-/

namespace BqnEdit.App

open BqnEdit.Editor BqnEdit.Input BqnEdit.Settings BqnEdit.Eval

/-- What the editor asks of the shell around it (`Effect` in `app::model`, lines 11–24). -/
inductive Effect where
  | run
  | save
  | openFile
  | openInput
  | settingsChanged
  | codeChanged
  deriving DecidableEq, Repr, Inhabited

namespace Effect

/-- The snake-case name of an effect. -/
def name : Effect → String
  | run => "run"
  | save => "save"
  | openFile => "open"
  | openInput => "open_input"
  | settingsChanged => "settings_changed"
  | codeChanged => "code_changed"

/-- The capitalised name of an effect, as log fields show it. -/
def label : Effect → String
  | run => "Run"
  | save => "Save"
  | openFile => "Open"
  | openInput => "OpenInput"
  | settingsChanged => "SettingsChanged"
  | codeChanged => "CodeChanged"

end Effect

/-- The editor's state (`Model` in `app::model`, lines 30–39). Its buffer keeps the text in the
    text's own rope. -/
structure Model where
  editor : Option (Buffer String) := none
  settings : Settings := {}
  mode : InputMode := .normal
  inputFile : Option InputFile := none
  outputs : OutputLog := {}
  effects : List Effect := []
  deriving Inhabited

namespace Model

/-- A mounted editor holding `code`, with the given settings (`Model::new` in `app::model`,
    lines 43–49). -/
def new (code : String) (settings : Settings) : Model :=
  { editor := some (Buffer.ofText code), settings }

/-- The code, when the editor is mounted (`Model::code` in `app::model`, lines 51–53). -/
def code (m : Model) : Option String := m.editor.map (·.text)

/-- The selection, when the editor is mounted (`Model::selection` in `app::model`, lines 55–57). -/
def selection (m : Model) : Option Selection := m.editor.map (·.selection)

/-- Queue an effect unless it is queued already (`Model::push_effect` in `app::model`,
    lines 68–72). -/
def pushEffect (m : Model) (e : Effect) : Model :=
  if m.effects.contains e then m else { m with effects := m.effects ++ [e] }

/-- Take the queued effects, leaving the queue empty (`Model::take_effects` in `app::model`,
    lines 63–65). -/
def takeEffects (m : Model) : List Effect × Model := (m.effects, { m with effects := [] })

@[simp] theorem editor_pushEffect (m : Model) (e : Effect) : (m.pushEffect e).editor = m.editor := by
  unfold pushEffect; split <;> rfl

@[simp] theorem settings_pushEffect (m : Model) (e : Effect) :
    (m.pushEffect e).settings = m.settings := by
  unfold pushEffect; split <;> rfl

@[simp] theorem mode_pushEffect (m : Model) (e : Effect) : (m.pushEffect e).mode = m.mode := by
  unfold pushEffect; split <;> rfl

@[simp] theorem code_pushEffect (m : Model) (e : Effect) : (m.pushEffect e).code = m.code := by
  simp [code]

theorem mem_pushEffect (m : Model) (e : Effect) : e ∈ (m.pushEffect e).effects := by
  unfold pushEffect
  split
  · simpa using ‹m.effects.contains e = true›
  · simp

/-- Queueing an effect keeps the queue, or adds the effect at its end when it is not queued
    yet. -/
theorem effects_pushEffect (m : Model) (e : Effect) :
    (m.pushEffect e).effects = m.effects ∨
      e ∉ m.effects ∧ (m.pushEffect e).effects = m.effects ++ [e] := by
  unfold pushEffect
  split
  · exact .inl rfl
  · exact .inr ⟨by simpa using ‹¬m.effects.contains e = true›, rfl⟩

theorem pushEffect_nodup (m : Model) (e : Effect) (h : m.effects.Nodup) :
    (m.pushEffect e).effects.Nodup := by
  unfold pushEffect
  split
  · exact h
  · rename_i hc
    simp only [List.contains_iff_mem] at hc
    refine List.nodup_append.2 ⟨h, by simp, ?_⟩
    intro a ha b hb hab
    simp only [List.mem_singleton] at hb
    exact hc (hb ▸ hab ▸ ha)

end Model

/-- A message to the editor (`Message` in `app::update`, lines 9–52). -/
inductive Message where
  | mount (code : String)
  | insert (text : String) (closing : Option String)
  | transform (t : BlockTransform)
  | setCode (code : String)
  | select (s : Selection)
  | deleteBack
  | deleteForward
  | moveLeft
  | moveRight
  | setInputMode (mode : InputMode)
  | toggleSetting (key : SettingKey)
  | setSetting (key : SettingKey) (value : Bool)
  | setKeyBind (action : KeyAction) (bind : Option KeyBind)
  | loadSettings (settings : Settings)
  | resetSettings
  | outputs (os : List Output)
  | clearOutputs
  | setInputFile (file : Option InputFile)
  | run
  | save
  | saved
  | openFile
  | openInput
  deriving Inhabited

/-- The message a key action sends (`From<KeyAction> for Message` in `app::update`, lines 54–67). -/
def Message.ofAction : KeyAction → Message
  | .glyphMod => .setInputMode .pending
  | .run => .run
  | .save => .save
  | .openFile => .openFile
  | .openInput => .openInput
  | .commentLine => .transform .toggleComment
  | .foldOutputs => .toggleSetting .outputShow
  | .foldGlyphs => .toggleSetting .glyphsShow

namespace Model

/-- Change the buffer, when there is one; the change says whether it did something, and then the
    code has changed (`edit` in `app::update`, lines 169–177). -/
def edit (m : Model) (change : Buffer String → Bool × Buffer String) : Model :=
  match m.editor with
  | none => m
  | some b =>
    let (changed, b) := change b
    let m := { m with editor := some b }
    if changed then m.pushEffect .codeChanged else m

/-- Move the selection of the buffer, when there is one. -/
def moveIn (m : Model) (f : Buffer String → Buffer String) : Model :=
  { m with editor := m.editor.map f }

/-- The settings changed (`settings_changed` in `app::update`, lines 179–181). -/
def settingsChanged (m : Model) : Model := m.pushEffect .settingsChanged

/-- Apply a message (`update` in `app::update`, lines 73–165). -/
def update (m : Model) : Message → Model
  | .mount code => { m with editor := some (Buffer.ofText code) }
  | .insert text closing => m.edit fun b =>
    let (e, b) := b.insert text closing
    (!e.isNoop, b)
  | .transform t => m.edit fun b =>
    let (e, b) := b.transform t
    (!e.isNoop, b)
  | .setCode code => m.edit fun b => (true, b.replaceAll code)
  | .select s => m.moveIn (·.setSelection s)
  | .deleteBack => m.edit Buffer.deleteBack
  | .deleteForward => m.edit Buffer.deleteForward
  | .moveLeft => m.moveIn Buffer.moveLeft
  | .moveRight => m.moveIn Buffer.moveRight
  | .setInputMode mode => { m with mode }
  | .toggleSetting k => { m with settings := k.toggle m.settings }.settingsChanged
  | .setSetting k v =>
    if k.get m.settings = v then m else { m with settings := k.set m.settings v }.settingsChanged
  | .setKeyBind a b => { m with settings := m.settings.setKeyBind a b }.settingsChanged
  | .loadSettings s => { m with settings := s }
  | .resetSettings => { m with settings := {} }.settingsChanged
  | .outputs os => { m with outputs := m.outputs.append os }
  | .clearOutputs => { m with outputs := m.outputs.clear }
  | .setInputFile f => { m with inputFile := f }
  | .run =>
    let m := if m.settings.output.persist then m else { m with outputs := m.outputs.clear }
    m.pushEffect .run
  | .save => m.pushEffect .save
  | .saved => m.moveIn Buffer.markClean
  | .openFile => m.pushEffect .openFile
  | .openInput => m.pushEffect .openInput

/-- Run the code with an evaluator and log its outputs (`run_code` in `app`, lines 20–26). Without a
    buffer nothing runs. -/
def runCode (eval : Evaluator) (m : Model) : Model :=
  match m.code with
  | none => m
  | some code => m.update (.outputs (Eval.run eval Value.display code m.inputFile))

theorem update_unmounted_edit (m : Model) (h : m.editor = none) (text : String)
    (closing : Option String) : m.update (.insert text closing) = m := by
  simp [update, edit, h]

end Model

end BqnEdit.App

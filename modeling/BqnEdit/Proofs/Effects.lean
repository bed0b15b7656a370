import BqnEdit.App.Model
import BqnEdit.Proofs.Splice

/-!
# What the editor's messages announce

The shell around the editor learns of changes only through the effect queue. Every
message that changes the code, mounting apart, goes through a buffer change that reports
whether the text changed: typing and block transforms report their edit unless it does
nothing, replacing the code always reports, and the deletions report when they find
something to delete. A report queues "code changed", and the buffer that made the change
is marked changed. Every message that changes the settings, loading apart, queues
"settings changed". A message queues at most one effect, and never one already queued,
so the queue never holds an effect twice however the shell sends messages and takes the
queue.

Main results:

* `Model.update_code_changed`: a changed code is announced, and the buffer marked changed.
* `Model.update_code_of_editsCode_false`: messages that do not edit keep the code.
* `Model.update_settings_changed`: changed settings are announced.
* `Model.update_effects_cases`: a message queues at most one effect, new to the queue.
* `Model.update_announces_changes`: all of it, for every model and message.
-/

namespace BqnEdit.App

open BqnEdit.Editor

/-- The messages that edit the code: mounting, typing, block transforms, replacing the code
    and the two deletions. -/
def Message.editsCode : Message → Bool
  | .mount _ | .insert _ _ | .transform _ | .setCode _ | .deleteBack | .deleteForward => true
  | _ => false

/-! ## Buffer changes that report -/

/-- A change of the buffer reports every change of the text it makes: whenever the text it
    leaves differs, it says so and the buffer is marked changed. -/
def ReportsChange (change : Buffer String → Bool × Buffer String) : Prop :=
  ∀ b, (change b).2.text ≠ b.text → (change b).1 = true ∧ (change b).2.dirty = true

theorem isNoop_of_text_apply_ne {b : Buffer String} {e : Edit} (h : (b.apply e).text ≠ b.text) :
    e.isNoop = false ∧ (b.apply e).dirty = true := by
  cases hn : e.isNoop with
  | true => exact absurd (by rw [Buffer.text_apply, Edit.apply_of_isNoop hn]) h
  | false => exact ⟨rfl, Buffer.dirty_apply b hn⟩

theorem reportsChange_edit (f : Buffer String → Edit) :
    ReportsChange fun b => (!(f b).isNoop, b.apply (f b)) := by
  intro b h
  obtain ⟨hn, hd⟩ := isNoop_of_text_apply_ne h
  simp [hn, hd]

/-- Making an edit when one is found and reporting it, as the deletions do. -/
theorem reportsChange_found (f : Buffer String → Option Edit) :
    ReportsChange fun b => match f b with
      | some e => (true, b.apply e)
      | none => (false, b) := by
  intro b h
  dsimp only at h ⊢
  cases hf : f b with
  | some e =>
    rw [hf] at h
    exact ⟨rfl, (isNoop_of_text_apply_ne h).2⟩
  | none =>
    rw [hf] at h
    exact absurd rfl h

theorem reportsChange_replaceAll (s : String) : ReportsChange fun b => (true, b.replaceAll s) :=
  fun _ _ => ⟨rfl, rfl⟩

namespace Model

/-! ## The code -/

theorem edit_of_editor_none {m : Model} (h : m.editor = none)
    (change : Buffer String → Bool × Buffer String) : m.edit change = m := by
  simp [edit, h]

theorem edit_of_editor_some {m : Model} {b : Buffer String} (h : m.editor = some b)
    (change : Buffer String → Bool × Buffer String) :
    m.edit change = if (change b).1 then { m with editor := some (change b).2 }.pushEffect .codeChanged
      else { m with editor := some (change b).2 } := by
  simp [edit, h]

@[simp] theorem settings_edit (m : Model) (change : Buffer String → Bool × Buffer String) :
    (m.edit change).settings = m.settings := by
  cases h : m.editor with
  | none => rw [edit_of_editor_none h]
  | some b => rw [edit_of_editor_some h]; split <;> simp

/-- A change that reports what it does announces a changed code and leaves the buffer
    marked changed. -/
theorem edit_code_changed {m : Model} {change : Buffer String → Bool × Buffer String}
    (hr : ReportsChange change) (h : (m.edit change).code ≠ m.code) :
    Effect.codeChanged ∈ (m.edit change).effects ∧
      ∃ b, (m.edit change).editor = some b ∧ b.dirty = true := by
  cases hm : m.editor with
  | none => exact absurd (by rw [edit_of_editor_none hm]) h
  | some b =>
    rw [edit_of_editor_some hm] at h ⊢
    -- the text differs, so the change reported itself
    have htext : (change b).2.text ≠ b.text := fun heq => h (by split <;> simp [code, hm, heq])
    obtain ⟨hflag, hdirty⟩ := hr b htext
    simp only [hflag, if_true, editor_pushEffect]
    exact ⟨mem_pushEffect _ _, _, rfl, hdirty⟩

theorem code_moveIn (m : Model) {f : Buffer String → Buffer String} (hf : ∀ b, (f b).text = b.text) :
    (m.moveIn f).code = m.code := by
  cases h : m.editor <;> simp [moveIn, code, h, hf]

/-- Selecting, moving, the input mode, the settings, the outputs and the actions keep the
    code. -/
theorem update_code_of_editsCode_false (m : Model) (msg : Message) (h : msg.editsCode = false) :
    (m.update msg).code = m.code := by
  cases msg with
  | mount _ | insert _ _ | transform _ | setCode _ | deleteBack | deleteForward =>
    simp [Message.editsCode] at h
  | select s => exact code_moveIn m fun _ => rfl
  | moveLeft => exact code_moveIn m fun _ => rfl
  | moveRight => exact code_moveIn m fun _ => rfl
  | saved => exact code_moveIn m fun _ => rfl
  | setSetting k v => simp only [update]; split <;> simp [settingsChanged, code]
  | run => simp only [update]; split <;> simp [code]
  | _ => simp [update, settingsChanged, code]

/-- A message other than mounting that changes the code announces it, and leaves the
    buffer marked changed. -/
theorem update_code_changed (m : Model) (msg : Message) (hmount : ∀ c, msg ≠ .mount c)
    (h : (m.update msg).code ≠ m.code) :
    Effect.codeChanged ∈ (m.update msg).effects ∧
      ∃ b, (m.update msg).editor = some b ∧ b.dirty = true := by
  cases msg with
  | mount c => exact absurd rfl (hmount c)
  | insert text closing =>
    exact edit_code_changed (reportsChange_edit fun b => Editor.insert b.text b.selection text closing) h
  | transform t => exact edit_code_changed (reportsChange_edit fun b => t.apply b.text b.selection) h
  | setCode c => exact edit_code_changed (reportsChange_replaceAll c) h
  | deleteBack => exact edit_code_changed (reportsChange_found Buffer.backDeletion) h
  | deleteForward => exact edit_code_changed (reportsChange_found Buffer.forwardDeletion) h
  | _ => exact absurd (update_code_of_editsCode_false m _ rfl) h

/-! ## The settings -/

/-- A message other than loading settings that changes the settings announces it. -/
theorem update_settings_changed (m : Model) (msg : Message) (hload : ∀ s, msg ≠ .loadSettings s)
    (h : (m.update msg).settings ≠ m.settings) :
    Effect.settingsChanged ∈ (m.update msg).effects := by
  cases msg with
  | toggleSetting k => exact mem_pushEffect _ _
  | setSetting k v =>
    simp only [update] at h ⊢
    split
    · exact absurd (by simp_all) h
    · exact mem_pushEffect _ _
  | setKeyBind a b => exact mem_pushEffect _ _
  | resetSettings => exact mem_pushEffect _ _
  | loadSettings s => exact absurd rfl (hload s)
  | run => simp only [update] at h; split at h <;> simp at h
  | _ => simp [update, moveIn] at h

/-! ## The effect queue -/

theorem edit_effects_cases (m : Model) (change : Buffer String → Bool × Buffer String) :
    (m.edit change).effects = m.effects ∨
      Effect.codeChanged ∉ m.effects ∧ (m.edit change).effects = m.effects ++ [.codeChanged] := by
  cases h : m.editor with
  | none => rw [edit_of_editor_none h]; exact .inl rfl
  | some b =>
    rw [edit_of_editor_some h]
    split
    · exact effects_pushEffect _ _
    · exact .inl rfl

/-- A message queues at most one effect, and only one not queued yet. -/
theorem update_effects_cases (m : Model) (msg : Message) :
    (m.update msg).effects = m.effects ∨
      ∃ e, e ∉ m.effects ∧ (m.update msg).effects = m.effects ++ [e] := by
  -- every message either leaves the queue or pushes one effect onto it
  have hpush : ∀ (m' : Model) (e : Effect), m'.effects = m.effects →
      (m'.pushEffect e).effects = m.effects ∨
        ∃ e', e' ∉ m.effects ∧ (m'.pushEffect e).effects = m.effects ++ [e'] := by
    intro m' e hm'
    rcases effects_pushEffect m' e with h | ⟨hn, h⟩
    · exact .inl (h.trans hm')
    · exact .inr ⟨e, hm' ▸ hn, hm' ▸ h⟩
  have hedit : ∀ change, (m.edit change).effects = m.effects ∨
      ∃ e, e ∉ m.effects ∧ (m.edit change).effects = m.effects ++ [e] := fun change =>
    (edit_effects_cases m change).imp_right fun h => ⟨_, h⟩
  cases msg with
  | insert _ _ | transform _ | setCode _ | deleteBack | deleteForward =>
    simp only [update]; exact hedit _
  | toggleSetting _ | setKeyBind _ _ | resetSettings | save | openFile | openInput =>
    simp only [update, settingsChanged]; exact hpush _ _ rfl
  | setSetting k v =>
    simp only [update]
    split
    · exact .inl rfl
    · exact hpush _ _ rfl
  | run => simp only [update]; split <;> exact hpush _ _ rfl
  | _ => exact .inl rfl

theorem update_effects_nodup (m : Model) (msg : Message) (h : m.effects.Nodup) :
    (m.update msg).effects.Nodup := by
  rcases update_effects_cases m msg with he | ⟨e, hn, he⟩
  · rw [he]; exact h
  · rw [he]
    simpa [List.nodup_append, h] using fun a ha (hae : a = e) => hn (hae ▸ ha)

end Model

/-- What the shell around the editor does with it: send a message, or take the queued
    effects. -/
inductive ShellCall where
  | send (msg : Message)
  | takeEffects

/-- The model after a call of the shell. -/
def ShellCall.run (m : Model) : ShellCall → Model
  | .send msg => m.update msg
  | .takeEffects => m.takeEffects.2

/-- However the shell sends messages and takes the queue, the queue never holds an effect
    twice. -/
theorem ShellCall.effects_nodup_foldl (cs : List ShellCall) {m : Model} (h : m.effects.Nodup) :
    (cs.foldl ShellCall.run m).effects.Nodup := by
  induction cs generalizing m with
  | nil => exact h
  | cons c cs ih =>
    apply ih
    cases c with
    | send msg => exact Model.update_effects_nodup m msg h
    | takeEffects => exact List.nodup_nil

namespace Model

/-- Every message other than mounting that changes the code queues "code changed" and
    leaves the buffer marked changed; the messages that do not edit keep the code; every
    message other than loading settings that changes them queues "settings changed"; and
    the queue never holds an effect twice over any run of messages and takings. -/
theorem update_announces_changes (m : Model) (msg : Message) (cs : List ShellCall) :
    ((∀ c, msg ≠ .mount c) → (m.update msg).code ≠ m.code →
        Effect.codeChanged ∈ (m.update msg).effects ∧
          ∃ b, (m.update msg).editor = some b ∧ b.dirty = true) ∧
      (msg.editsCode = false → (m.update msg).code = m.code) ∧
      ((∀ s, msg ≠ .loadSettings s) → (m.update msg).settings ≠ m.settings →
        Effect.settingsChanged ∈ (m.update msg).effects) ∧
      (m.effects.Nodup → (cs.foldl ShellCall.run m).effects.Nodup) :=
  ⟨update_code_changed m msg, update_code_of_editsCode_false m msg,
    update_settings_changed m msg, ShellCall.effects_nodup_foldl cs⟩

/-- Typing into a new editor announces the change and marks the buffer changed, and a run
    of typing, deleting, taking the queue and running never queues an effect twice. -/
theorem update_announces_changes_typing :
    let m := Model.new "ab" {}
    let cs := [ShellCall.send (.insert "x" none), .send .deleteBack, .takeEffects, .send .run]
    Effect.codeChanged ∈ (m.update (.insert "x" none)).effects ∧
      (m.update (.insert "x" none)).editor.map (·.dirty) = some true ∧
      (cs.foldl ShellCall.run m).effects.Nodup := by
  intro m cs
  obtain ⟨hcode, -, -, hnodup⟩ := update_announces_changes m (.insert "x" none) cs
  obtain ⟨hmem, b, hb, hdirty⟩ := hcode (fun c => by simp) (by decide)
  exact ⟨hmem, by simp [hb, hdirty], hnodup List.nodup_nil⟩

end Model

end BqnEdit.App

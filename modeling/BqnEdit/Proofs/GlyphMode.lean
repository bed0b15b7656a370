import BqnEdit.App.Keys
import BqnEdit.Proofs.Effects

/-!
# The glyph mod key's state machine

A press moves the input mode only through the messages it sends, and only the message
that sets the mode changes it. From the normal mode a press starts the wait for a glyph
key exactly when it is the mod key's binding. A toggling wait ends exactly on that press.
A momentary wait ends on a press of a key that is not a modifier key, the mod key's own
press included, since a momentary mod key pressed while waiting is passed on like any
other key; but a press that another action's binding takes is dispatched to that action
before the wait is looked at, and leaves the wait on.

Main results:

* `Model.update_mode`: a message changes the mode only when it sets it.
* `pressKey_mode_eq`: the mode after a press is the one its dispatched messages leave.
* `pressKey_glyphMod`: the state machine, for every model and press.
* `pressKey_bound_press_keeps_wait`: a momentary wait survives a press of Shift+Enter.
-/

namespace BqnEdit.App

open BqnEdit.Editor BqnEdit.Input BqnEdit.Settings

/-- The input mode a message sets, if it sets one. -/
def Message.modeSet : Message → Option InputMode
  | .setInputMode mode => some mode
  | _ => none

/-! ## Messages and the mode -/

namespace Model

@[simp] theorem mode_edit (m : Model) (change : Buffer String → Bool × Buffer String) :
    (m.edit change).mode = m.mode := by
  cases h : m.editor with
  | none => rw [edit_of_editor_none h]
  | some b => rw [edit_of_editor_some h]; split <;> simp

theorem update_mode (m : Model) (msg : Message) : (m.update msg).mode = msg.modeSet.getD m.mode := by
  cases msg with
  | setSetting k v => simp only [update]; split <;> simp [settingsChanged, Message.modeSet]
  | run => simp only [update]; split <;> simp [Message.modeSet]
  | _ => simp [update, settingsChanged, moveIn, Message.modeSet]

theorem mode_foldl_update {msgs : List Message} (h : ∀ msg ∈ msgs, msg.modeSet = none) (m : Model) :
    (msgs.foldl update m).mode = m.mode := by
  induction msgs generalizing m with
  | nil => rfl
  | cons msg msgs ih =>
    rw [List.foldl_cons, ih (fun x hx => h x (List.mem_cons_of_mem _ hx)), update_mode,
      h msg List.mem_cons_self, Option.getD_none]

end Model

/-! ## Dispatching a press -/

/-- Tab and the opening brackets send their messages after the ones already sent, and
    none of them sets the mode. -/
theorem mode_dispatchEdit (m m' : Model) (p : KeyPress) (sent : List Message) :
    ((dispatchUnbound.dispatchEdit m p sent).messages.foldl Model.update m').mode =
      (sent.foldl Model.update m').mode := by
  unfold dispatchUnbound.dispatchEdit
  repeat' split
  all_goals simp [List.foldl_append, Model.update_mode, Message.modeSet]

/-- A press that no binding takes moves the mode as `InputMode.onKey` says. -/
theorem mode_dispatchUnbound (m : Model) (p : KeyPress) :
    ((dispatchUnbound m p).messages.foldl Model.update m).mode =
      (m.mode.onKey p.key m.settings.modKeyBehavior).1 := by
  unfold dispatchUnbound
  cases hm : m.mode with
  | normal => simp [mode_dispatchEdit, hm, InputMode.onKey]
  | pending =>
    -- the mode message is sent only when the wait ends; a glyph is typed after it
    simp only
    split
    · simp only [List.foldl_append]
      rw [Model.mode_foldl_update (by simp [Message.modeSet])]
      split <;> simp_all [Model.update_mode, Message.modeSet]
    · rw [mode_dispatchEdit]
      split <;> simp_all [Model.update_mode, Message.modeSet]

/-- The mode that a press's dispatched messages leave: the mod key's binding moves it as
    `InputMode.onModKey` says, or as `InputMode.onKey` says when a momentary mod key is
    pressed while waiting; another action's binding keeps it; and an unbound press moves
    it as `InputMode.onKey` says. -/
theorem mode_handleKey (m : Model) (p : KeyPress) :
    ((handleKey m p).messages.foldl Model.update m).mode =
      match m.settings.actionFor p with
      | some .glyphMod =>
        if (m.mode.onModKey m.settings.modKeyBehavior).2 then
          (m.mode.onModKey m.settings.modKeyBehavior).1
        else (m.mode.onKey p.key m.settings.modKeyBehavior).1
      | some _ => m.mode
      | none => (m.mode.onKey p.key m.settings.modKeyBehavior).1 := by
  unfold handleKey
  cases ha : m.settings.actionFor p with
  | none => exact mode_dispatchUnbound m p
  | some a =>
    cases a
    case glyphMod =>
      simp only
      split
      · simp [Model.update_mode, Message.modeSet, *]
      · simp [mode_dispatchUnbound, *]
    all_goals simp [Model.update_mode, Message.ofAction, Message.modeSet]

theorem modeSet_defaultAction {p : KeyPress} {msg : Message} (h : defaultAction p = some msg) :
    msg.modeSet = none := by
  unfold defaultAction at h
  split at h
  · cases h
  · -- every default edits or moves; none sets the mode
    cases hk : p.key <;> simp only [hk, reduceCtorEq, Option.some.injEq] at h <;> (subst h; rfl)

/-- The mode after a press is the one its dispatched messages leave. -/
theorem pressKey_mode_eq (m : Model) (p : KeyPress) :
    (pressKey m p).mode = ((handleKey m p).messages.foldl Model.update m).mode := by
  unfold pressKey
  simp only
  split
  · rfl
  · split
    · rw [Model.update_mode, modeSet_defaultAction ‹_›, Option.getD_none]
    · rfl

/-! ## The state machine -/

/-- The mod key is the first action, so a press goes to it exactly when its binding
    accepts the press. -/
theorem actionFor_eq_glyphMod_iff (s : Settings) (p : KeyPress) :
    s.actionFor p = some .glyphMod ↔ ∃ b, s.keyBind .glyphMod = some b ∧ b.accepts p = true := by
  -- the later actions are found only among themselves
  have hlater : ∀ f, KeyAction.all.tail.find? f ≠ some .glyphMod := fun f h => by
    have := List.mem_of_find?_eq_some h
    simp [KeyAction.all] at this
  unfold Settings.actionFor
  rw [show KeyAction.all = .glyphMod :: KeyAction.all.tail from rfl, List.find?_cons]
  cases hb : s.keyBind .glyphMod with
  | none => simp [hlater]
  | some b => cases hacc : b.accepts p <;> simp [hacc, hlater]

/-- The glyph mod key's state machine, as a press moves it. From the normal mode a press
    starts the wait exactly when it matches the mod key's binding. A toggling wait ends
    exactly on such a press and is otherwise kept. A momentary wait ends exactly on a press
    of a key that is not a modifier key and that no other action's binding takes. -/
theorem pressKey_glyphMod (m : Model) (p : KeyPress) :
    let modPress := ∃ b, m.settings.keyBind .glyphMod = some b ∧ b.accepts p = true
    (m.mode = .normal → ((pressKey m p).mode = .pending ↔ modPress)) ∧
      (m.mode = .pending → m.settings.modKeyBehavior = .toggle →
        ((pressKey m p).mode = .normal ↔ modPress)) ∧
      (m.mode = .pending → m.settings.modKeyBehavior = .momentary →
        ((pressKey m p).mode = .normal ↔
          p.key.isModifier = false ∧ ∀ a, m.settings.actionFor p = some a → a = .glyphMod)) := by
  intro modPress
  have hmod : modPress ↔ m.settings.actionFor p = some .glyphMod :=
    (actionFor_eq_glyphMod_iff m.settings p).symm
  rw [hmod, pressKey_mode_eq, mode_handleKey]
  refine ⟨fun hm => ?_, fun hm hb => ?_, fun hm hb => ?_⟩
  · -- only the mod key starts the wait
    rw [hm]
    cases m.settings.actionFor p with
    | none => simp [InputMode.onKey]
    | some a => cases a <;> simp [InputMode.onModKey]
  · -- only the mod key ends a toggling wait
    rw [hm, hb]
    cases m.settings.actionFor p with
    | none => simp [InputMode.onKey]
    | some a => cases a <;> simp [InputMode.onModKey]
  · -- the mod key's own press falls through to `onKey`; another action's press does not
    rw [hm, hb]
    cases m.settings.actionFor p with
    | none => simp [InputMode.onKey]
    | some a => cases a <;> simp [InputMode.onKey, InputMode.onModKey]

/-- In a new editor the backslash, the mod key's default binding, starts the wait. -/
theorem pressKey_glyphMod_backslash :
    (pressKey (Model.new "" {}) (.plain (.char '\\'))).mode = .pending :=
  ((pressKey_glyphMod (Model.new "" {}) (.plain (.char '\\'))).1 rfl).2 ⟨_, rfl, by decide⟩

/-- After the mod key, Shift+Enter (bound to running the code) keeps a momentary wait on,
    though Enter is no modifier key. -/
theorem pressKey_bound_press_keeps_wait :
    let m := pressKey (Model.new "" {}) (.plain (.char '\\'))
    let p : KeyPress := ⟨.enter, { shiftKey := true }⟩
    m.mode = .pending ∧ m.settings.modKeyBehavior = .momentary ∧ p.key.isModifier = false ∧
      (pressKey m p).mode = .pending := by
  decide

end BqnEdit.App

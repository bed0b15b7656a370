import BqnEdit.Proofs.GlyphMode
import BqnEdit.Proofs.Insert
import BqnEdit.Proofs.Comment

/-!
# Typing with keys

With the default key bindings a press reaches typing by two roads. The mod key, the
backslash, starts the wait for a glyph key; in a momentary wait the next press of a key
that types a glyph, with or without Shift, ends the wait and types the glyph with its
closing text. A plain press of any other character types that character, and over a
non-empty selection also the closing text of the pair it opens, if it opens one. Either
way the press types over the buffer's selection exactly as `insert` says, and the new
selection is that edit's own: it already lies within the new text.

Main results:

* `Model.update_insert`: what a typing message does to a mounted editor.
* `Settings.actionFor_char_of_defaultBinds`: the default bindings take a character only as
  the mod key.
* `pressKey_modKey`, `pressKey_glyphKey`, `pressKey_char`: the mod key, a glyph key while
  waiting, and a character.
* `pressKey_types`: both roads, for every buffer and selection.
-/

namespace BqnEdit.Settings

open BqnEdit.Input

/-- With the default bindings a character is taken only as the mod key, the plain
    backslash: the bindings held with Ctrl need Ctrl, and the others are no characters. -/
theorem actionFor_char_of_defaultBinds {s : Settings} (hs : ∀ a, s.keyBind a = a.defaultBind) (c : Char)
    (mods : Modifiers) (hctrl : mods.ctrlKey = false) :
    s.actionFor ⟨.char c, mods⟩ = if c = '\\' ∧ mods = {} then some .glyphMod else none := by
  obtain ⟨ctrl, alt, shift, held⟩ := mods
  subst hctrl
  simp only [actionFor, hs, KeyAction.all, KeyAction.defaultBind, KeyPress.accepts, KeyPress.plain]
  by_cases hc : c = '\\'
  · -- the backslash: only the mod key's binding can take it, and only with no modifier
    subst hc
    by_cases hm : alt = false ∧ shift = false ∧ held = false <;> simp_all
  · have hc' : '\\' ≠ c := Ne.symm hc
    simp [hc, hc']

end BqnEdit.Settings

namespace BqnEdit.App

open BqnEdit.Editor BqnEdit.Input BqnEdit.Settings

/-! ## Typing into the buffer -/

namespace Model

/-- A typing message types over the buffer's selection, leaves the edit's selection, which
    lies within the new text, and keeps the mode. -/
theorem update_insert {m : Model} {b : Buffer String} (h : m.editor = some b) (literal : String)
    (closing : Option String) :
    let e := insert b.text b.selection literal closing
    (m.update (.insert literal closing)).code = some (e.apply b.text) ∧
      (m.update (.insert literal closing)).selection = some e.selection ∧
      (m.update (.insert literal closing)).mode = m.mode := by
  intro e
  have hwithin := insert_selection_within b.text b.selection literal closing
  -- the buffer's new selection is the edit's, clamped to a text it already lies within
  have hsel : (b.apply e).selection = e.selection := by
    rw [Buffer.selection_apply, Selection.clamp_of_le hwithin.1 hwithin.2]
  have hed : (m.update (.insert literal closing)).editor = some (b.apply e) := by
    simp only [update, edit_of_editor_some h]
    split <;> simp [Buffer.insert, e]
  refine ⟨?_, ?_, update_mode m _⟩
  · simp [code, hed, Buffer.text_apply]
  · simp [selection, hed, hsel]

end Model

/-! ## Presses -/

/-- In the normal mode the mod key's press starts the wait and changes nothing else. -/
theorem pressKey_modKey {m : Model} {p : KeyPress} (hmode : m.mode = .normal)
    (hp : m.settings.actionFor p = some .glyphMod) : pressKey m p = { m with mode := .pending } := by
  simp [pressKey, handleKey, hp, hmode, InputMode.onModKey, Model.update]

/-- In a momentary wait a press of a key that types a glyph, taken by no binding or by the
    mod key's own, ends the wait and types the glyph with its closing text. -/
theorem pressKey_glyphKey {m : Model} {p : KeyPress} {c : Char} {g : Glyph.Entry}
    (hmode : m.mode = .pending) (hmom : m.settings.modKeyBehavior = .momentary)
    (hact : m.settings.actionFor p = none ∨ m.settings.actionFor p = some .glyphMod)
    (hk : p.key = .char c) (hg : Glyph.byKey c = some g) :
    pressKey m p = ({ m with mode := .normal } : Model).update (.insert g.literal g.paren) := by
  have hdispatch : dispatchUnbound m p = ⟨[.setInputMode .normal, .insert g.literal g.paren], true⟩ := by
    simp [dispatchUnbound, hmode, InputMode.onKey, hmom, hk, Key.toChar?, Key.isModifier, hg]
  -- a momentary mod key pressed while waiting is passed on like any other key
  have hhandle : handleKey m p = ⟨[.setInputMode .normal, .insert g.literal g.paren], true⟩ := by
    rcases hact with hnone | hmod
    · simp [handleKey, hnone, hdispatch]
    · simp [handleKey, hmod, hmode, hmom, InputMode.onModKey, hdispatch]
  simp only [pressKey, hhandle, List.foldl_cons, List.foldl_nil, if_true]
  rfl

/-- In the normal mode a plain press of a character that no binding takes types the
    character, and over a non-empty selection the closing text of the pair it opens. -/
theorem pressKey_char {m : Model} {b : Buffer String} {c : Char} {mods : Modifiers}
    (hed : m.editor = some b) (hmode : m.mode = .normal)
    (hact : m.settings.actionFor ⟨.char c, mods⟩ = none) (hplain : isPlain ⟨.char c, mods⟩ = true) :
    pressKey m ⟨.char c, mods⟩ =
      m.update (.insert (String.singleton c)
        (if b.selection.isEmpty then none else (Glyph.byChar c).bind (·.paren))) := by
  have hsel : m.selection = some b.selection := by simp [Model.selection, hed]
  have hdefault : defaultAction ⟨.char c, mods⟩ = some (.insert (String.singleton c) none) := by
    simp [defaultAction, hplain]
  -- the editor takes the press only to wrap a selection; otherwise the default types it
  cases hempty : b.selection.isEmpty with
  | true =>
    simp [pressKey, handleKey, hact, dispatchUnbound, dispatchUnbound.dispatchEdit, hmode, hsel,
      hempty, hdefault]
  | false =>
    cases hclose : (Glyph.byChar c).bind (·.paren) with
    | none =>
      simp [pressKey, handleKey, hact, dispatchUnbound, dispatchUnbound.dispatchEdit, hmode, hsel,
        hempty, hplain, hclose, hdefault]
    | some closing =>
      simp [pressKey, handleKey, hact, dispatchUnbound, dispatchUnbound.dispatchEdit, hmode, hsel,
        hempty, hplain, hclose]

/-- Typing with the default bindings, over any buffer and selection. In a momentary wait,
    the mod key and then a key that types a glyph, with or without Shift, type the glyph
    with its closing text as `insert` does, leave that edit's selection and end the wait. A
    plain press of any other character types it as `insert` does, with the closing text of
    the pair it opens when the selection is not empty, and keeps the normal mode. -/
theorem pressKey_types (m : Model) (b : Buffer String) (hed : m.editor = some b)
    (hmode : m.mode = .normal) (hbinds : ∀ a, m.settings.keyBind a = a.defaultBind) :
    (∀ (c : Char) (g : Glyph.Entry) (shift : Bool), m.settings.modKeyBehavior = .momentary →
      Glyph.byKey c = some g →
      let e := insert b.text b.selection g.literal g.paren
      let m2 := pressKey (pressKey m (.plain (.char '\\'))) ⟨.char c, { shiftKey := shift }⟩
      m2.code = some (e.apply b.text) ∧ m2.selection = some e.selection ∧ m2.mode = .normal) ∧
    (∀ (c : Char) (mods : Modifiers), c ≠ '\\' → isPlain ⟨.char c, mods⟩ = true →
      let e := insert b.text b.selection (String.singleton c)
        (if b.selection.isEmpty then none else (Glyph.byChar c).bind (·.paren))
      let m1 := pressKey m ⟨.char c, mods⟩
      m1.code = some (e.apply b.text) ∧ m1.selection = some e.selection ∧ m1.mode = .normal) := by
  refine ⟨fun c g shift hmom hg => ?_, fun c mods hc hplain => ?_⟩
  · -- the mod key starts the wait, and the glyph key is taken by no binding but the mod key's
    have hmodKey : pressKey m (.plain (.char '\\')) = { m with mode := .pending } :=
      pressKey_modKey hmode (by
        show m.settings.actionFor ⟨.char '\\', {}⟩ = _
        rw [actionFor_char_of_defaultBinds hbinds _ _ rfl]
        simp)
    have hact := actionFor_char_of_defaultBinds hbinds c { shiftKey := shift } rfl
    have hglyph := pressKey_glyphKey (m := { m with mode := .pending })
      (p := ⟨.char c, { shiftKey := shift }⟩) rfl hmom
      (by split at hact <;> simp [hact]) rfl hg
    obtain ⟨hcode, hsel, hmode'⟩ := Model.update_insert (m := { m with mode := .normal }) hed g.literal g.paren
    rw [← hglyph, ← hmodKey] at hcode hsel hmode'
    exact ⟨hcode, hsel, hmode'⟩
  · have hctrl : mods.ctrlKey = false := by
      simp only [isPlain, Bool.and_eq_true, Bool.not_eq_true'] at hplain
      exact hplain.1.1
    have hact := actionFor_char_of_defaultBinds hbinds c mods hctrl
    rw [if_neg fun h => hc h.1] at hact
    obtain ⟨hcode, hsel, hmode'⟩ := Model.update_insert hed (String.singleton c)
      (if b.selection.isEmpty then none else (Glyph.byChar c).bind (·.paren))
    rw [← pressKey_char hed hmode hact hplain] at hcode hsel hmode'
    exact ⟨hcode, hsel, hmode'.trans hmode⟩

/-- Over `abc` selected backwards, the mod key and then Shift with `(` wrap the selection in
    the list brackets, and Shift with `(` alone wraps it in parentheses; either way the
    wrapped text is selected. -/
theorem pressKey_types_brackets :
    let b : Buffer String := ⟨"x←abc", ⟨2, 5, .backward⟩, false⟩
    let m : Model := { editor := some b }
    let typed := pressKey (pressKey m (.plain (.char '\\'))) ⟨.char '(', { shiftKey := true }⟩
    let wrapped := pressKey m ⟨.char '(', { shiftKey := true }⟩
    (m.editor = some b ∧ m.mode = .normal ∧ (∀ a, m.settings.keyBind a = a.defaultBind) ∧
      m.settings.modKeyBehavior = .momentary ∧ (Glyph.byKey '(').isSome = true ∧ '(' ≠ '\\' ∧
      isPlain ⟨.char '(', { shiftKey := true }⟩ = true) ∧
    typed.code = some "x←⟨abc⟩" ∧ typed.selection = some ⟨2, 7, .backward⟩ ∧ typed.mode = .normal ∧
      wrapped.code = some "x←(abc)" ∧ wrapped.selection = some ⟨2, 7, .backward⟩ := by
  intro b m typed wrapped
  have hg : Glyph.byKey '(' =
      some ⟨"⟨", some '(', some "⟩", some "Start List", some "arrayrepr", .bracket⟩ := by
    decide
  obtain ⟨hglyph, hchar⟩ := pressKey_types m b rfl rfl fun _ => rfl
  obtain ⟨hcode, hsel, hmode⟩ := hglyph '(' _ true rfl hg
  obtain ⟨hcode', hsel', -⟩ := hchar '(' { shiftKey := true } (by decide) rfl
  refine ⟨⟨rfl, rfl, fun _ => rfl, rfl, by rw [hg]; rfl, by decide, rfl⟩, hcode.trans ?_,
    hsel.trans ?_, hmode, hcode'.trans ?_, hsel'.trans ?_⟩
  all_goals decide

end BqnEdit.App

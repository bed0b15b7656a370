import BqnEdit.App.Model
import BqnEdit.Proofs.SettingsFile

/-!
# Key bindings over a history of changes

The settings keep a binding for an action only while it differs from the action's default.
Binding an action to its default drops the entry, and unbinding it (binding it to no key)
keeps an entry with no binding, since for every action but one the default is a key. The
settings are changed one binding at a time, or reset to the defaults as a whole, directly
or through the editor's messages.

Whatever the history, the binding in effect for an action is the one last set for it since
the last reset, or its default; and the kept entries are in normal form: in action order,
none equal to its action's default. So the written `keyBinds` hold exactly the actions whose
binding differs from the default, each with the binding in effect.

Main results:

* `keyBind_setKeyBind`: binding an action changes its binding and no other.
* `OverridesNormal.overrides_eq`: kept entries in normal form are exactly the changed
  bindings, in action order.
* `keyBind_replay`: after a history, the binding in effect is the last one set since the
  last reset, or the default.
* `keyBinds_history`: the editor, started with the default settings and given the messages
  of a history, holds the settings of the history, with the binding last set for each action,
  entries in normal form, and the changed bindings as its written `keyBinds`.
-/

namespace BqnEdit.Settings

open BqnEdit.Input BqnEdit.Json

/-! ## Binding one action -/

theorem mem_all (a : KeyAction) : a ∈ KeyAction.all := by
  cases a <;> decide

/-- In entries chosen key by key over distinct keys, a key's entry is the one chosen for it. -/
theorem lookup_filterMap_keys {κ ν : Type} [DecidableEq κ] (g : κ → Option ν)
    {keys : List κ} (hkeys : keys.Nodup) {b : κ} (hb : b ∈ keys) :
    (keys.filterMap fun a => (g a).map (a, ·)).lookup b = g b := by
  induction keys with
  | nil => cases hb
  | cons a keys ih =>
    rw [List.nodup_cons] at hkeys
    rw [List.filterMap_cons]
    by_cases hba : b = a
    · -- the first key is `b`, and its entry, if any, comes first
      subst hba
      cases g b with
      | none =>
        rw [Option.map_none, lookup_eq_none_of_not_mem]
        intro hm
        obtain ⟨e, he, hfst⟩ := List.mem_map.mp hm
        have := (sublist_filterMap_keys g keys).subset (List.mem_map_of_mem he)
        exact hkeys.1 (hfst ▸ this)
      | some v => simp
    · have hb' : b ∈ keys := (List.mem_cons.mp hb).resolve_left hba
      cases g a with
      | none => exact ih hkeys.2 hb'
      | some v =>
        rw [Option.map_some, List.lookup_cons, beq_false_of_ne hba]
        exact ih hkeys.2 hb'

theorem mem_of_lookup_eq_some {κ ν : Type} [DecidableEq κ] {es : List (κ × ν)} {a : κ}
    {x : ν} (h : es.lookup a = some x) : (a, x) ∈ es := by
  obtain ⟨l₁, l₂, rfl, -⟩ := List.lookup_eq_some_iff.mp h
  simp

theorem lookup_putOverride (os : List (KeyAction × Option KeyBind)) (a b : KeyAction)
    (v : Option (Option KeyBind)) :
    (putOverride os a v).lookup b = if b = a then v else os.lookup b := by
  have h :=
    lookup_filterMap_keys (fun c => if c = a then v else os.lookup c) nodup_actions (mem_all b)
  unfold putOverride
  simpa only [apply_ite (Option.map _)] using h

/-- Binding an action changes the binding in effect for it, and for no other action. -/
@[simp] theorem keyBind_setKeyBind (s : Settings) (a c : KeyAction) (b : Option KeyBind) :
    (s.setKeyBind a b).keyBind c = if c = a then b else s.keyBind c := by
  unfold keyBind setKeyBind
  rw [lookup_putOverride]
  by_cases hc : c = a
  · -- binding the default drops the entry, and the default is in effect again
    subst hc
    by_cases hb : b = c.defaultBind <;> simp [hb]
  · simp [hc]

@[simp] theorem keyBind_default (a : KeyAction) : ({} : Settings).keyBind a = a.defaultBind :=
  rfl

/-! ## Entries in normal form -/

/-- None of the kept entries binds its action to its default. (They are in action order, one
    at most per action, in every settings value.) -/
structure OverridesNormal (s : Settings) : Prop where
  changed : ∀ e ∈ s.overrides, e.2 ≠ e.1.defaultBind

/-- The actions whose binding differs from the default, in action order, each with the
    binding in effect. -/
def changedBinds (s : Settings) : List (KeyAction × Option KeyBind) :=
  (KeyAction.all.filter fun a => s.keyBind a ≠ a.defaultBind).map fun a => (a, s.keyBind a)

theorem overridesNormal_default : OverridesNormal {} :=
  ⟨fun _ h => nomatch h⟩

theorem OverridesNormal.setKeyBind {s : Settings} (hs : OverridesNormal s) (a : KeyAction)
    (b : Option KeyBind) : OverridesNormal (s.setKeyBind a b) := by
  refine ⟨fun e he => ?_⟩
  -- every entry is the one chosen for its action: the new binding, or the entry kept
  obtain ⟨c, -, hc⟩ := List.mem_filterMap.mp he
  by_cases hca : c = a
  · subst hca
    by_cases hb : b = c.defaultBind
    · simp [hb] at hc
    · simp only [if_true, hb, if_false, Option.map_some, Option.some.injEq] at hc
      exact hc ▸ hb
  · rw [if_neg hca] at hc
    obtain ⟨x, hx, rfl⟩ := Option.map_eq_some_iff.mp hc
    exact hs.changed (c, x) (mem_of_lookup_eq_some hx)

/-- A kept entry is there exactly for an action whose binding differs from its default. -/
theorem OverridesNormal.lookup_eq {s : Settings} (hs : OverridesNormal s) (a : KeyAction) :
    s.overrides.lookup a = if s.keyBind a ≠ a.defaultBind then some (s.keyBind a) else none := by
  cases hl : s.overrides.lookup a with
  | none => simp [keyBind, hl]
  | some x =>
    have hx : x ≠ a.defaultBind := hs.changed (a, x) (mem_of_lookup_eq_some hl)
    simp [keyBind, hl, hx]

/-- Kept entries in normal form are exactly the changed bindings, in action order. -/
theorem OverridesNormal.overrides_eq {s : Settings} (hs : OverridesNormal s) :
    s.overrides = changedBinds s := by
  calc s.overrides
      = KeyAction.all.filterMap (fun a => (s.overrides.lookup a).map (a, ·)) :=
        (filterMap_lookup_of_sublist nodup_actions s.ordered).symm
    _ = KeyAction.all.filterMap
          (fun a => if s.keyBind a ≠ a.defaultBind then some (a, s.keyBind a) else none) := by
        refine List.filterMap_congr fun a _ => ?_
        rw [hs.lookup_eq a]
        split <;> rfl
    _ = changedBinds s := by
        rw [changedBinds, ← List.filterMap_eq_map', List.filterMap_filter]
        simp

/-! ## Histories of changes -/

/-- A change of the bindings: one action bound, or unbound with no key, or all settings reset
    to their defaults. -/
inductive BindChange where
  | bind (a : KeyAction) (b : Option KeyBind)
  | reset

namespace BindChange

/-- Make the change on settings. -/
def apply (s : Settings) : BindChange → Settings
  | bind a b => s.setKeyBind a b
  | reset => {}

/-- The editor's message that makes the change. -/
def message : BindChange → App.Message
  | bind a b => .setKeyBind a b
  | reset => .resetSettings

/-- Track the binding last set for an action over one change; a reset forgets it. -/
def lastFor (a : KeyAction) (last : Option (Option KeyBind)) :
    BindChange → Option (Option KeyBind)
  | bind c b => if a = c then some b else last
  | reset => none

end BindChange

/-- The binding last set for an action since the last reset, if any. -/
def lastBind (cs : List BindChange) (a : KeyAction) : Option (Option KeyBind) :=
  cs.foldl (BindChange.lastFor a) none

/-- The settings a history of changes leaves, from the defaults. -/
def replay (cs : List BindChange) : Settings :=
  cs.foldl BindChange.apply {}

theorem replay_snoc (cs : List BindChange) (c : BindChange) :
    replay (cs ++ [c]) = BindChange.apply (replay cs) c := by
  rw [replay, List.foldl_append]
  rfl

theorem lastBind_snoc (cs : List BindChange) (c : BindChange) (a : KeyAction) :
    lastBind (cs ++ [c]) a = BindChange.lastFor a (lastBind cs a) c := by
  rw [lastBind, List.foldl_append]
  rfl

/-- After a history, the binding in effect for an action is the one last set for it since
    the last reset, or its default. -/
theorem keyBind_replay (cs : List BindChange) (a : KeyAction) :
    (replay cs).keyBind a = (lastBind cs a).getD a.defaultBind := by
  induction cs using List.reverseRecOn with
  | nil => rfl
  | append_singleton cs c ih =>
    rw [replay_snoc, lastBind_snoc]
    cases c with
    | bind c b =>
      by_cases hac : a = c
      · simp [BindChange.apply, BindChange.lastFor, hac]
      · simp [BindChange.apply, BindChange.lastFor, hac, ih]
    | reset => rfl

theorem overridesNormal_replay (cs : List BindChange) : OverridesNormal (replay cs) := by
  induction cs using List.reverseRecOn with
  | nil => exact overridesNormal_default
  | append_singleton cs c ih =>
    rw [replay_snoc]
    cases c with
    | bind a b => exact ih.setKeyBind a b
    | reset => exact overridesNormal_default

end BqnEdit.Settings

namespace BqnEdit.App.Model

open BqnEdit.Settings

theorem settings_update_message (m : Model) (c : BindChange) :
    (m.update c.message).settings = c.apply m.settings := by
  cases c <;> simp [BindChange.message, BindChange.apply, update, settingsChanged]

/-- The editor's messages for a history make the history's changes on its settings. -/
theorem settings_foldl_update (m : Model) (cs : List BindChange) :
    ((cs.map BindChange.message).foldl update m).settings =
      cs.foldl BindChange.apply m.settings := by
  induction cs generalizing m with
  | nil => rfl
  | cons c cs ih =>
    rw [List.map_cons, List.foldl_cons, ih, settings_update_message, List.foldl_cons]

/-- From the default settings, the messages of a history leave the settings the history's
    changes make directly: each action has the binding last set for it since the last reset,
    or its default; no entry binds an action to its default; and the written settings hold
    exactly the changed bindings. -/
theorem keyBinds_history (m : Model) (hm : m.settings = {}) (cs : List BindChange) :
    let s := ((cs.map BindChange.message).foldl update m).settings
    s = replay cs ∧
      (∀ a, s.keyBind a = (lastBind cs a).getD a.defaultBind) ∧
      (∀ e ∈ s.overrides, e.2 ≠ e.1.defaultBind) ∧
      s.toJson = .obj (("glyphs", glyphsJson s.glyphs) :: ("output", outputJson s.output) ::
        ("editor", editorJson s.editor) :: overridesJson (changedBinds s)) := by
  intro s
  have hs : s = replay cs := (settings_foldl_update m cs).trans (by rw [hm]; rfl)
  have hn : OverridesNormal s := hs ▸ overridesNormal_replay cs
  refine ⟨hs, fun a => hs ▸ keyBind_replay cs a, hn.changed, ?_⟩
  rw [toJson_eq, hn.overrides_eq]

/-- Bindings set before a reset are forgotten, and an action whose default is no key keeps
    the key bound to it after the reset. -/
theorem keyBinds_history_unbind_fold :
    let cs : List BindChange := [.bind .run (some (.plain (.function 5))),
      .bind .openFile none, .reset, .bind .foldGlyphs (some (.plain (.function 2)))]
    ({} : Model).settings = {} ∧
      ((cs.map BindChange.message).foldl update {}).settings.keyBind .foldGlyphs =
        some (.plain (.function 2)) := by
  intro cs
  refine ⟨rfl, ?_⟩
  rw [(keyBinds_history {} rfl cs).2.1 .foldGlyphs]
  rfl

end BqnEdit.App.Model

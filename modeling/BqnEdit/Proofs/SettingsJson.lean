import Mathlib.Data.List.Basic
import BqnEdit.Settings.Json
import BqnEdit.Proofs.KeyNames
import BqnEdit.Proofs.ReadingObjects

/-!
# Reading back written settings

Settings are written as an object of the three groups of switches and, when any binding is
overridden, of the overrides by action name. Each part has its own reader, so reading
written settings is followed part by part: a switch reads as itself, a group as itself, a
binding as itself when its key reads back from its name, and the overrides as themselves
once put back in action order.

One condition decides whether written settings read back: every bound key must read back
from its name (`keysNamed`). The overrides are in action order, one at most per action, in
every settings value (`Settings.ordered`), and that is how the reader puts them back. A function
key is written `F` and its number for every number, but read back only from `F1` to `F24`:
settings that bind `F25` are written, and reading the text fails.

Main results:

* `normalizeOverrides_of_inActionOrder`: overrides in action order are put back as they are.
* `readsValue_readKeyBind`, `failsValue_readKeyBind`: a written binding reads back when its
  key has a name, and fails otherwise.
* `readsValue_readSettings`, `failsValue_readSettings`: written settings read back when
  every key they bind has a name, and fail otherwise.
* `parse_text_iff`: settings written by any lawful formatter and followed by blanks read
  back exactly when every key they bind has a name.
-/

namespace BqnEdit.Settings

open BqnEdit.Input BqnEdit.Json Reader

variable {σ : Type}

/-! ## Overrides in action order -/

/-- Whether every key the overrides bind reads back from its name. -/
def keysNamed (os : List (KeyAction × Option KeyBind)) : Bool :=
  os.all fun e => e.2.all (·.key.hasName)

theorem nodup_actions : KeyAction.all.Nodup := by decide

theorem InActionOrder.nodup {os : List (KeyAction × Option KeyBind)} (h : InActionOrder os) :
    (os.map Prod.fst).Nodup :=
  nodup_actions.sublist h

theorem lookup_eq_none_of_not_mem {κ ν : Type} [DecidableEq κ] {es : List (κ × ν)} {a : κ}
    (h : a ∉ es.map Prod.fst) : es.lookup a = none := by
  rw [List.lookup_eq_none_iff]
  intro p hp
  rw [bne_iff_ne]
  rintro rfl
  exact h (List.mem_map_of_mem hp)

/-- With distinct keys, the last entry for a key is the only one. -/
theorem lookup_reverse {κ ν : Type} [DecidableEq κ] {es : List (κ × ν)} (h : (es.map Prod.fst).Nodup)
    (a : κ) : es.reverse.lookup a = es.lookup a := by
  induction es with
  | nil => rfl
  | cons e es ih =>
    obtain ⟨k, v⟩ := e
    rw [List.map_cons, List.nodup_cons] at h
    have hk : k ∉ es.map Prod.fst := h.1
    rw [List.reverse_cons, List.lookup_append, ih h.2, List.lookup_cons, List.lookup_cons]
    by_cases ha : a = k
    · -- no later entry has the key
      have hnone : es.lookup a = none := lookup_eq_none_of_not_mem (by rwa [ha])
      rw [hnone, ha, beq_self_eq_true]
      rfl
    · have hne : (a == k) = false := by simpa using ha
      rw [hne]
      exact Option.or_none

/-- Looking up each key of a list in entries whose keys come in the order of the list gives
    the entries back. -/
theorem filterMap_lookup_of_sublist {κ ν : Type} [DecidableEq κ] {keys : List κ}
    (hkeys : keys.Nodup) {es : List (κ × ν)} (h : (es.map Prod.fst).Sublist keys) :
    keys.filterMap (fun a => (es.lookup a).map (a, ·)) = es := by
  induction keys generalizing es with
  | nil =>
    rw [List.sublist_nil, List.map_eq_nil_iff] at h
    rw [h]
    rfl
  | cons a keys ih =>
    rw [List.nodup_cons] at hkeys
    cases es with
    | nil => simp
    | cons e es =>
      rw [List.map_cons, List.sublist_cons_iff] at h
      rcases h with h | ⟨r, hr, h⟩
      · -- the first key has no entry
        have hnone : (e :: es).lookup a = none :=
          lookup_eq_none_of_not_mem fun hm => hkeys.1 (h.subset (by rwa [List.map_cons] at hm))
        rw [List.filterMap_cons, hnone, Option.map_none]
        exact ih hkeys.2 (by rw [List.map_cons]; exact h)
      · -- the first entry is the first key's, and no later key looks it up
        obtain ⟨he, rfl⟩ := List.cons.inj hr
        have hrest : keys.filterMap (fun b => ((e :: es).lookup b).map (b, ·)) =
            keys.filterMap (fun b => (es.lookup b).map (b, ·)) := by
          refine List.filterMap_congr fun b hb => ?_
          have hne : (b == e.1) = false := by
            rw [beq_eq_false_iff_ne, he]
            rintro rfl
            exact hkeys.1 hb
          rw [List.lookup_cons, hne]
        rw [List.filterMap_cons, ← he, List.lookup_cons_self, Option.map_some, hrest, ih hkeys.2 h]

/-- Overrides in action order are put back in action order as they are. -/
theorem normalizeOverrides_of_inActionOrder {os : List (KeyAction × Option KeyBind)}
    (h : InActionOrder os) : normalizeOverrides os = os := by
  unfold normalizeOverrides
  simp only [lookup_reverse h.nodup]
  exact filterMap_lookup_of_sublist nodup_actions h

/-! ## Keys and bindings -/

variable {sf : Float → String} {fmt : Formatter} {l : Nat}

theorem readsValue_readKey {k : Key} (hk : k.hasName = true) : ReadsValue readKey sf fmt l (keyJson k) k := by
  unfold readKey
  refine (readsValue_readString k.display).bind fun cs => ?_
  rw [Key.parse_display, if_pos hk]
  exact Reads.pure _ _

theorem failsValue_readKey {k : Key} (hk : k.hasName = false) : FailsValue readKey sf fmt l (keyJson k) := by
  unfold readKey
  refine (readsValue_readString k.display).bind_fails fun cs => ?_
  rw [Key.parse_display, if_neg (by simp [hk])]
  exact fails_failUnplaced _ _

theorem readsMembers_bool {fields : List (FieldSpec σ)} {name : String} {put : σ → Bool → σ}
    (hf : fields.find? (·.name == name) = some (boolField name put)) (b : Bool)
    {kvs : List (String × Json)} {acc acc' : σ} (h : ReadsMembers fields sf fmt l kvs (put acc b) acc') :
    ReadsMembers fields sf fmt l ((name, .bool b) :: kvs) acc acc' :=
  .cons _ hf ((readsValue_readBool b).map (put acc)) h

theorem readsMembers_flag {fields : List (FieldSpec σ)} {name : String} {put : σ → Bool → σ}
    (hf : fields.find? (·.name == name) = some (boolField name put)) (c : Bool) (acc : σ) :
    ReadsMembers fields sf fmt l (if c then [(name, .bool true)] else [])
      acc (if c then put acc true else acc) := by
  cases c with
  | false => exact .nil acc
  | true => exact readsMembers_bool hf true (.nil _)

theorem sublist_flag (c : Bool) (name : String) (j : Json) :
    ((if c then [(name, j)] else []).map Prod.fst).Sublist [name] := by
  cases c with
  | false => exact List.nil_sublist _
  | true => exact List.Sublist.refl _

theorem bindJson_eq (b : KeyBind) :
    bindJson b = .obj (("key", keyJson b.key) ::
      ((if b.mods.ctrlKey then [("ctrl", Json.bool true)] else []) ++
        ((if b.mods.altKey then [("alt", Json.bool true)] else []) ++
          ((if b.mods.shiftKey then [("shift", Json.bool true)] else []) ++
            (if b.mods.metaKey then [("meta", Json.bool true)] else []))))) := by
  simp only [bindJson, List.append_assoc, List.cons_append, List.nil_append]

/-- The modifiers of a written binding, each written only when held, read as the modifiers
    onto a binding with none held. -/
theorem readsMembers_mods {fields : List (FieldSpec KeyBind)}
    (hctrl : fields.find? (·.name == "ctrl") = some (boolField "ctrl" fun b v => { b with mods.ctrlKey := v }))
    (halt : fields.find? (·.name == "alt") = some (boolField "alt" fun b v => { b with mods.altKey := v }))
    (hshift : fields.find? (·.name == "shift") = some (boolField "shift" fun b v => { b with mods.shiftKey := v }))
    (hmeta : fields.find? (·.name == "meta") = some (boolField "meta" fun b v => { b with mods.metaKey := v }))
    (key : Key) (mods : Modifiers) :
    ReadsMembers fields sf fmt l
      ((if mods.ctrlKey then [("ctrl", Json.bool true)] else []) ++
        ((if mods.altKey then [("alt", Json.bool true)] else []) ++
          ((if mods.shiftKey then [("shift", Json.bool true)] else []) ++
            (if mods.metaKey then [("meta", Json.bool true)] else []))))
      ⟨key, {}⟩ ⟨key, mods⟩ := by
  have h : ReadsMembers fields sf fmt l _ ⟨key, {}⟩ _ :=
    (readsMembers_flag hctrl mods.ctrlKey ⟨key, {}⟩).append ((readsMembers_flag halt mods.altKey _).append
      ((readsMembers_flag hshift mods.shiftKey _).append (readsMembers_flag hmeta mods.metaKey _)))
  -- each modifier sets its own field, so whatever is held the four build the modifiers
  obtain ⟨c, a, s, m⟩ := mods
  cases c <;> cases a <;> cases s <;> cases m <;> exact h

/-- A written binding whose key has a name reads back as the binding. -/
theorem readsValue_readKeyBind (hfmt : fmt.Lawful) {b : KeyBind} (hk : b.key.hasName = true) :
    ReadsValue readKeyBind sf fmt l (bindJson b) b := by
  rw [bindJson_eq]
  unfold readKeyBind
  refine reads_readRecordOf hfmt _ (.cons _ rfl ((readsValue_readKey hk).map _)
    (readsMembers_mods rfl rfl rfl rfl b.key b.mods)) ?_ ?_
  · -- the keys are some of those of the fields, in their order
    have hsub : ((("key", keyJson b.key) ::
        ((if b.mods.ctrlKey then [("ctrl", Json.bool true)] else []) ++
          ((if b.mods.altKey then [("alt", Json.bool true)] else []) ++
            ((if b.mods.shiftKey then [("shift", Json.bool true)] else []) ++
              (if b.mods.metaKey then [("meta", Json.bool true)] else []))))).map Prod.fst).Sublist
          ["key", "ctrl", "alt", "shift", "meta"] := by
      simp only [List.map_cons, List.map_append]
      exact ((sublist_flag _ _ _).append ((sublist_flag _ _ _).append
        ((sublist_flag _ _ _).append (sublist_flag _ _ _)))).cons_cons _
    exact (show ["key", "ctrl", "alt", "shift", "meta"].Nodup by decide).sublist hsub
  · -- only the key is required, and it is written first
    intro f hf hreq
    simp only [List.mem_cons, List.not_mem_nil, or_false] at hf
    rcases hf with rfl | rfl | rfl | rfl | rfl
    · exact List.mem_cons_self
    all_goals exact absurd hreq (by decide)

theorem failsValue_readKeyBind (hfmt : fmt.Lawful) {b : KeyBind} (hk : b.key.hasName = false) :
    FailsValue readKeyBind sf fmt l (bindJson b) := by
  rw [bindJson_eq]
  unfold readKeyBind
  exact fails_readRecordOf hfmt _ (.nil _) rfl ((failsValue_readKey hk).map _) (by decide) _

/-! ## Groups of switches -/

theorem forall_required_of_none {fields : List (FieldSpec σ)} (h : fields.all (!·.required) = true)
    (keys : List String) : ∀ f ∈ fields, f.required = true → f.name ∈ keys := by
  intro f hf hreq
  have := List.all_eq_true.mp h f hf
  rw [hreq] at this
  exact absurd this (by decide)

/-- The glyph bar group as written. -/
def glyphsJson (g : GlyphSettings) : Json :=
  .obj [("show", .bool g.shown), ("modToggle", .bool g.modToggle),
    ("modHighlight", .bool g.modHighlight), ("modHints", .bool g.modHints),
    ("showExtra", .bool g.showExtra)]

/-- The output group as written. -/
def outputJson (o : OutputSettings) : Json :=
  .obj [("show", .bool o.shown), ("persist", .bool o.persist), ("wrap", .bool o.wrap),
    ("multimedia", .bool o.multimedia)]

/-- The editor group as written. -/
def editorJson (e : EditorSettings) : Json := .obj [("lineNumbers", .bool e.lineNumbers)]

theorem readsValue_readGlyphSettings (hfmt : fmt.Lawful) (g : GlyphSettings) :
    ReadsValue readGlyphSettings sf fmt l (glyphsJson g) g := by
  unfold readGlyphSettings
  refine reads_readRecordOf hfmt _ (readsMembers_bool rfl _ (readsMembers_bool rfl _ (readsMembers_bool rfl _
    (readsMembers_bool rfl _ (readsMembers_bool rfl _ (.nil _)))))) ?_ (forall_required_of_none (by decide) _)
  simp only [List.map_cons, List.map_nil]
  decide

theorem readsValue_readOutputSettings (hfmt : fmt.Lawful) (o : OutputSettings) :
    ReadsValue readOutputSettings sf fmt l (outputJson o) o := by
  unfold readOutputSettings
  refine reads_readRecordOf hfmt _ (readsMembers_bool rfl _ (readsMembers_bool rfl _ (readsMembers_bool rfl _
    (readsMembers_bool rfl _ (.nil _))))) ?_ (forall_required_of_none (by decide) _)
  simp only [List.map_cons, List.map_nil]
  decide

theorem readsValue_readEditorSettings (hfmt : fmt.Lawful) (e : EditorSettings) :
    ReadsValue readEditorSettings sf fmt l (editorJson e) e := by
  unfold readEditorSettings
  exact reads_readRecordOf hfmt _ (readsMembers_bool rfl _ (.nil _))
    (by simp only [List.map_cons, List.map_nil]; decide) (forall_required_of_none (by decide) _)

/-! ## Settings -/

/-- The value written for an override: the binding, or `null` for no binding. -/
def overrideJson : Option KeyBind → Json
  | some b => bindJson b
  | none => .null

/-- The overrides as written: a map by action name, left out when there are none. -/
def overridesJson (os : List (KeyAction × Option KeyBind)) : List (String × Json) :=
  if os.isEmpty then [] else [("keyBinds", .obj (os.map fun e => (e.1.name, overrideJson e.2)))]

theorem toJson_eq (s : Settings) :
    s.toJson = .obj (("glyphs", glyphsJson s.glyphs) :: ("output", outputJson s.output) ::
      ("editor", editorJson s.editor) :: overridesJson s.overrides) := rfl

theorem lookup_actionKeys (a : KeyAction) : actionKeys.lookup a.name = some a := by
  cases a <;> rfl

/-- An override whose key has a name, or no binding, reads back. -/
theorem readsValue_override (hfmt : fmt.Lawful) {b : Option KeyBind}
    (hk : b.all (·.key.hasName) = true) :
    ReadsValue (readOption readKeyBind) sf fmt l (overrideJson b) b := by
  cases b with
  | none => exact readsValue_readOption_null _
  | some b =>
    have h : ReadsValue readKeyBind sf fmt l (bindJson b) b := readsValue_readKeyBind hfmt hk
    rw [bindJson_eq] at h
    rw [overrideJson, bindJson_eq]
    exact h.option_obj

theorem failsValue_override (hfmt : fmt.Lawful) {b : KeyBind} (hk : b.key.hasName = false) :
    FailsValue (readOption readKeyBind) sf fmt l (overrideJson (some b)) := by
  have h : FailsValue readKeyBind sf fmt l (bindJson b) := failsValue_readKeyBind hfmt hk
  rw [bindJson_eq] at h
  rw [overrideJson, bindJson_eq]
  exact h.option_obj

/-- The members of written settings have distinct keys. -/
theorem nodup_settingsKeys (g o e : Json) (os : List (KeyAction × Option KeyBind)) :
    ((("glyphs", g) :: ("output", o) :: ("editor", e) :: overridesJson os).map Prod.fst).Nodup := by
  have hbinds : ((overridesJson os).map Prod.fst).Sublist ["keyBinds"] := by
    unfold overridesJson
    split
    · exact List.nil_sublist _
    · exact List.Sublist.refl _
  exact (show ["glyphs", "output", "editor", "keyBinds"].Nodup by decide).sublist
    (((hbinds.cons_cons _).cons_cons _).cons_cons _)

/-- Written settings that bind only keys with names read back as the settings. -/
theorem readsValue_readSettings (hfmt : fmt.Lawful) {s : Settings}
    (hk : keysNamed s.overrides = true) :
    ReadsValue readSettings sf fmt l s.toJson s := by
  obtain ⟨g, o, e, os, hs⟩ := s
  rw [toJson_eq]
  unfold readSettings
  refine reads_readRecordOf hfmt _ (.cons _ rfl ((readsValue_readGlyphSettings hfmt g).map _)
    (.cons _ rfl ((readsValue_readOutputSettings hfmt o).map _)
      (.cons _ rfl ((readsValue_readEditorSettings hfmt e).map _) ?_)))
    (nodup_settingsKeys _ _ _ os) (forall_required_of_none (by decide) _)
  -- the overrides, written only when there are some
  cases os with
  | nil => exact .nil _
  | cons x xs =>
    have hmap : ReadsValue (readMap actionKeys (readOption readKeyBind)) sf fmt (l + 1)
        (.obj ((x :: xs).map fun e => (e.1.name, overrideJson e.2))) (x :: xs) :=
      reads_readMap hfmt KeyAction.name overrideJson (fun e' _ => lookup_actionKeys e'.1)
        (fun e' he' => readsValue_override hfmt (List.all_eq_true.mp hk e' he')) hs.nodup
    have hfield := hmap.map fun es =>
      ({ glyphs := g, output := o, editor := e, overrides := normalizeOverrides es
         ordered := inActionOrder_normalizeOverrides es } : Settings)
    simp only [normalizeOverrides_of_inActionOrder hs] at hfield
    exact .cons _ rfl hfield (.nil _)

/-- Overrides that bind a key without a name have a first such override. -/
theorem exists_first_unnamed {os : List (KeyAction × Option KeyBind)} (h : keysNamed os = false) :
    ∃ pre a b post, os = pre ++ (a, some b) :: post ∧ keysNamed pre = true ∧ b.key.hasName = false := by
  induction os with
  | nil => exact absurd h (by decide)
  | cons x os ih =>
    obtain ⟨a, ob⟩ := x
    cases hx : ob.all (·.key.hasName) with
    | false =>
      -- this override is the first
      cases ob with
      | none => exact absurd hx (by decide)
      | some b => exact ⟨[], a, b, os, rfl, rfl, hx⟩
    | true =>
      have hrest : keysNamed os = false := by
        simpa only [keysNamed, List.all_cons, hx, Bool.true_and] using h
      obtain ⟨pre, a', b, post, rfl, hpre, hb⟩ := ih hrest
      refine ⟨(a, ob) :: pre, a', b, post, rfl, ?_, hb⟩
      simpa only [keysNamed, List.all_cons, hx, Bool.true_and] using hpre

/-- Written settings that bind a key without a name fail to read, at the first such binding. -/
theorem failsValue_readSettings (hfmt : fmt.Lawful) {s : Settings}
    (hk : keysNamed s.overrides = false) :
    FailsValue readSettings sf fmt l s.toJson := by
  obtain ⟨g, o, e, os, _⟩ := s
  obtain ⟨pre, a, b, post, rfl, hpre, hb⟩ := exists_first_unnamed hk
  have hbinds : overridesJson (pre ++ (a, some b) :: post) =
      [("keyBinds", .obj (pre.map (fun e => (e.1.name, overrideJson e.2)) ++
        (a.name, overrideJson (some b)) :: post.map fun e => (e.1.name, overrideJson e.2)))] := by
    simp [overridesJson]
  rw [toJson_eq]
  dsimp only
  rw [hbinds]
  have hmap : FailsValue (readMap actionKeys (readOption readKeyBind)) sf fmt (l + 1)
      (.obj (pre.map (fun e => (e.1.name, overrideJson e.2)) ++
        (a.name, overrideJson (some b)) :: post.map fun e => (e.1.name, overrideJson e.2))) :=
    fails_readMap hfmt KeyAction.name overrideJson (fun e _ => lookup_actionKeys e.1)
      (fun e he => readsValue_override hfmt (List.all_eq_true.mp hpre e he)) (lookup_actionKeys a)
      (failsValue_override hfmt hb) _
  unfold readSettings
  exact fails_readRecordOf hfmt _ (.cons _ rfl ((readsValue_readGlyphSettings hfmt g).map _)
    (.cons _ rfl ((readsValue_readOutputSettings hfmt o).map _)
      (.cons _ rfl ((readsValue_readEditorSettings hfmt e).map _) (.nil _))))
    rfl (hmap.map _) (by simp only [List.map_cons, List.map_nil, List.cons_append, List.nil_append]; decide) []

/-! ## Whole texts -/

/-- Written settings, followed by blanks, read back as the settings when they bind only keys
    with names. -/
theorem parse_of_keysNamed {s : Settings} (hk : keysNamed s.overrides = true) (fmt : Formatter)
    (hfmt : fmt.Lawful) {ws : List Char} (hws : ∀ x ∈ ws, IsBlank x) :
    Settings.parse (String.ofList (fmt.text showFloat 0 s.toJson ++ ws)) = .ok s := by
  have hread : ReadsValue readSettings showFloat fmt 0 s.toJson s := readsValue_readSettings hfmt hk
  have h : Reads readSettings (String.ofList (fmt.text showFloat 0 s.toJson ++ ws)).toList s ws := by
    rw [String.toList_ofList]
    exact hread [] (fun _ h => nomatch h) ws
  unfold Settings.parse
  rw [parseWith_of_reads h hws]
  rfl

/-- Written settings that bind a key without a name do not read back: reading them fails. -/
theorem parse_of_not_keysNamed {s : Settings} (hk : keysNamed s.overrides = false) (fmt : Formatter)
    (hfmt : fmt.Lawful) (ws : List Char) :
    ∃ err, Settings.parse (String.ofList (fmt.text showFloat 0 s.toJson ++ ws)) = .error err := by
  have hfail : FailsValue readSettings showFloat fmt 0 s.toJson := failsValue_readSettings hfmt hk
  have h : Fails readSettings (String.ofList (fmt.text showFloat 0 s.toJson ++ ws)).toList := by
    rw [String.toList_ofList]
    exact hfail [] (fun _ h => nomatch h) ws
  obtain ⟨e, he⟩ := parseWith_of_fails h
  refine ⟨e.render, ?_⟩
  unfold Settings.parse
  rw [he]
  rfl

/-- Written settings, followed by blanks, read back as themselves exactly when they bind
    only keys with names. -/
theorem parse_text_iff {s : Settings} (fmt : Formatter) (hfmt : fmt.Lawful) {ws : List Char}
    (hws : ∀ x ∈ ws, IsBlank x) :
    Settings.parse (String.ofList (fmt.text showFloat 0 s.toJson ++ ws)) = .ok s ↔
      keysNamed s.overrides = true := by
  constructor
  · intro hok
    cases hk : keysNamed s.overrides with
    | true => rfl
    | false =>
      obtain ⟨err, herr⟩ := parse_of_not_keysNamed hk fmt hfmt ws
      rw [herr] at hok
      cases hok
  · intro hk
    exact parse_of_keysNamed hk fmt hfmt hws

theorem toList_compact (s : Settings) : s.compact.toList = Formatter.compact.text showFloat 0 s.toJson := rfl

end BqnEdit.Settings

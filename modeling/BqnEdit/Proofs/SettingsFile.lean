import BqnEdit.Settings.FileStore
import BqnEdit.Input.Terminal
import BqnEdit.Proofs.SettingsJson
import BqnEdit.Proofs.FileText

/-!
# Settings saved to a file and loaded back

Settings are saved as their indented text with a final line feed, and loaded by reading
that text back, where a text that does not read back loads as the default settings with a
warning. A save followed by a load therefore gives the settings back exactly when their
text reads back: when every key they bind has a name. A terminal reports the function keys
by any number, and a binding may hold any of them; settings that bind `F25` are saved, and
the next load falls back to the defaults.

Main results:

* `parse_compact_iff`, `parse_fileText_iff`: the compact text of settings, and the text of
  a settings file, read back exactly when every key the settings bind has a name.
* `FileStore.load_save`: after a save, loading reads the text the save wrote.
* `roundTrip_iff_keysNamed`: settings read back from their text, and load back after a
  save, exactly when every key they bind has a name; otherwise a load after the save gives
  the defaults, with a warning.
-/

namespace BqnEdit.Settings

open BqnEdit.Input BqnEdit.Json BqnEdit.Files

/-! ## The texts of settings -/

theorem toList_fileText (s : Settings) :
    (fileText s).toList = Formatter.pretty.text showFloat 0 s.toJson ++ ['\n'] := by
  rw [fileText, String.toList_append]
  rfl

theorem compact_eq_ofList (s : Settings) :
    s.compact = String.ofList (Formatter.compact.text showFloat 0 s.toJson ++ []) := by
  rw [List.append_nil, ← toList_compact, String.ofList_toList]

/-- The text of a settings file is the indented layout of their JSON, and a line feed. -/
theorem fileText_eq_ofList (s : Settings) :
    fileText s = String.ofList (Formatter.pretty.text showFloat 0 s.toJson ++ ['\n']) := by
  rw [← toList_fileText, String.ofList_toList]

theorem parse_compact_iff (s : Settings) :
    Settings.parse s.compact = .ok s ↔ keysNamed s.overrides = true := by
  rw [compact_eq_ofList]
  exact parse_text_iff .compact Formatter.lawful_compact (fun _ h => nomatch h)

/-- The text of a settings file reads back as the settings exactly when every key they
    bind has a name: the final line feed is a blank. -/
theorem parse_fileText_iff (s : Settings) :
    Settings.parse (fileText s) = .ok s ↔ keysNamed s.overrides = true := by
  rw [fileText_eq_ofList]
  exact parse_text_iff .pretty Formatter.lawful_pretty (by simp [IsBlank])

theorem parse_compact_of_not_keysNamed {s : Settings} (hk : keysNamed s.overrides = false) :
    ∃ err, Settings.parse s.compact = .error err := by
  rw [compact_eq_ofList]
  exact parse_of_not_keysNamed hk .compact Formatter.lawful_compact []

theorem parse_fileText_of_not_keysNamed {s : Settings} (hk : keysNamed s.overrides = false) :
    ∃ err, Settings.parse (fileText s) = .error err := by
  rw [fileText_eq_ofList]
  exact parse_of_not_keysNamed hk .pretty Formatter.lawful_pretty ['\n']

theorem ofFileRead_fileText_of_keysNamed (path : String) {s : Settings}
    (hk : keysNamed s.overrides = true) : ofFileRead path (.ok (fileText s)) = .ok (s, none) := by
  rw [ofFileRead, (parse_fileText_iff s).mpr hk]

/-- The text of settings that bind a key without a name is read as the default settings,
    with the warning that the file is unreadable. -/
theorem ofFileRead_fileText_of_not_keysNamed (path : String) {s : Settings}
    (hk : keysNamed s.overrides = false) :
    ∃ err, ofFileRead path (.ok (fileText s)) = .ok ({}, some (unreadable path err)) := by
  obtain ⟨err, herr⟩ := parse_fileText_of_not_keysNamed hk
  exact ⟨err, by rw [ofFileRead, herr]⟩

/-! ## Loading what was saved -/

/-- A save that succeeds has written the settings' text last, over the disk on which it
    made the directories above the file. -/
theorem writeText_of_saveFile {d d' : Disk} {path : String} {v : Settings}
    (h : (saveFile path v : StateM Disk _).run d = (.ok (), d')) :
    ∃ d₀, (FileSystem.writeText path (fileText v) : StateM Disk _).run d₀ = (.ok (), d') := by
  unfold saveFile at h
  rcases hc : (FileSystem.createParents path : StateM Disk _).run d with ⟨r, d₁⟩
  rw [run_bind_stateM, hc] at h
  cases r with
  | error e => cases h
  | ok u =>
    rcases hw : (FileSystem.writeText path (fileText v) : StateM Disk _).run d₁ with ⟨w, d₂⟩
    dsimp only at h
    rw [run_bind_stateM, hw] at h
    cases w with
    | error e => cases h
    | ok u' =>
      cases h
      exact ⟨d₁, hw⟩

theorem FileStore.load_eq (st : FileStore) :
    st.load = ofFileRead st.path ((FileSystem.readText st.path : StateM Disk _).run st.disk).1 := rfl

/-- After a save, loading reads back the text the save wrote. -/
theorem FileStore.load_save {st st' : FileStore} {v : Settings} (h : st.save v = .ok st') :
    st'.load = ofFileRead st.path (.ok (fileText v)) := by
  unfold FileStore.save at h
  split at h
  · next d hrun =>
    cases h
    obtain ⟨d₀, hw⟩ := writeText_of_saveFile hrun
    rw [FileStore.load_eq]
    dsimp only
    rw [readText_writeText hw]
  · cases h

theorem FileStore.load_save_of_keysNamed {st st' : FileStore} {v : Settings}
    (hk : keysNamed v.overrides = true) (h : st.save v = .ok st') : st'.load = .ok (v, none) := by
  rw [FileStore.load_save h, ofFileRead_fileText_of_keysNamed _ hk]

theorem FileStore.load_save_of_not_keysNamed {st st' : FileStore} {v : Settings}
    (hk : keysNamed v.overrides = false) (h : st.save v = .ok st') :
    ∃ err, st'.load = .ok ({}, some (unreadable st.path err)) := by
  rw [FileStore.load_save h]
  exact ofFileRead_fileText_of_not_keysNamed _ hk

/-! ## Settings read back -/

/-- Settings read back from their compact text exactly when every key they bind has a name.
    After a save they load back as themselves when it has, and otherwise as the defaults,
    with the warning that the file is unreadable. -/
theorem roundTrip_iff_keysNamed (s : Settings) :
    (Settings.parse s.compact = .ok s ↔ keysNamed s.overrides = true) ∧
    ∀ {st st' : FileStore}, st.save s = .ok st' →
      (keysNamed s.overrides = true ∧ st'.load = .ok (s, none)) ∨
      (keysNamed s.overrides = false ∧ ∃ err, st'.load = .ok ({}, some (unreadable st.path err))) := by
  refine ⟨parse_compact_iff s, fun h => ?_⟩
  cases hk : keysNamed s.overrides with
  | true => exact .inl ⟨rfl, FileStore.load_save_of_keysNamed hk h⟩
  | false => exact .inr ⟨rfl, FileStore.load_save_of_not_keysNamed hk h⟩

/-- Glyph mode bound to `F24` reads back. -/
theorem roundTrip_glyphMod_function24 :
    Settings.parse (setKeyBind {} .glyphMod (some (.plain (.function 24)))).compact =
      .ok (setKeyBind {} .glyphMod (some (.plain (.function 24)))) :=
  (roundTrip_iff_keysNamed _).1.mpr (by decide)

/-- Glyph mode bound to `F25`, a key that a terminal reports: the settings do not read back
    from their text, and after a save they load as the defaults, with a warning. -/
theorem roundTrip_fails_function25 :
    (TermKeyEvent.toPress { code := .function 25 }).map (·.key) = some (.function 25) ∧
    (∃ err, Settings.parse (setKeyBind {} .glyphMod (some (.plain (.function 25)))).compact = .error err) ∧
    ∀ {st st' : FileStore}, st.save (setKeyBind {} .glyphMod (some (.plain (.function 25)))) = .ok st' →
      ∃ err, st'.load = .ok ({}, some (unreadable st.path err)) := by
  have hk : keysNamed (setKeyBind {} .glyphMod (some (.plain (.function 25)))).overrides = false := by
    decide
  exact ⟨rfl, parse_compact_of_not_keysNamed hk, fun h => FileStore.load_save_of_not_keysNamed hk h⟩

end BqnEdit.Settings

import BqnEdit.Glyph.Table

/-!
# Looking glyphs up

Glyphs are found by the key that types them, by their text, or by a character.
Each lookup returns the first entry of the table that fits. The glyph bar lists
the glyphs that have a key, and with the extra glyphs shown also the plain ASCII
ones; unused glyphs are never listed.
-/

namespace BqnEdit.Glyph

open BqnEdit.Syntax

/-- The page of the keyboard layout (`KEYMAP_URL` in `glyphs`, line 17). -/
def keymapUrl : String := "https://mlochbaum.github.io/BQN/keymap.html"

namespace Entry

/-- The address of a documentation page (`Glyph::help` in `glyphs`, lines 53–56). -/
def helpUrl (e : Entry) : Option String :=
  e.page.map (fun p => "https://mlochbaum.github.io/BQN/doc/" ++ p ++ ".html")

/-- The tooltip text (`Glyph::hint_text` in `glyphs`, lines 64–70): the hint, and on a line of its
    own the key after a backslash. -/
def hintText (e : Entry) : Option String :=
  e.hint.map fun h =>
    match e.key with
    | some k => h ++ "\n\\" ++ String.singleton k
    | none => h

/-- Whether the glyph bar lists a glyph: unused glyphs never, glyphs without a key
    only with the extra glyphs shown. -/
def visible (e : Entry) (showExtra : Bool) : Bool :=
  e.cls != .unused && (showExtra || e.key.isSome)

end Entry

/-- The glyph typed by a key after the mod key (`by_key` in `glyphs`, lines 81–83). -/
def byKey (k : Char) : Option Entry :=
  table.find? (fun e => e.key == some k)

/-- The glyph with a given text (`by_literal` in `glyphs`, lines 86–88). -/
def byLiteral (s : String) : Option Entry :=
  table.find? (fun e => e.literal == s)

/-- The glyph that is a given character (`by_char` in `glyphs`, lines 91–94). -/
def byChar (c : Char) : Option Entry :=
  byLiteral (String.singleton c)

/-- The glyphs the glyph bar lists, in table order (`visible` in `glyphs`, lines 97–99). -/
def visibleGlyphs (showExtra : Bool) : List Entry :=
  table.filter (·.visible showExtra)

end BqnEdit.Glyph

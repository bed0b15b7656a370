import BqnEdit.Glyph.Basic
import BqnEdit.Settings.Json
import BqnEdit.Syntax.Lexer
import BqnEdit.Text.Quoted

/-!
# Listings of tokens and glyphs

The `tokens` and `glyphs` commands print a list, either as plain lines or as indented
JSON.

A token line is the class name (`-` for a token without one) padded to twelve
columns, a space, and the text of the token between quotes with its special
characters escaped. A token in JSON is an object with its `content` and its `class`,
null when it has none.

A glyph line is the glyph padded to three columns, the key that types it after a
backslash (or nothing) padded to four, the class name padded to ten, a space, and the
hint with its line breaks shown as ` / `. The listing ends with a pointer to the full
keyboard layout. A glyph in JSON is an object with the glyph, its key (null when it
has none), its closing delimiter, hint and documentation page when it has them, and
its class under `type`.

Main results:

* `padRight_length`: padding reaches the width asked for.
-/

namespace BqnEdit.Cli

open BqnEdit.Syntax BqnEdit.Glyph

/-- Pad text with spaces on the right to `width` characters; longer text is kept. -/
def padRight (width : Nat) (s : String) : String := s ++ String.ofList (List.replicate (width - s.length) ' ')

theorem padRight_length (width : Nat) (s : String) : width ≤ (padRight width s).length := by
  simp [padRight, String.length_append]
  omega

/-- The name of a token's class, `-` for a token without one. -/
def className (c : Option TokenClass) : String := (c.map (·.name)).getD "-"

/-- The plain line of a token. -/
def tokenLine (t : Token) : String := padRight 12 (className t.cls) ++ " " ++ Text.quote t.content

/-- A token as JSON. -/
def tokenJson (t : Token) : Json :=
  .obj [("content", .str t.content), ("class", (t.cls.map fun c => Json.str c.name).getD .null)]

/-- Indented JSON text, as the listings print it. -/
def prettyJson (v : Json) : String := Json.prettyWith Settings.showFloat 0 v

/-- The output of `tokens` (`print_tokens` in `main`, lines 187–198). -/
def tokenListing (json : Bool) (ts : List Token) : String :=
  if json then prettyJson (.arr (ts.map tokenJson)) ++ "\n"
  else String.join (ts.map (tokenLine · ++ "\n"))

/-- The columns a glyph takes on a terminal. Every glyph of the table is a single
    character one column wide, so this is its length. -/
def glyphWidth (e : Entry) : Nat := e.literal.length

/-- The plain line of a glyph. -/
def glyphLine (e : Entry) : String :=
  let key := match e.key with
    | some k => "\\" ++ String.singleton k
    | none => "  "
  let hint := (e.hint.getD "").replace "\n" " / "
  e.literal ++ String.ofList (List.replicate (3 - glyphWidth e) ' ') ++ padRight 4 key ++
    padRight 10 e.cls.name ++ " " ++ hint

/-- A glyph as JSON. -/
def glyphJson (e : Entry) : Json :=
  let opt (k : String) : Option String → List (String × Json)
    | some v => [(k, .str v)]
    | none => []
  .obj ([("glyph", .str e.literal), ("key", (e.key.map fun k => Json.str (String.singleton k)).getD .null)] ++
    opt "paren" e.paren ++ opt "hint" e.hint ++ opt "help" e.helpUrl ++ [("type", .str e.cls.name)])

/-- The output of `glyphs` (`print_glyphs` in `main`, lines 200–219). -/
def glyphListing (json : Bool) (es : List Entry) : String :=
  if json then prettyJson (.arr (es.map glyphJson)) ++ "\n"
  else String.join (es.map (glyphLine · ++ "\n")) ++ "\nFull layout: " ++ keymapUrl ++ "\n"

end BqnEdit.Cli

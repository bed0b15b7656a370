import BqnEdit.Syntax.Token
import BqnEdit.Text.Unsigned

/-!
# Colours of the token classes

A style is a foreground and background colour and a set of text modifiers. The
palette gives each token class a style for a dark or a light terminal background;
values, line breaks and unclassed text keep the terminal's default style.

The background is forced by a theme or detected from the `COLORFGBG` convention:
the number after the last `;` is the background colour index, and an index of 7
or more (white and the bright colours) is a light background.
-/

namespace BqnEdit.Syntax

/-- The terminal colours: the sixteen named colours and an index into the 256-colour
    table. -/
inductive Color where
  | black
  | red
  | green
  | yellow
  | blue
  | magenta
  | cyan
  | gray
  | darkGray
  | lightRed
  | lightGreen
  | lightYellow
  | lightBlue
  | lightMagenta
  | lightCyan
  | white
  | indexed (n : Nat)
  deriving DecidableEq, Repr, Inhabited

namespace Color

/-- The name of a colour: the capitalised colour name, or `indexed:N`. -/
def name : Color → String
  | black => "Black"
  | red => "Red"
  | green => "Green"
  | yellow => "Yellow"
  | blue => "Blue"
  | magenta => "Magenta"
  | cyan => "Cyan"
  | gray => "Gray"
  | darkGray => "DarkGray"
  | lightRed => "LightRed"
  | lightGreen => "LightGreen"
  | lightYellow => "LightYellow"
  | lightBlue => "LightBlue"
  | lightMagenta => "LightMagenta"
  | lightCyan => "LightCyan"
  | white => "White"
  | indexed n => "indexed:" ++ toString n

/-- The code of a colour in the 256-colour table (`terminal_color` in `highlight::theme`,
    lines 108–131): the named colours are the first sixteen entries. -/
def code : Color → Nat
  | black => 0
  | red => 1
  | green => 2
  | yellow => 3
  | blue => 4
  | magenta => 5
  | cyan => 6
  | gray => 7
  | darkGray => 8
  | lightRed => 9
  | lightGreen => 10
  | lightYellow => 11
  | lightBlue => 12
  | lightMagenta => 13
  | lightCyan => 14
  | white => 15
  | indexed n => n

end Color

/-- The text modifiers, in the order in which they are listed and emitted. -/
inductive TextModifier where
  | bold
  | dim
  | italic
  | underlined
  | reversed
  deriving DecidableEq, Repr, Inhabited

namespace TextModifier

/-- All modifiers, in their fixed order. -/
def all : List TextModifier := [bold, dim, italic, underlined, reversed]

/-- The lowercase name of a modifier. -/
def name : TextModifier → String
  | bold => "bold"
  | dim => "dim"
  | italic => "italic"
  | underlined => "underlined"
  | reversed => "reversed"

/-- The parameter of the terminal sequence that turns the modifier on. -/
def code : TextModifier → Nat
  | bold => 1
  | dim => 2
  | italic => 3
  | underlined => 4
  | reversed => 7

end TextModifier

/-- A text style. The modifiers are kept as a set through `has`. -/
structure Style where
  fg : Option Color := none
  bg : Option Color := none
  modifiers : List TextModifier := []
  deriving DecidableEq, Repr, Inhabited

namespace Style

/-- The terminal's default style: no colours and no modifiers. -/
def plain : Style := {}

/-- A style with only a foreground colour. -/
def fgOnly (c : Color) : Style := { fg := some c }

/-- The modifiers of a style, in their fixed order and without repeats. -/
def modifierList (s : Style) : List TextModifier :=
  TextModifier.all.filter (fun m => s.modifiers.contains m)

end Style

/-- The two backgrounds the palette distinguishes (`BackgroundMode` in `highlight::theme`,
    lines 13–16). -/
inductive Background where
  | dark
  | light
  deriving DecidableEq, Repr, Inhabited

namespace Background

/-- The background announced by a `COLORFGBG` value (`background_mode_from_colorfgbg` in
    `highlight::theme`, lines 53–67): the text after the last `;` is the background colour index; 7
    and above is light. A missing or unreadable value is dark. -/
def ofColorFgBg : Option String → Background
  | none => dark
  | some v =>
    match Text.parseByte? ((v.splitOn ";").getLast?.getD v) with
    | some n => if 7 ≤ n then light else dark
    | none => dark

end Background

/-- The theme a user picks (`ThemeMode` in `config`, lines 9–14): a fixed background, or detection
    from the terminal. -/
inductive Theme where
  | auto
  | light
  | dark
  deriving DecidableEq, Repr, Inhabited

namespace Theme

/-- The lowercase name of a theme (`ThemeMode::name` in `config`, lines 26–32). -/
def name : Theme → String
  | auto => "auto"
  | light => "light"
  | dark => "dark"

/-- The theme with a given name (`parse_theme` in `config`, lines 206–213). -/
def ofName? : String → Option Theme
  | "auto" => some auto
  | "light" => some light
  | "dark" => some dark
  | _ => none

/-- The background a theme forces, if it forces one (`ThemeMode::background` in `config`,
    lines 18–24). -/
def forced : Theme → Option Background
  | auto => none
  | light => some .light
  | dark => some .dark

/-- The background in effect (`background_mode` in `highlight::theme`, lines 43–51): the forced one,
    else the one `COLORFGBG` announces. -/
def background (t : Theme) (colorFgBg : Option String) : Background :=
  (t.forced).getD (Background.ofColorFgBg colorFgBg)

end Theme

/-- The style of a token class on a background (`style_for_class` and `palette` in
    `highlight::theme`, lines 72–105). -/
def palette (bg : Background) : Option TokenClass → Style
  | none => Style.plain
  | some c =>
    let pick (onDark onLight : Color) : Style :=
      Style.fgOnly (if bg = .light then onLight else onDark)
    match c with
    | .function => pick .green (.indexed 28)
    | .modifier => pick .magenta (.indexed 90)
    | .modifier2 => pick .yellow (.indexed 130)
    | .assignment | .separator => pick .blue (.indexed 25)
    | .head => pick .lightYellow (.indexed 94)
    | .brace => pick .lightMagenta (.indexed 127)
    | .paren | .bracket | .ligature => pick (.indexed 250) (.indexed 240)
    | .nothing => { pick .darkGray (.indexed 245) with modifiers := [.dim] }
    | .number => pick .lightRed (.indexed 124)
    | .string => pick .cyan (.indexed 24)
    | .comment => { pick (.indexed 245) (.indexed 242) with modifiers := [.italic] }
    | .unused => pick .red (.indexed 160)
    | .value | .newline => Style.plain

end BqnEdit.Syntax

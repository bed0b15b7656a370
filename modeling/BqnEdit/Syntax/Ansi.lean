import BqnEdit.Syntax.Palette

/-!
# Tokens as ANSI-coloured text

A token with the default style is written as it is. Any other token is handed to a
terminal library, which writes it between select-graphic-rendition sequences: the
background and foreground colours, the modifiers, the text, and then a reset. The reset
is the full reset when a modifier was set, and otherwise a return of each colour set to
its default.

The parameters the library writes in each sequence are its own, so they are a parameter
here (`SgrCodes`); what the library is documented to write, a run of digits and `;` in
each, is `SgrCodes.Lawful`. The program runs with the codes of the 256-colour table,
`SgrCodes.indexed`.
-/

namespace BqnEdit.Syntax

/-- The escape character that opens every terminal sequence. -/
def escChar : Char := Char.ofNat 27

/-- A select-graphic-rendition sequence with the given parameters. -/
def sgr (params : String) : String :=
  String.singleton escChar ++ "[" ++ params ++ "m"

/-- A parameter character of a select-graphic-rendition sequence: a digit or `;`. -/
def isSgrParam (c : Char) : Bool := c.isDigit || c == ';'

theorem isSgrParam_of_mem_toString {n : Nat} {c : Char} (hc : c ∈ (toString n).toList) :
    isSgrParam c := by
  rw [Nat.toString_eq_ofList_toDigits, String.toList_ofList] at hc
  simp [isSgrParam, Nat.isDigit_of_mem_toDigits (by decide) (by decide) hc]

/-- The parameters of the sequences a terminal library writes for the parts of a style:
    setting a background colour, a foreground colour or a modifier, returning the
    background or the foreground to its default, and resetting everything. -/
structure SgrCodes where
  background : Color → String
  foreground : Color → String
  modifier : TextModifier → String
  defaultBackground : String
  defaultForeground : String
  reset : String

/-- What the library is documented to write: each code is a run of digits and `;`, so that
    every sequence it writes is one select-graphic-rendition sequence. -/
structure SgrCodes.Lawful (codes : SgrCodes) : Prop where
  background (c : Color) : ∀ ch ∈ (codes.background c).toList, isSgrParam ch
  foreground (c : Color) : ∀ ch ∈ (codes.foreground c).toList, isSgrParam ch
  modifier (m : TextModifier) : ∀ ch ∈ (codes.modifier m).toList, isSgrParam ch
  defaultBackground : ∀ ch ∈ codes.defaultBackground.toList, isSgrParam ch
  defaultForeground : ∀ ch ∈ codes.defaultForeground.toList, isSgrParam ch
  reset : ∀ ch ∈ codes.reset.toList, isSgrParam ch

/-- The codes for colours of the 256-colour table: `48;5;` and `38;5;` with the colour's
    number, a modifier's number, `49` and `39` for the default colours, and `0`. -/
def SgrCodes.indexed : SgrCodes where
  background c := "48;5;" ++ toString c.code
  foreground c := "38;5;" ++ toString c.code
  modifier m := toString m.code
  defaultBackground := "49"
  defaultForeground := "39"
  reset := "0"

/-- Parameters followed by a number are parameters. -/
theorem isSgrParam_append_toString {pre : String} (hpre : ∀ ch ∈ pre.toList, isSgrParam ch)
    (n : Nat) : ∀ ch ∈ (pre ++ toString n).toList, isSgrParam ch := by
  intro ch hch
  rw [String.toList_append, List.mem_append] at hch
  rcases hch with hch | hch
  · exact hpre ch hch
  · exact isSgrParam_of_mem_toString hch

theorem SgrCodes.lawful_indexed : SgrCodes.indexed.Lawful where
  background c := isSgrParam_append_toString (by simp [isSgrParam]) c.code
  foreground c := isSgrParam_append_toString (by simp [isSgrParam]) c.code
  modifier _ _ hch := isSgrParam_of_mem_toString hch
  defaultBackground := by simp [indexed, isSgrParam]
  defaultForeground := by simp [indexed, isSgrParam]
  reset := by simp [indexed, isSgrParam]

/-- The modifiers of a style that are handed to the library: bold, dim and italic
    (`content_style` in `highlight::render`, lines 93–109). -/
def Style.attributes (s : Style) : List TextModifier :=
  s.modifierList.filter fun m => m == .bold || m == .dim || m == .italic

/-- Text in a style as the library writes it (`StyledContent`'s display, with colour output
    forced on): the sequences that set the background, the foreground and each attribute,
    the text, and the reset. -/
def Style.writeWith (codes : SgrCodes) (s : Style) (content : String) : String :=
  let bgOn := match s.bg with
    | some c => sgr (codes.background c)
    | none => ""
  let fgOn := match s.fg with
    | some c => sgr (codes.foreground c)
    | none => ""
  let modsOn := String.join (s.attributes.map (fun m => sgr (codes.modifier m)))
  let reset :=
    if s.attributes.isEmpty then
      (if s.bg.isSome then sgr codes.defaultBackground else "") ++
        (if s.fg.isSome then sgr codes.defaultForeground else "")
    else sgr codes.reset
  bgOn ++ fgOn ++ modsOn ++ content ++ reset

/-- The text of a token in a style (`to_ansi` in `highlight::render`, lines 79–91): bare in
    the default style, otherwise written by the library. -/
def Style.wrapWith (codes : SgrCodes) (s : Style) (content : String) : String :=
  if s = Style.plain then content else s.writeWith codes content

/-- Render tokens as ANSI-coloured text on a background, with a library's codes. -/
def toAnsiWith (codes : SgrCodes) (bg : Background) (ts : List Token) : String :=
  String.join (ts.map (fun t => (palette bg t.cls).wrapWith codes t.content))

/-- Render tokens as ANSI-coloured text on a background, with the 256-colour codes. -/
def toAnsi (bg : Background) (ts : List Token) : String :=
  toAnsiWith SgrCodes.indexed bg ts

end BqnEdit.Syntax

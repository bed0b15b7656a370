import BqnEdit.Text.Blank
import BqnEdit.Syntax.Token

/-!
# Splitting BQN source into tokens

The lexer tries an ordered list of rules at the front of the remaining source and
takes the first that matches; a character that no rule takes becomes a token of its
own with no class. Neighbouring tokens of one class are then merged.

Every rule is a function from the remaining characters to the length of its match
(`0` for no match). The rules are, in order: a line break; a run of blanks other
than the line break; a comment from `#` to the end of the line; the glyph sets;
quoted strings; the special name `𝕣`; system-prefixed names of modifiers, functions
and values; numbers.

Main results:

* `length_drop_lexeme_lt`: one step of the scan consumes at least one character,
  which is the measure that makes `scan` total.
-/

namespace BqnEdit.Syntax

open BqnEdit.Text

/-- The primitive functions (`FUNCTIONS` in `highlight::rules`, line 12). -/
def functionGlyphs : List Char := "+-×÷⋆√⌊⌈|¬∧∨<>≠=≤≥≡≢⊣⊢⥊∾≍⋈↑↓↕«»⌽⍉/⍋⍒⊏⊑⊐⊒∊⍷⊔!".toList
/-- The primitive 1-modifiers (`MODIFIERS` in `highlight::rules`, line 13). -/
def modifierGlyphs : List Char := "˙˜˘¨⌜⁼´˝`".toList
/-- The primitive 2-modifiers (`MODIFIERS_2` in `highlight::rules`, line 14). -/
def modifier2Glyphs : List Char := "∘○⊸⟜⌾⊘◶⎉⚇⍟⎊".toList
/-- The special names of functions (`ROLE_FUNCTIONS` in `highlight::rules`, line 15): `𝕎 𝕏 𝔽 𝔾
    𝕊`. -/
def roleFunctionGlyphs : List Char := "𝕎𝕏𝔽𝔾𝕊".toList
/-- The special names of values (`ROLE_VALUES` in `highlight::rules`, line 16): `𝕨 𝕩 𝕗 𝕘 𝕤`. -/
def roleValueGlyphs : List Char := "𝕨𝕩𝕗𝕘𝕤".toList
/-- Nothing, `·` (`NOTHING` in `highlight::rules`, line 17). -/
def nothingGlyphs : List Char := ['·']
/-- The null character literal `@`, styled as a string (`NULL` in `highlight::rules`, line 18). -/
def nullGlyphs : List Char := ['@']
/-- The assignment arrows (`ASSIGNMENTS` in `highlight::rules`, line 19). -/
def assignmentGlyphs : List Char := "←⇐↩".toList
/-- The statement separators (`SEPARATORS` in `highlight::rules`, line 20). -/
def separatorGlyphs : List Char := "⋄,".toList
/-- Parentheses (`PARENS` in `highlight::rules`, line 21). -/
def parenGlyphs : List Char := "()".toList
/-- Block braces (`BRACES` in `highlight::rules`, line 22). -/
def braceGlyphs : List Char := "\x7b\x7d".toList
/-- The block header punctuation (`HEADS` in `highlight::rules`, line 23). -/
def headGlyphs : List Char := ";:?".toList
/-- List brackets (`BRACKETS` in `highlight::rules`, line 24). -/
def bracketGlyphs : List Char := "⟨⟩[]".toList
/-- The strand ligature (`LIGATURES` in `highlight::rules`, line 25). -/
def ligatureGlyphs : List Char := ['‿']

/-- A lexical rule (`Rule` in `highlight::rules`, lines 34–37): the length in characters of its
    match at the front of the input, `0` when it does not match, and the class it gives. -/
structure Rule where
  matchLen : List Char → Nat
  cls : Option TokenClass

namespace Rule

/-- One character of a set (`Rule::chars` in `highlight::rules`, lines 40–45). -/
def oneOf (set : List Char) (cls : TokenClass) : Rule where
  matchLen
    | c :: _ => if set.contains c then 1 else 0
    | [] => 0
  cls := some cls

end Rule

/-- A character of a name: an ASCII letter, an ASCII digit or an underscore. -/
def isNameChar (c : Char) : Bool :=
  c.isAlphanum || c == '_'

/-- A blank other than the line break. -/
def isInlineBlank (c : Char) : Bool :=
  isBlank c && c != '\n'

/-- A run of blanks that stops before a line break (the blank rule in `highlight::rules`,
    line 75). -/
def blankRunLen (cs : List Char) : Nat :=
  (cs.takeWhile isInlineBlank).length

/-- A comment (the comment rule in `highlight::rules`, line 76): `#` and the rest of the line,
    without its line break. -/
def commentLen : List Char → Nat
  | '#' :: rest => 1 + (rest.takeWhile (· != '\n')).length
  | _ => 0

/-- A string quoted by `q` (the string rules in `highlight::rules`, lines 91–92): no escapes, the
    closing quote is taken when there is one, and an unclosed string runs to the end of the
    input. -/
def quotedLen (q : Char) : List Char → Nat
  | c :: rest =>
    if c = q then
      let body := rest.takeWhile (· != q)
      1 + body.length + (if body.length < rest.length then 1 else 0)
    else 0
  | [] => 0

/-- Lengthen a match by an optional leading system bullet `•`: the match after the
    bullet when there is one, else the match without it. -/
def bulleted (p : List Char → Nat) : List Char → Nat
  | '•' :: rest => if p rest = 0 then p ('•' :: rest) else p rest + 1
  | cs => p cs

/-- A 2-modifier name, `_name_` (the 2-modifier name rule in `highlight::rules`, line 96): an
    underscore, at least one name character, and the last underscore of the name-character run that
    follows. -/
def modifier2NameLen : List Char → Nat
  | '_' :: rest =>
    let word := rest.takeWhile isNameChar
    let upToLast := (word.reverse.dropWhile (· != '_')).length
    if 2 ≤ upToLast then 1 + upToLast else 0
  | _ => 0

/-- A 1-modifier name, `_name` (the 1-modifier name rule in `highlight::rules`, line 97): an
    underscore and the run of name characters after it. -/
def modifierNameLen : List Char → Nat
  | '_' :: rest =>
    let n := (rest.takeWhile isNameChar).length
    if n = 0 then 0 else 1 + n
  | _ => 0

/-- A name that starts with a letter accepted by `first`, followed by name characters (the function
    and value name rules in `highlight::rules`, lines 98–99). -/
def wordLen (first : Char → Bool) : List Char → Nat
  | c :: rest => if first c then 1 + (rest.takeWhile isNameChar).length else 0
  | [] => 0

/-- The length of a run of ASCII digits. -/
def digitsLen (cs : List Char) : Nat :=
  (cs.takeWhile Char.isDigit).length

/-- An exponent: `e` or `E`, an optional high minus `¯`, and at least one digit. -/
def exponentLen : List Char → Nat
  | e :: rest =>
    if e = 'e' ∨ e = 'E' then
      match rest with
      | '¯' :: ds => if digitsLen ds = 0 then 0 else 2 + digitsLen ds
      | ds => if digitsLen ds = 0 then 0 else 1 + digitsLen ds
    else 0
  | [] => 0

/-- A fraction: a point and at least one digit. -/
def fractionLen : List Char → Nat
  | '.' :: ds => if digitsLen ds = 0 then 0 else 1 + digitsLen ds
  | _ => 0

/-- A number without its sign: infinity `∞`, or `π` or digits with an optional
    fraction, followed by an optional exponent. -/
def magnitudeLen : List Char → Nat
  | '∞' :: _ => 1
  | 'π' :: rest => 1 + exponentLen rest
  | cs =>
    let d := digitsLen cs
    if d = 0 then 0
    else
      let f := fractionLen (cs.drop d)
      d + f + exponentLen (cs.drop (d + f))

/-- A number (the number rule in `highlight::rules`, lines 100–103): an optional high minus `¯` and
    a magnitude. -/
def numberLen : List Char → Nat
  | '¯' :: rest => if magnitudeLen rest = 0 then magnitudeLen ('¯' :: rest) else magnitudeLen rest + 1
  | cs => magnitudeLen cs

/-- The rules in the order they are tried (`rules` in `highlight::rules`, lines 70–106). The name
    and number rules come last, so they never shadow a glyph. -/
def rules : List Rule :=
  [ Rule.oneOf ['\n'] .newline,
    ⟨blankRunLen, none⟩,
    ⟨commentLen, some .comment⟩,
    Rule.oneOf functionGlyphs .function,
    Rule.oneOf modifierGlyphs .modifier,
    Rule.oneOf modifier2Glyphs .modifier2,
    Rule.oneOf roleFunctionGlyphs .function,
    Rule.oneOf roleValueGlyphs .value,
    Rule.oneOf nothingGlyphs .nothing,
    Rule.oneOf nullGlyphs .string,
    Rule.oneOf assignmentGlyphs .assignment,
    Rule.oneOf separatorGlyphs .separator,
    Rule.oneOf parenGlyphs .paren,
    Rule.oneOf braceGlyphs .brace,
    Rule.oneOf headGlyphs .head,
    Rule.oneOf bracketGlyphs .bracket,
    Rule.oneOf ligatureGlyphs .ligature,
    ⟨quotedLen '"', some .string⟩,
    ⟨quotedLen '\'', some .string⟩,
    ⟨fun cs => if cs.take 3 = ['_', '𝕣', '_'] then 3 else 0, some .modifier2⟩,
    ⟨fun cs => if cs.take 2 = ['_', '𝕣'] then 2 else 0, some .modifier⟩,
    ⟨fun cs => if cs.take 1 = ['𝕣'] then 1 else 0, some .value⟩,
    ⟨bulleted modifier2NameLen, some .modifier2⟩,
    ⟨bulleted modifierNameLen, some .modifier⟩,
    ⟨bulleted (wordLen Char.isUpper), some .function⟩,
    ⟨bulleted (wordLen Char.isLower), some .value⟩,
    ⟨numberLen, some .number⟩ ]

/-- The first rule that matches at the front of `cs`, as the match length and class; a character
    that no rule takes is a token of length one with no class (the rule search in `tokenize` in
    `highlight`, lines 105–116). -/
def lexeme (cs : List Char) : Nat × Option TokenClass :=
  match rules.findSome? (fun r => if r.matchLen cs = 0 then none else some (r.matchLen cs, r.cls)) with
  | some m => m
  | none => (1, none)

theorem length_drop_lexeme_lt (c : Char) (cs : List Char) :
    ((c :: cs).drop (max (lexeme (c :: cs)).1 1)).length < (c :: cs).length := by
  simp only [List.length_drop, List.length_cons]
  omega

/-- Cut the characters into tokens, one rule match at a time, without merging (the scan loop of
    `tokenize` in `highlight`, lines 104–117). -/
def scan : List Char → List Token
  | [] => []
  | c :: cs =>
    let n := max (lexeme (c :: cs)).1 1
    ⟨String.ofList ((c :: cs).take n), (lexeme (c :: cs)).2⟩ :: scan ((c :: cs).drop n)
termination_by cs => cs.length
decreasing_by exact length_drop_lexeme_lt c cs

/-- Split source text into classified tokens (`tokenize` in `highlight`, lines 99–122). Never fails;
    the contents of the tokens concatenate to the text. -/
def tokenize (s : String) : List Token :=
  merge (scan s.toList)

end BqnEdit.Syntax

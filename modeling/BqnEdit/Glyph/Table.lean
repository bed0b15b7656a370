import BqnEdit.Syntax.Token

/-!
# The glyph table

Every glyph of BQN that the glyph bar shows, in bar order: the primitive functions,
the 1- and 2-modifiers, the special names, the syntax characters, and the number and
system characters. A glyph has the key that types it after the mod key (plain ASCII
glyphs are typed directly and have none), the closing text of a pair, a hint for its
tooltip (the monadic and dyadic names on two lines), the documentation page, and its
token class.
-/

namespace BqnEdit.Glyph

open BqnEdit.Syntax

/-- A glyph of the glyph bar (`Glyph` in `glyphs`, lines 19–34). -/
structure Entry where
  literal : String
  key : Option Char
  paren : Option String := none
  hint : Option String := none
  page : Option String := none
  cls : TokenClass
  deriving DecidableEq, Repr, Inhabited

/-- Every glyph, in glyph bar order (`GLYPHS` in `glyphs::table`, lines 14–122). -/
def table : List Entry :=
  [
    -- Functions
    { literal := "+", key := none, cls := .function, hint := some "Conjugate\nAdd", page := some "arithmetic" },
    { literal := "-", key := none, cls := .function, hint := some "Negate\nSubtract", page := some "arithmetic" },
    { literal := "×", key := some '=', cls := .function, hint := some "Sign\nMultiply", page := some "arithmetic" },
    { literal := "÷", key := some '-', cls := .function, hint := some "Reciprocal\nDivide", page := some "arithmetic" },
    { literal := "⋆", key := some '+', cls := .function, hint := some "Exponential\nPower", page := some "arithmetic" },
    { literal := "√", key := some '_', cls := .function, hint := some "Square Root\nRoot", page := some "arithmetic" },
    { literal := "⌊", key := some 'b', cls := .function, hint := some "Floor\nMinimum", page := some "arithmetic" },
    { literal := "⌈", key := some 'B', cls := .function, hint := some "Ceiling\nMaximum", page := some "arithmetic" },
    { literal := "|", key := none, cls := .function, hint := some "Absolute Value\nModulus", page := some "arithmetic" },
    { literal := "¬", key := some '~', cls := .function, hint := some "Not\nSpan", page := some "logic" },
    { literal := "∧", key := some 't', cls := .function, hint := some "Sort Up\nAnd", page := some "logic" },
    { literal := "∨", key := some 'v', cls := .function, hint := some "Sort Down\nOr", page := some "logic" },
    { literal := "<", key := none, cls := .function, hint := some "Enclose\nLess Than", page := some "arithmetic" },
    { literal := ">", key := none, cls := .function, hint := some "Merge\nGreater Than", page := some "arithmetic" },
    { literal := "≠", key := some '/', cls := .function, hint := some "Length\nNot Equals", page := some "shape" },
    { literal := "=", key := none, cls := .function, hint := some "Rank\nEquals", page := some "shape" },
    { literal := "≤", key := some '<', cls := .function, hint := some "Less Than or Equal to", page := some "arithmetic" },
    { literal := "≥", key := some '>', cls := .function, hint := some "Greater Than or Equal to", page := some "arithmetic" },
    { literal := "≡", key := some 'm', cls := .function, hint := some "Depth\nMatch", page := some "depth" },
    { literal := "≢", key := some 'M', cls := .function, hint := some "Shape\nNot Match", page := some "shape" },
    { literal := "⊣", key := some '\x7b', cls := .function, hint := some "Identity\nLeft", page := some "identity" },
    { literal := "⊢", key := some '\x7d', cls := .function, hint := some "Identity\nRight", page := some "identity" },
    { literal := "⥊", key := some 'z', cls := .function, hint := some "Deshape\nReshape", page := some "reshape" },
    { literal := "∾", key := some ',', cls := .function, hint := some "Join\nJoin To", page := some "join" },
    { literal := "≍", key := some '.', cls := .function, hint := some "Solo\nCouple", page := some "couple" },
    { literal := "⋈", key := some 'Z', cls := .function, hint := some "Enlist\nPair", page := some "pair" },
    { literal := "↑", key := some 'r', cls := .function, hint := some "Prefixes\nTake", page := some "take" },
    { literal := "↓", key := some 'c', cls := .function, hint := some "Suffixes\nDrop", page := some "take" },
    { literal := "↕", key := some 'd', cls := .function, hint := some "Range\nWindows", page := some "range" },
    { literal := "«", key := some 'H', cls := .function, hint := some "Shift Before", page := some "shift" },
    { literal := "»", key := some 'L', cls := .function, hint := some "Shift After", page := some "shift" },
    { literal := "⌽", key := some 'q', cls := .function, hint := some "Reverse\nRotate", page := some "reverse" },
    { literal := "⍉", key := some 'a', cls := .function, hint := some "Transpose\nReorder Axes", page := some "transpose" },
    { literal := "/", key := none, cls := .function, hint := some "Indices\nReplicate", page := some "replicate" },
    { literal := "⍋", key := some 'T', cls := .function, hint := some "Grade Up\nBins Up", page := some "order" },
    { literal := "⍒", key := some 'V', cls := .function, hint := some "Grade Down\nBins Down", page := some "order" },
    { literal := "⊏", key := some 'i', cls := .function, hint := some "First Cell\nSelect", page := some "select" },
    { literal := "⊑", key := some 'I', cls := .function, hint := some "First\nPick", page := some "pick" },
    { literal := "⊐", key := some 'o', cls := .function, hint := some "Classify\nIndex of", page := some "search" },
    { literal := "⊒", key := some 'O', cls := .function, hint := some "Occurrence Count\nProgressive Index of", page := some "search" },
    { literal := "∊", key := some 'e', cls := .function, hint := some "Mark Firsts\nMember of", page := some "search" },
    { literal := "⍷", key := some 'E', cls := .function, hint := some "Deduplicate\nFind", page := some "find" },
    { literal := "⊔", key := some 'u', cls := .function, hint := some "Group Indices\nGroup", page := some "group" },
    { literal := "!", key := none, cls := .function, hint := some "Assert\nAssert with Message", page := some "assert" },
    -- 1-modifiers
    { literal := "˙", key := some '"', cls := .modifier, hint := some "Constant", page := some "constant" },
    { literal := "˜", key := some '`', cls := .modifier, hint := some "Self\nSwap", page := some "swap" },
    { literal := "˘", key := some '1', cls := .modifier, hint := some "Cells", page := some "rank" },
    { literal := "¨", key := some '2', cls := .modifier, hint := some "Each", page := some "map" },
    { literal := "⌜", key := some '4', cls := .modifier, hint := some "Table", page := some "map" },
    { literal := "⁼", key := some '3', cls := .modifier, hint := some "Undo", page := some "undo" },
    { literal := "´", key := some '5', cls := .modifier, hint := some "Fold", page := some "fold" },
    { literal := "˝", key := some '6', cls := .modifier, hint := some "Insert", page := some "fold" },
    { literal := "`", key := none, cls := .modifier, hint := some "Scan", page := some "scan" },
    -- 2-modifiers
    { literal := "∘", key := some 'j', cls := .modifier2, hint := some "Atop", page := some "compose" },
    { literal := "○", key := some 'k', cls := .modifier2, hint := some "Over", page := some "compose" },
    { literal := "⊸", key := some 'h', cls := .modifier2, hint := some "Before\nBind Left", page := some "hook" },
    { literal := "⟜", key := some 'l', cls := .modifier2, hint := some "After\nBind Right", page := some "hook" },
    { literal := "⌾", key := some 'K', cls := .modifier2, hint := some "Under", page := some "under" },
    { literal := "⊘", key := some '%', cls := .modifier2, hint := some "Valences", page := some "valences" },
    { literal := "◶", key := some '$', cls := .modifier2, hint := some "Choose", page := some "choose" },
    { literal := "⎉", key := some '!', cls := .modifier2, hint := some "Rank", page := some "rank" },
    { literal := "⚇", key := some '@', cls := .modifier2, hint := some "Depth", page := some "depth" },
    { literal := "⍟", key := some '#', cls := .modifier2, hint := some "Repeat", page := some "repeat" },
    { literal := "⎊", key := some '^', cls := .modifier2, hint := some "Catch", page := some "assert" },
    -- Roles
    { literal := "𝕨", key := some 'w', cls := .value, hint := some "Left Argument", page := some "block" },
    { literal := "𝕎", key := some 'W', cls := .function, hint := some "Left Argument (as function)", page := some "block" },
    { literal := "𝕩", key := some 'x', cls := .value, hint := some "Right Argument", page := some "block" },
    { literal := "𝕏", key := some 'X', cls := .function, hint := some "Right Argument (as function)", page := some "block" },
    { literal := "𝕗", key := some 'f', cls := .value, hint := some "Modifier Left Operand", page := some "block" },
    { literal := "𝔽", key := some 'F', cls := .function, hint := some "Modifier Left Operand (as function)", page := some "block" },
    { literal := "𝕘", key := some 'g', cls := .value, hint := some "2-Modifier Right Operand", page := some "block" },
    { literal := "𝔾", key := some 'G', cls := .function, hint := some "2-Modifier Right Operand (as function)", page := some "block" },
    { literal := "𝕤", key := some 's', cls := .value, hint := some "Current Function", page := some "block" },
    { literal := "𝕊", key := some 'S', cls := .function, hint := some "Current Function (as function)", page := some "block" },
    { literal := "𝕣", key := some 'R', cls := .value, hint := some "Current Modifier", page := some "block" },
    -- Syntax
    { literal := "←", key := some '[', cls := .assignment, hint := some "Define", page := some "expression" },
    { literal := "⇐", key := some '?', cls := .assignment, hint := some "Export", page := some "namespace" },
    { literal := "↩", key := some '\'', cls := .assignment, hint := some "Change", page := some "expression" },
    { literal := "⋄", key := some ';', cls := .separator, hint := some "Separator", page := some "syntax" },
    { literal := ",", key := none, cls := .separator, hint := some "Separator", page := some "syntax" },
    { literal := "·", key := some ':', cls := .nothing, hint := some "Nothing", page := some "expression" },
    { literal := "⟨", key := some '(', cls := .bracket, paren := some "⟩", hint := some "Start List", page := some "arrayrepr" },
    { literal := "⟩", key := some ')', cls := .bracket, hint := some "End List", page := some "arrayrepr" },
    { literal := "‿", key := some ' ', cls := .ligature, hint := some "Strand", page := some "arrayrepr" },
    { literal := "(", key := none, cls := .paren, paren := some ")" },
    { literal := ")", key := none, cls := .paren },
    { literal := "\x7b", key := none, cls := .brace, paren := some "\x7d", page := some "block" },
    { literal := "\x7d", key := none, cls := .brace },
    { literal := "[", key := none, cls := .bracket, paren := some "]" },
    { literal := "]", key := none, cls := .bracket },
    { literal := ";", key := none, cls := .head, hint := some "Next Case", page := some "block" },
    { literal := ":", key := none, cls := .head, hint := some "Header", page := some "block" },
    { literal := "?", key := none, cls := .head, hint := some "Predicate", page := some "block" },
    { literal := "\"", key := none, cls := .string, paren := some "\"", hint := some "String", page := some "token" },
    { literal := "'", key := none, cls := .string, paren := some "'", hint := some "Character", page := some "token" },
    { literal := "@", key := none, cls := .string, hint := some "Null Character", page := some "token" },
    -- Numbers and misc
    { literal := "¯", key := some '9', cls := .number, hint := some "Minus", page := some "token" },
    { literal := "π", key := some 'p', cls := .number, hint := some "Pi", page := some "token" },
    { literal := "∞", key := some '8', cls := .number, hint := some "Infinity", page := some "token" },
    { literal := "•", key := some '0', cls := .value, hint := some "System", page := some "glossary" },
    { literal := "#", key := none, cls := .comment, hint := some "Comment", page := some "token" }
  ]

end BqnEdit.Glyph

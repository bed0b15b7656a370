import BqnEdit.Syntax.Palette

/-!
# Tokens laid out as styled lines

A view draws source line by line. A line-break token ends a line; a token that spans
line breaks (an unclosed string) is cut at each break and keeps its style on every
line it touches. Empty pieces are dropped, and the last line is always there, even
when it is empty.
-/

namespace BqnEdit.Syntax

/-- A piece of text drawn in one style. -/
structure Span where
  content : String
  style : Style
  deriving DecidableEq, Repr, Inhabited

/-- A line under construction: the finished lines in reverse and the spans of the
    current line in reverse. -/
structure LineLayout where
  done : List (List Span) := []
  current : List Span := []

namespace LineLayout

/-- Add a piece of text to the current line, unless it is empty (`push_span` in `highlight::render`,
    lines 38–42). -/
def push (l : LineLayout) (text : String) (style : Style) : LineLayout :=
  if text.isEmpty then l else { l with current := ⟨text, style⟩ :: l.current }

/-- End the current line. -/
def breakLine (l : LineLayout) : LineLayout :=
  { done := l.current.reverse :: l.done, current := [] }

/-- Add the pieces of a token cut at its line breaks: a break between pieces. -/
def pushPieces (style : Style) : LineLayout → List String → LineLayout
  | l, [] => l
  | l, [p] => l.push p style
  | l, p :: rest => pushPieces style (l.push p style).breakLine rest

/-- Add one token. -/
def addToken (bg : Background) (l : LineLayout) (t : Token) : LineLayout :=
  if t.cls = some .newline then l.breakLine
  else pushPieces (palette bg t.cls) l ((t.content.toList.splitOn '\n').map String.ofList)

/-- The lines, the current one last. -/
def finish (l : LineLayout) : List (List Span) :=
  (l.current.reverse :: l.done).reverse

end LineLayout

/-- Lay tokens out as styled lines, one per source line (`highlight_lines` in `highlight::render`,
    lines 14–36). -/
def highlightLines (bg : Background) (ts : List Token) : List (List Span) :=
  (ts.foldl (LineLayout.addToken bg) {}).finish

end BqnEdit.Syntax

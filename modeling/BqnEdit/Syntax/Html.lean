import BqnEdit.Syntax.Token

/-!
# Tokens as HTML

Each classed token becomes a `span` whose CSS class names the token class; whitespace,
unclassed characters and line breaks are written as bare text. All text is escaped,
so the only markup characters in the output are those of the span tags.
-/

namespace BqnEdit.Syntax

/-- The HTML text of one character (the cases of `escape_html` in `highlight::render`, lines 66–72):
    the five markup characters become entities. -/
def escapeChar : Char → String
  | '&' => "&amp;"
  | '<' => "&lt;"
  | '>' => "&gt;"
  | '"' => "&quot;"
  | '\'' => "&#39;"
  | c => String.singleton c

/-- Escape text for HTML content and attribute values (`escape_html` in `highlight::render`,
    lines 63–76). -/
def escapeHtml (s : String) : String :=
  String.join (s.toList.map escapeChar)

/-- The HTML of one token: a span for a classed token, escaped text otherwise. -/
def Token.toHtml (t : Token) : String :=
  match t.cls with
  | none | some .newline => escapeHtml t.content
  | some c => "<span class=\"" ++ c.cssClass ++ "\">" ++ escapeHtml t.content ++ "</span>"

/-- Render tokens as HTML, one span per classed token (`to_html` in `highlight::render`,
    lines 45–61). -/
def toHtml (ts : List Token) : String :=
  String.join (ts.map Token.toHtml)

end BqnEdit.Syntax

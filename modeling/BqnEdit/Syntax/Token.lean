/-!
# Tokens of BQN source

A token is a run of source text with its lexical class. Whitespace and characters
that no rule recognises carry no class. `merge` joins neighbouring runs of one class,
except line breaks, which stay one token each so that a view can count lines by them.

`merge` is a left fold of `pushMerged` over a list kept in reverse, so its laws
reduce to one step at a time.
-/

namespace BqnEdit.Syntax

/-- The lexical classes (`TokenClass` in `highlight`, lines 22–40). The set is closed: every glyph
    of the glyph table carries one of them, so the glyph bar and the code view style glyphs
    alike. -/
inductive TokenClass where
  | function
  | modifier
  | modifier2
  | assignment
  | separator
  | value
  | paren
  | brace
  | ligature
  | head
  | bracket
  | nothing
  | number
  | comment
  | string
  | newline
  | unused
  deriving DecidableEq, Repr, Inhabited

namespace TokenClass

/-- All classes, in declaration order. -/
def all : List TokenClass :=
  [function, modifier, modifier2, assignment, separator, value, paren, brace, ligature,
   head, bracket, nothing, number, comment, string, newline, unused]

/-- The lowercase name of a class, as written in serialized tokens (`TokenClass::name` in
    `highlight`, lines 44–64). -/
def name : TokenClass → String
  | function => "function"
  | modifier => "modifier"
  | modifier2 => "modifier2"
  | assignment => "assignment"
  | separator => "separator"
  | value => "value"
  | paren => "paren"
  | brace => "brace"
  | ligature => "ligature"
  | head => "head"
  | bracket => "bracket"
  | nothing => "nothing"
  | number => "number"
  | comment => "comment"
  | string => "string"
  | newline => "newline"
  | unused => "unused"

/-- The class with a given name. -/
def ofName? (s : String) : Option TokenClass :=
  all.find? (fun c => c.name == s)

/-- The CSS class of a class in HTML output, `syn-` and the name (`TokenClass::css_class` in
    `highlight`, lines 67–69). -/
def cssClass (c : TokenClass) : String :=
  "syn-" ++ c.name

end TokenClass

/-- A run of source text sharing one class; `none` for whitespace and characters that no rule
    recognises (`Token` in `highlight`, lines 74–79). -/
structure Token where
  content : String
  cls : Option TokenClass
  deriving DecidableEq, Repr, Inhabited

namespace Token

/-- The length of a token in characters (`Token::char_len` in `highlight`, lines 90–92). -/
def charLen (t : Token) : Nat :=
  t.content.length

/-- Two neighbouring tokens join when they have the same class and it is not a line
    break. -/
def joins (a b : Token) : Bool :=
  a.cls == b.cls && b.cls != some .newline

end Token

/-- The text of a token list: its contents, in order. -/
def contents (ts : List Token) : String :=
  String.join (ts.map Token.content)

/-- Push a token onto a merged list kept in reverse order: it joins the last token
    when the classes agree and are not a line break. -/
def pushMerged : List Token → Token → List Token
  | [], t => [t]
  | last :: rest, t =>
    if last.joins t then ⟨last.content ++ t.content, last.cls⟩ :: rest else t :: last :: rest

/-- Join neighbouring tokens of one class (`merge` in `highlight`, lines 125–136). Line breaks stay
    one per token. -/
def merge (ts : List Token) : List Token :=
  (ts.foldl pushMerged []).reverse

end BqnEdit.Syntax

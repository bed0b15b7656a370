import BqnEdit.Json.Basic
import BqnEdit.Text.Quoted

/-!
# Writing JSON

A value is written token by token, and what stands between the tokens is the formatter's:
a `Formatter` gives the text before each element of an array or member of an object, at
its nesting level, the text before the closing bracket or brace of a container, at the
container's level, and the text after the colon of a member. A comma goes before every
element or member but the first, and an empty array or object is written `[]` or `{}`
whatever the formatter. `Formatter.Lawful` is what the serializer's formatters are
documented to do: write only the blanks JSON allows between tokens, which a reader skips.

The program writes with two formatters: `Formatter.compact`, which writes nothing, and
`Formatter.pretty`, which puts each element and member on a line of its own, indented by two
spaces per level, with a blank after each colon. In strings the quote and the backslash are
escaped, the controls by their short escapes where JSON has one and else as `\u00XX`; all
other characters are written as they are.
-/

namespace BqnEdit.Json

/-- Four lowercase hexadecimal digits. -/
def hex4 (n : Nat) : String :=
  let d := Text.hexDigits n
  String.ofList (List.replicate (4 - d.length) '0') ++ d

/-- One character of a JSON string. -/
def escapeChar : Char → String
  | '"' => "\\\""
  | '\\' => "\\\\"
  | '\x08' => "\\b"
  | '\x0c' => "\\f"
  | '\n' => "\\n"
  | '\r' => "\\r"
  | '\t' => "\\t"
  | c => if c.toNat < 0x20 then "\\u" ++ hex4 c.toNat else String.singleton c

/-- A JSON string literal. -/
def quoteString (s : String) : String :=
  "\"" ++ String.join (s.toList.map escapeChar) ++ "\""

/-- Write a number; a double is written by the given printer. -/
def writeNumber (showFloat : Float → String) : JsonNumber → String
  | .nat n => toString n
  | .neg n => toString n
  | .float f => showFloat f

/-- The blanks JSON allows between tokens: space, line feed, tab and carriage return. -/
def IsBlank (ch : Char) : Prop := ch = ' ' ∨ ch = '\n' ∨ ch = '\t' ∨ ch = '\r'

instance : DecidablePred IsBlank :=
  fun ch => inferInstanceAs (Decidable (ch = ' ' ∨ ch = '\n' ∨ ch = '\t' ∨ ch = '\r'))

/-- What a serializer writes between the tokens of a value: before each element or member,
    at its nesting level, before the closing bracket or brace of a container, at the
    container's level, and after the colon of a member. -/
structure Formatter where
  beforeItem : Nat → String
  beforeClose : Nat → String
  afterColon : String

/-- A formatter that writes only blanks between tokens. -/
structure Formatter.Lawful (fmt : Formatter) : Prop where
  beforeItem (l : Nat) : ∀ ch ∈ (fmt.beforeItem l).toList, IsBlank ch
  beforeClose (l : Nat) : ∀ ch ∈ (fmt.beforeClose l).toList, IsBlank ch
  afterColon : ∀ ch ∈ fmt.afterColon.toList, IsBlank ch

/-- The indentation of a nesting level. -/
def indent (level : Nat) : String :=
  String.ofList (List.replicate (2 * level) ' ')

/-- The formatter that writes no blanks at all. -/
def Formatter.compact : Formatter where
  beforeItem _ := ""
  beforeClose _ := ""
  afterColon := ""

/-- The formatter that puts each element and member on a line of its own, indented by its
    nesting level, and a blank after each colon. -/
def Formatter.pretty : Formatter where
  beforeItem l := "\n" ++ indent l
  beforeClose l := "\n" ++ indent l
  afterColon := " "

theorem Formatter.lawful_compact : Formatter.compact.Lawful where
  beforeItem _ := by simp [compact]
  beforeClose _ := by simp [compact]
  afterColon := by simp [compact]

theorem isBlank_newline_indent (l : Nat) : ∀ ch ∈ ("\n" ++ indent l).toList, IsBlank ch := by
  intro ch hch
  simp only [indent, String.toList_append, String.toList_ofList, List.mem_append,
    List.mem_replicate] at hch
  rcases hch with hch | hch
  · exact .inr (.inl (by simpa using hch))
  · exact .inl hch.2

theorem Formatter.lawful_pretty : Formatter.pretty.Lawful where
  beforeItem l := isBlank_newline_indent l
  beforeClose l := isBlank_newline_indent l
  afterColon := by simp [pretty, IsBlank]

mutual

/-- The text of a value at a nesting level. -/
def writeWith (fmt : Formatter) (showFloat : Float → String) (level : Nat) : Json → String
  | .null => "null"
  | .bool b => if b then "true" else "false"
  | .num n => writeNumber showFloat n
  | .str s => quoteString s
  | .arr [] => "[]"
  | .arr xs =>
    "[" ++ writeElements fmt showFloat (level + 1) true xs ++ fmt.beforeClose level ++ "]"
  | .obj [] => "\x7b\x7d"
  | .obj kvs =>
    "\x7b" ++ writeMembers fmt showFloat (level + 1) true kvs ++ fmt.beforeClose level ++ "\x7d"

/-- Elements at a nesting level, with a comma before each one but the first when `first`
    holds. -/
def writeElements (fmt : Formatter) (showFloat : Float → String) (level : Nat) (first : Bool) :
    List Json → String
  | [] => ""
  | x :: xs =>
    (if first then "" else ",") ++ fmt.beforeItem level ++ writeWith fmt showFloat level x ++
      writeElements fmt showFloat level false xs

/-- Members at a nesting level, with a comma before each one but the first when `first`
    holds. -/
def writeMembers (fmt : Formatter) (showFloat : Float → String) (level : Nat) (first : Bool) :
    List (String × Json) → String
  | [] => ""
  | (k, v) :: kvs =>
    (if first then "" else ",") ++ fmt.beforeItem level ++ quoteString k ++ ":" ++ fmt.afterColon ++
      writeWith fmt showFloat level v ++ writeMembers fmt showFloat level false kvs

end

/-- Compact JSON text of a value. -/
def compactWith (showFloat : Float → String) (v : Json) : String :=
  writeWith Formatter.compact showFloat 0 v

/-- Pretty JSON text of a value at a nesting level. -/
def prettyWith (showFloat : Float → String) (level : Nat) (v : Json) : String :=
  writeWith Formatter.pretty showFloat level v

end BqnEdit.Json

import BqnEdit.Text.Hidden

/-!
# Quoted text for diagnostics

Text is shown to a reader between double quotes, with the characters that would not
show escaped: the line breaks, tab, carriage return and NUL by their short escapes,
the backslash and the double quote by a backslash, and every other character of
`BqnEdit.Text.Hidden` as `\u{hex}`.
-/

namespace BqnEdit.Text

/-- Lowercase hexadecimal digits of a number, without leading zeros. -/
def hexDigits (n : Nat) : String :=
  String.ofList (Nat.toDigits 16 n)

/-- One character inside double quotes. -/
def quoteChar : Char → String
  | '\x00' => "\\0"
  | '\t' => "\\t"
  | '\r' => "\\r"
  | '\n' => "\\n"
  | '\\' => "\\\\"
  | '"' => "\\\""
  | c => if isHidden c then "\\u\x7b" ++ hexDigits c.toNat ++ "\x7d" else String.singleton c

/-- Text between double quotes, escaped for a reader. -/
def quote (s : String) : String :=
  "\"" ++ String.join (s.toList.map quoteChar) ++ "\""

end BqnEdit.Text

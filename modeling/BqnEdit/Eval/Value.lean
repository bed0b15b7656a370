import BqnEdit.Text.Shortest

/-!
# BQN values and their display

The values that an evaluation hands back to the editor: numbers, characters, arrays
with a shape and their elements, and the opaque functions, modifiers and namespaces.
A list of characters is a string.

Display follows BQN's own spelling: the high minus `¯` for negative numbers, `∞` for
infinity, `@` for the null character, quotes around characters and strings, angle
brackets `⟨⟩` around other lists, and the shape, joined by `‿`, for arrays of any other
rank. Numbers are written with the fewest digits that read back, never with an
exponent.
-/

namespace BqnEdit.Eval

/-- A BQN value (`Value` in `runtime`, lines 25–32). -/
inductive Value where
  | number (x : Float)
  | char (c : Char)
  | array (shape : List Nat) (data : List Value)
  | function
  | modifier
  /-- A namespace. -/
  | ns
  deriving Inhabited

namespace Value

/-- A string (`Value::string` in `runtime`, lines 36–42): the list of its characters. -/
def string (t : String) : Value :=
  .array [t.length] (t.toList.map .char)

/-- The character of a character value. -/
def char? : Value → Option Char
  | .char c => some c
  | _ => none

/-- The text of a list of characters (`Value::as_string` in `runtime`, lines 45–56). -/
def asString? : Value → Option String
  | .array [_] data => (data.mapM char?).map String.ofList
  | _ => none

/-- A number as BQN writes it (the number cases of `Display for Value` in `runtime`,
    lines 210–214). -/
def displayNumber (x : Float) : String :=
  if x.isInf then (if x < 0 then "¯∞" else "∞")
  else if x < 0 then "¯" ++ Text.FloatFormat.plain.show (-x)
  else Text.FloatFormat.plain.show x

/-- A value as BQN writes it (`Display for Value` in `runtime`, lines 207–239). -/
def display : Value → String
  | .number x => displayNumber x
  | .char c => if c = '\x00' then "@" else "'" ++ String.singleton c ++ "'"
  | .array shape data =>
    match asString? (.array shape data) with
    | some t => "\"" ++ t ++ "\""
    | none =>
      match shape with
      | [_] => "⟨" ++ ", ".intercalate (data.attach.map fun ⟨v, _⟩ => display v) ++ "⟩"
      | _ => "<array " ++ "‿".intercalate (shape.map toString) ++ ">"
  | .function => "<function>"
  | .modifier => "<modifier>"
  | .ns => "\x7bnamespace\x7d"

end Value

end BqnEdit.Eval

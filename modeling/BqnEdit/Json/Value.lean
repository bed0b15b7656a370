import BqnEdit.Json.Read

/-!
# Reading any JSON value

Some JSON has no shape known in advance. It is read into a `Json` value as it comes:
literals, numbers of the three kinds a reader tells apart (integers while they fit in
64 bits, doubles scaled in one step otherwise), strings, arrays, and objects with
their members in the order written, repeated keys included. The syntax faults are
those of the typed readers, at the same places.
-/

namespace BqnEdit.Json

open Reader

mutual

/-- Read any value; `fuel` bounds the nesting and the length. -/
def readAnyValue : Nat → Reader Json
  | 0 => failHere "recursion limit exceeded"
  | fuel + 1 => do
    match ← blank with
    | none => failAhead eofValue
    | some 'n' => do eat; readWord ['u', 'l', 'l']; pure .null
    | some 't' => do eat; readWord ['r', 'u', 'e']; pure (.bool true)
    | some 'f' => do eat; readWord ['a', 'l', 's', 'e']; pure (.bool false)
    | some '-' => do eat; .num <$> readNumberRest false
    | some '"' => do eat; .str <$> readStringRest
    | some '[' => do
      eat
      let xs ← readAnyElements fuel true []
      closeArray
      pure (.arr xs)
    | some '{' => do
      eat
      let kvs ← readAnyMembers fuel true []
      closeObject
      pure (.obj kvs)
    | some c => if c.isDigit then .num <$> readNumberRest true else failAhead "expected value"

/-- Read the elements of an array up to its closing bracket, after those in `acc`,
    which holds them last first. -/
def readAnyElements : Nat → Bool → List Json → Reader (List Json)
  | 0, _, _ => failHere "recursion limit exceeded"
  | fuel + 1, first, acc => do
    match ← nextElement first (readAnyValue fuel) with
    | some x => readAnyElements fuel false (x :: acc)
    | none => pure acc.reverse

/-- Read the members of an object up to its closing brace, after those in `acc`,
    which holds them last first. -/
def readAnyMembers : Nat → Bool → List (String × Json) → Reader (List (String × Json))
  | 0, _, _ => failHere "recursion limit exceeded"
  | fuel + 1, first, acc => do
    match ← nextKey first with
    | none => pure acc.reverse
    | some k => do
      readColon
      let v ← readAnyValue fuel
      readAnyMembers fuel false ((k, v) :: acc)

end

/-- Read a whole text as one value. Every step of the reader takes a character or
    ends, so twice the length bounds it. -/
def parseValue (text : String) : Except ReadError Json :=
  parseWith (do readAnyValue (2 * (← remaining) + 2)) text

end BqnEdit.Json

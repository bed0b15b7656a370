import BqnEdit.Json.Basic
import BqnEdit.Text.Decimal
import BqnEdit.Text.Quoted
import BqnEdit.Text.Shortest

/-!
# Reading JSON into typed values

A reader goes through JSON text once, from left to right, and builds a typed value
as it goes, the way a data-binding deserializer does: a field of the wrong type is
reported at the place where it was read, unknown fields are skipped, and a missing
or repeated field is an error. Errors give the line (from 1) and the column (the
byte offset in the line) where the reader stood when it found the fault.

Two positions are used: the *current* position, just after what was read, and the
*peeked* position, just after the next character. Faults found by looking at the
next character are reported at the peeked position.

A fault raised while building a value (a wrong variant, a missing field) carries no
position yet; the innermost enclosing value that can place it gives it the position
the reader reached, after that value has been closed where possible.
-/

namespace BqnEdit.Json

/-- A place in JSON text: the line, from 1, and the byte column. -/
structure Pos where
  line : Nat
  column : Nat
  deriving DecidableEq, Repr, Inhabited

/-- A reading error: the message and, once known, where it was found. -/
structure ReadError where
  message : String
  pos : Option Pos := none
  deriving Repr, Inhabited

/-- The text of a reading error: the message, then its place. -/
def ReadError.render (e : ReadError) : String :=
  match e.pos with
  | some p => e.message ++ " at line " ++ toString p.line ++ " column " ++ toString p.column
  | none => e.message

/-- The state of a reader: the characters still to read, how many they are, and where
    they start. -/
structure Cursor where
  rest : List Char
  left : Nat := rest.length
  index : Nat := 0
  line : Nat := 1
  lineStart : Nat := 0
  deriving Repr, Inhabited

namespace Cursor

/-- Step over one character. -/
def advance (c : Cursor) : Cursor :=
  match c.rest with
  | [] => c
  | ch :: rest =>
    if ch = '\n' then
      { rest, left := c.left - 1, index := c.index + 1, line := c.line + 1, lineStart := c.index + 1 }
    else { c with rest, left := c.left - 1, index := c.index + ch.utf8Size }

/-- Step over `n` bytes, at most `fuel` characters. When the last character does not
    fit, the cursor stops inside it, after its first bytes; only a fault placed there
    follows such a step. -/
def advanceBytes : Nat → Nat → Cursor → Cursor
  | 0, _, c => c
  | fuel + 1, n, c =>
    if n = 0 then c
    else
      match c.rest with
      | [] => c
      | ch :: _ =>
        if ch.utf8Size ≤ n then advanceBytes fuel (n - ch.utf8Size) c.advance
        else { c with index := c.index + n }

/-- Step over at most `n` blanks (space, tab, line feed, carriage return). -/
def skipBlanks : Nat → Cursor → Cursor
  | 0, c => c
  | n + 1, c =>
    match c.rest with
    | ch :: _ => if ch = ' ' ∨ ch = '\n' ∨ ch = '\t' ∨ ch = '\r' then skipBlanks n c.advance else c
    | [] => c

end Cursor

/-- A reader of JSON text. Its state survives a failure, so that an enclosing value
    can still close and place the error. -/
abbrev Reader := ExceptT ReadError (StateM Cursor)

namespace Reader

/-- The next character. -/
def peek : Reader (Option Char) := do return (← get).rest.head?

/-- Step over the next character. -/
def eat : Reader Unit := modify Cursor.advance

/-- The number of characters left. -/
def remaining : Reader Nat := do return (← get).left

/-- The current position, just after what was read. -/
def position : Reader Pos := do
  let c ← get
  return ⟨c.line, c.index - c.lineStart⟩

/-- The peeked position, just after the first byte of the next character. -/
def peekPosition : Reader Pos := do
  let c ← get
  match c.rest with
  | [] => return ⟨c.line, c.index - c.lineStart⟩
  | '\n' :: _ => return ⟨c.line + 1, 0⟩
  | _ => return ⟨c.line, c.index + 1 - c.lineStart⟩

/-- Fail at the current position. -/
def failHere (msg : String) : Reader α := do throw ⟨msg, some (← position)⟩

/-- Fail at the peeked position. -/
def failAhead (msg : String) : Reader α := do throw ⟨msg, some (← peekPosition)⟩

/-- Fail without a position yet. -/
def failUnplaced (msg : String) : Reader α := throw ⟨msg, none⟩

/-- Step over blanks and look at the next character. -/
def blank : Reader (Option Char) := do
  modify fun c => c.skipBlanks c.left
  peek

/-- Give an error without a position the current position. -/
def placed (r : Reader α) : Reader α :=
  tryCatch r fun e =>
    match e.pos with
    | some _ => throw e
    | none => do throw { e with pos := some (← position) }

/-- Run a reader and keep its outcome, success or failure. -/
def attempt (r : Reader α) : Reader (Except ReadError α) :=
  tryCatch (Except.ok <$> r) (fun e => pure (.error e))

/-- Rethrow a kept outcome. -/
def ofExcept : Except ReadError α → Reader α
  | .ok a => pure a
  | .error e => throw e

end Reader

open Reader

/-- The messages of the syntax faults. -/
def eofValue : String := "EOF while parsing a value"
def eofString : String := "EOF while parsing a string"
def eofList : String := "EOF while parsing a list"
def eofObject : String := "EOF while parsing an object"

/-- Read the rest of a literal word (`true`, `false`, `null`) after its first letter. -/
def readWord : List Char → Reader Unit
  | [] => pure ()
  | w :: ws => do
    match ← peek with
    | none => failHere eofValue
    | some c =>
      if c = w then do eat; readWord ws else failAhead "expected ident"

/-- The value of a hexadecimal digit. -/
def hexValue? (c : Char) : Option Nat :=
  if c.isDigit then some (c.toNat - '0'.toNat)
  else if 'a' ≤ c ∧ c ≤ 'f' then some (c.toNat - 'a'.toNat + 10)
  else if 'A' ≤ c ∧ c ≤ 'F' then some (c.toNat - 'A'.toNat + 10)
  else none

/-- Read four hexadecimal digits of a `\u` escape. The escape takes the next four
    bytes, so a fault is placed after them even when they end inside a character. -/
def readHex4 : Reader Nat := do
  let c ← get
  let ds := c.rest.take 4
  -- the zero of the sum is named, so that it reads the same under any `Zero Nat` instance
  if @List.sum Nat _ Zero.ofOfNat0 (ds.map Char.utf8Size) < 4 then
    set (c.rest.foldl (fun c _ => c.advance) c)
    failHere eofString
  else
    match ds.mapM hexValue? with
    | some [a, b, x, y] => do
      set (c.advanceBytes 4 4)
      pure (((a * 16 + b) * 16 + x) * 16 + y)
    | _ => do
      set (c.advanceBytes 4 4)
      failHere "invalid escape"

/-- Read the rest of a `\u` escape, a surrogate pair included. -/
def readUnicodeEscape : Reader Char := do
  let n ← readHex4
  if 0xDC00 ≤ n ∧ n ≤ 0xDFFF then failHere "lone leading surrogate in hex escape"
  else if n < 0xD800 ∨ 0xDBFF < n then pure (Char.ofNat n)
  else
    match ← peek with
    | none => failHere eofString
    | some '\\' =>
      eat
      match ← peek with
      | none => failHere eofString
      | some 'u' =>
        eat
        let n2 ← readHex4
        if n2 < 0xDC00 ∨ 0xDFFF < n2 then failHere "lone leading surrogate in hex escape"
        else pure (Char.ofNat ((n - 0xD800) * 0x400 + (n2 - 0xDC00) + 0x10000))
      | some _ => failAhead "unexpected end of hex escape"
    | some _ => failAhead "unexpected end of hex escape"

/-- Read the body of a string after its opening quote, at most `fuel` characters. -/
def readStringBody : Nat → List Char → Reader String
  | 0, _ => failHere eofString
  | fuel + 1, acc => do
    match ← peek with
    | none => failHere eofString
    | some '"' => do eat; pure (String.ofList acc.reverse)
    | some '\\' => do
      eat
      match ← peek with
      | none => failHere eofString
      | some e =>
        let c? : Option Char := match e with
          | '"' => some '"'
          | '\\' => some '\\'
          | '/' => some '/'
          | 'b' => some '\x08'
          | 'f' => some '\x0c'
          | 'n' => some '\n'
          | 'r' => some '\r'
          | 't' => some '\t'
          | _ => none
        match c? with
        | some c => do eat; readStringBody fuel (c :: acc)
        | none =>
          if e = 'u' then do
            eat
            let c ← readUnicodeEscape
            readStringBody fuel (c :: acc)
          else failAhead "invalid escape"
    | some c =>
      if c.toNat < 0x20 then do
        eat
        failHere "control character (\\u0000-\\u001F) found while parsing a string"
      else do
        eat
        readStringBody fuel (c :: acc)

/-- Read a string after its opening quote. -/
def readStringRest : Reader String := do
  readStringBody ((← remaining) + 1) []

/-- Read the digits of a number, returning their count and value. -/
def readDigitRun : Nat → Nat × Nat → Reader (Nat × Nat)
  | 0, acc => pure acc
  | fuel + 1, (count, value) => do
    match ← peek with
    | some c =>
      if c.isDigit then do
        eat
        readDigitRun fuel (count + 1, 10 * value + (c.toNat - '0'.toNat))
      else pure (count, value)
    | none => pure (count, value)

/-- The value of a decimal digit. -/
def digitOf (c : Char) : Nat := c.toNat - '0'.toNat

/-- Whether appending `digit` to `acc` would pass `bound`. -/
def overflows (acc digit bound : Nat) : Bool :=
  acc ≥ bound / 10 && (acc > bound / 10 || digit > bound % 10)

/-- The largest significand: the largest unsigned 64-bit integer. -/
def significandMax : Nat := Nat.pow 2 64 - 1

/-- The largest exponent: the largest signed 32-bit integer. -/
def exponentMax : Nat := Nat.pow 2 31 - 1

/-- An exponent held to the signed 32-bit range. -/
def saturate (e : Int) : Int := max (-(exponentMax + 1 : Int)) (min e exponentMax)

/-- A double from its significand and decimal exponent, failing when it is infinite. -/
def scaled (positive : Bool) (s : Nat) (e : Int) : Reader Float :=
  match Text.scaleDecimal s e with
  | some f => pure (if positive then f else -f)
  | none => failHere "number out of range"

/-- Read the digits of an exponent while it stays in range; none once a digit takes
    it out, that digit read. -/
def readExponentDigits : Nat → Nat → Reader (Option Nat)
  | 0, e => pure (some e)
  | fuel + 1, e => do
    match ← peek with
    | some c =>
      if c.isDigit then do
        eat
        if overflows e (digitOf c) exponentMax then pure none
        else readExponentDigits fuel (10 * e + digitOf c)
      else pure (some e)
    | none => pure (some e)

/-- Read an exponent, at its `e`, and scale the significand by it and by `start`. An
    exponent too large for its range is out of range when it would scale a non-zero
    significand up, and gives zero otherwise. -/
def readExponent (positive : Bool) (s : Nat) (start : Int) : Reader Float := do
  eat
  let expPositive ← do
    match ← peek with
    | some '+' => do eat; pure true
    | some '-' => do eat; pure false
    | _ => pure true
  match ← peek with
  | none => failHere eofValue
  | some d =>
    if !d.isDigit then failAhead "invalid number"
    else do
      eat
      match ← readExponentDigits (← remaining) (digitOf d) with
      | some x => scaled positive s (saturate (if expPositive then start + x else start - x))
      | none =>
        if s ≠ 0 && expPositive then failHere "number out of range"
        else do
          let _ ← readDigitRun (← remaining) (0, 0)
          pure (if positive then 0 else -0)

/-- After the digits of a significand: an exponent, or the end of the number. -/
def afterDigits (positive : Bool) (s : Nat) (e : Int) : Reader Float := do
  match ← peek with
  | some 'e' | some 'E' => readExponent positive s e
  | _ => scaled positive s e

/-- Read fraction digits into the significand while it stays below `2^64`; gives the
    significand, the number of digits taken, and whether a digit was left because it
    would not fit. -/
def readFractionDigits : Nat → Nat × Nat → Reader (Nat × Nat × Bool)
  | 0, (s, k) => pure (s, k, false)
  | fuel + 1, (s, k) => do
    match ← peek with
    | some c =>
      if c.isDigit then
        if overflows s (digitOf c) significandMax then pure (s, k, true)
        else do
          eat
          readFractionDigits fuel (10 * s + digitOf c, k + 1)
      else pure (s, k, false)
    | none => pure (s, k, false)

/-- Read a fraction, at its point, into the significand `s` scaled by `10^e0`. Digits
    that do not fit in the significand are skipped. -/
def readFraction (positive : Bool) (s : Nat) (e0 : Int) : Reader Float := do
  eat
  let (s, k, full) ← readFractionDigits (← remaining) (s, 0)
  if full then do
    let _ ← readDigitRun (← remaining) (0, 0)
    afterDigits positive s (e0 - k)
  else if k = 0 then
    match ← peek with
    | some _ => failAhead "invalid number"
    | none => failAhead eofValue
  else afterDigits positive s (e0 - k)

/-- After the integer digits: a fraction, an exponent, or an integer. A negative
    integer that fits in 64 bits stays an integer; zero and larger ones are doubles. -/
def numberTail (positive : Bool) (s : Nat) : Reader JsonNumber := do
  match ← peek with
  | some '.' => .float <$> readFraction positive s 0
  | some 'e' | some 'E' => .float <$> readExponent positive s 0
  | _ =>
    if positive then pure (.nat s)
    else if s = 0 then pure (.float (-0))
    else if s ≤ Nat.pow 2 63 then pure (.neg (-(s : Int)))
    else pure (.float (-(Float.ofNat s)))

/-- Read integer digits into the significand while it stays below `2^64`. The digits
    past that point only count towards the exponent. -/
def readSignificand (positive : Bool) : Nat → Nat → Reader JsonNumber
  | 0, s => numberTail positive s
  | fuel + 1, s => do
    match ← peek with
    | some c =>
      if c.isDigit then
        if overflows s (digitOf c) significandMax then do
          let (extra, _) ← readDigitRun (← remaining) (0, 0)
          match ← peek with
          | some '.' => .float <$> readFraction positive s extra
          | some 'e' | some 'E' => .float <$> readExponent positive s extra
          | _ => .float <$> scaled positive s extra
        else do
          eat
          readSignificand positive fuel (10 * s + digitOf c)
      else numberTail positive s
    | none => numberTail positive s

/-- Read a number after its sign. The digits form a significand below `2^64` and a
    decimal exponent; an integer stays an integer while it fits in 64 bits, everything
    else is a double scaled in one step. -/
def readNumberRest (positive : Bool) : Reader JsonNumber := do
  match ← peek with
  | none => failHere eofValue
  | some '0' => do
    eat
    match ← peek with
    | some d => if d.isDigit then failAhead "invalid number" else numberTail positive 0
    | none => numberTail positive 0
  | some c =>
    if c.isDigit then do
      eat
      readSignificand positive (← remaining) (digitOf c)
    else failAhead "invalid number"

/-- How an unexpected value is named in a type error. -/
def describeNumber : JsonNumber → String
  | .nat n => "integer `" ++ toString n ++ "`"
  | .neg n => "integer `" ++ toString n ++ "`"
  | .float f => "floating point `" ++ Text.FloatFormat.exchange.show f ++ "`"

/-- A type error: what was found and what was expected. -/
def typeError (found expected : String) : String :=
  "invalid type: " ++ found ++ ", expected " ++ expected

/-- Read the value at the next character only to report it as being of the wrong type;
    the error is placed at the current position after reading it. -/
def wrongType (expected : String) : Reader α := placed do
  match ← peek with
  | some 'n' => do eat; readWord ['u', 'l', 'l']; failUnplaced (typeError "null" expected)
  | some 't' => do eat; readWord ['r', 'u', 'e']; failUnplaced (typeError "boolean `true`" expected)
  | some 'f' => do
    eat; readWord ['a', 'l', 's', 'e']; failUnplaced (typeError "boolean `false`" expected)
  | some '-' => do
    eat
    let n ← readNumberRest false
    failUnplaced (typeError (describeNumber n) expected)
  | some '"' => do
    eat
    let s ← readStringRest
    failUnplaced (typeError ("string " ++ Text.quote s) expected)
  | some '[' => failUnplaced (typeError "sequence" expected)
  | some '{' => failUnplaced (typeError "map" expected)
  | some c =>
    if c.isDigit then do
      let n ← readNumberRest true
      failUnplaced (typeError (describeNumber n) expected)
    else failAhead "expected value"
  | none => failAhead "expected value"

/-- Read a boolean. -/
def readBool : Reader Bool := placed do
  match ← blank with
  | none => failAhead eofValue
  | some 't' => do eat; readWord ['r', 'u', 'e']; pure true
  | some 'f' => do eat; readWord ['a', 'l', 's', 'e']; pure false
  | some _ => wrongType "a boolean"

/-- Read a string. -/
def readString : Reader String := placed do
  match ← blank with
  | none => failAhead eofValue
  | some '"' => do eat; readStringRest
  | some _ => wrongType "a string"

/-- Read a machine-sized unsigned integer. -/
def readUsize : Reader Nat := placed do
  match ← blank with
  | none => failAhead eofValue
  | some '-' => do
    eat
    match ← readNumberRest false with
    | .neg n => failUnplaced ("invalid value: integer `" ++ toString n ++ "`, expected usize")
    | n => failUnplaced (typeError (describeNumber n) "usize")
  | some c =>
    if c.isDigit then do
      match ← readNumberRest true with
      | .nat n => pure n
      | n => failUnplaced (typeError (describeNumber n) "usize")
    else wrongType "usize"

/-- Skip the rest of a number after its sign, checking only its shape. -/
def skipNumberRest : Reader Unit := do
  match ← peek with
  | some '0' => do
    eat
    match ← peek with
    | some d => if d.isDigit then failAhead "invalid number" else pure ()
    | none => pure ()
  | some c =>
    if '1' ≤ c ∧ c ≤ '9' then do
      eat
      let _ ← readDigitRun (← remaining) (0, 0)
    else failAhead "invalid number"
  | none => failHere "invalid number"
  match ← peek with
  | some '.' => do
    eat
    let (n, _) ← readDigitRun (← remaining) (0, 0)
    if n = 0 then failAhead "invalid number"
  | _ => pure ()
  match ← peek with
  | some 'e' | some 'E' => do
    eat
    match ← peek with
    | some '+' | some '-' => eat
    | _ => pure ()
    match ← peek with
    | some d =>
      if d.isDigit then do eat; let _ ← readDigitRun (← remaining) (0, 0)
      else failAhead "invalid number"
    | none => failHere "invalid number"
  | _ => pure ()

/-- Skip the body of a string after its opening quote, checking its escapes. -/
def skipStringBody : Nat → Reader Unit
  | 0 => failHere eofString
  | fuel + 1 => do
    match ← peek with
    | none => failHere eofString
    | some '"' => eat
    | some '\\' => do
      eat
      match ← peek with
      | none => failHere eofString
      | some e =>
        if e ∈ ['"', '\\', '/', 'b', 'f', 'n', 'r', 't'] then do eat; skipStringBody fuel
        else if e = 'u' then do eat; let _ ← readHex4; skipStringBody fuel
        else failAhead "invalid escape"
    | some c =>
      if c.toNat < 0x20 then failHere "control character (\\u0000-\\u001F) found while parsing a string"
      else do eat; skipStringBody fuel

mutual

/-- Skip any value, checking its syntax; `fuel` bounds the nesting and length. -/
def skipValue : Nat → Reader Unit
  | 0 => failHere "recursion limit exceeded"
  | fuel + 1 => do
    match ← blank with
    | none => failAhead eofValue
    | some 'n' => do eat; readWord ['u', 'l', 'l']
    | some 't' => do eat; readWord ['r', 'u', 'e']
    | some 'f' => do eat; readWord ['a', 'l', 's', 'e']
    | some '-' => do eat; skipNumberRest
    | some '"' => do eat; skipStringBody ((← remaining) + 1)
    | some '[' => do
      eat
      match ← blank with
      | some ']' => eat
      | some _ => skipElements fuel
      | none => failAhead eofList
    | some '{' => do
      eat
      match ← blank with
      | some '}' => eat
      | some _ => skipMembers fuel
      | none => failAhead eofObject
    | some c => if c.isDigit then skipNumberRest else failAhead "expected value"

/-- Skip the elements of an array after its first element starts. -/
def skipElements : Nat → Reader Unit
  | 0 => failHere "recursion limit exceeded"
  | fuel + 1 => do
    skipValue fuel
    match ← blank with
    | some ',' => do eat; skipElements fuel
    | some ']' => eat
    | some _ => failAhead "expected `,` or `]`"
    | none => failAhead eofList

/-- Skip the members of an object after its first member starts. -/
def skipMembers : Nat → Reader Unit
  | 0 => failHere "recursion limit exceeded"
  | fuel + 1 => do
    match ← blank with
    | some '"' => do eat; skipStringBody ((← remaining) + 1)
    | some _ => failAhead "key must be a string"
    | none => failAhead eofObject
    match ← blank with
    | some ':' => eat
    | some _ => failAhead "expected `:`"
    | none => failAhead eofObject
    skipValue fuel
    match ← blank with
    | some ',' => do eat; skipMembers fuel
    | some '}' => eat
    | some _ => failAhead "expected `,` or `\x7d`"
    | none => failAhead eofObject

end

/-- Skip any value. -/
def skipAny : Reader Unit := do skipValue (2 * (← remaining) + 2)

/-- Close an object: the closing brace must come next. -/
def closeObject : Reader Unit := do
  match ← blank with
  | some '}' => eat
  | some ',' => failAhead "trailing comma"
  | some _ => failAhead "trailing characters"
  | none => failAhead eofObject

/-- Close an array: the closing bracket must come next. -/
def closeArray : Reader Unit := do
  match ← blank with
  | some ']' => eat
  | some ',' => do
    eat
    match ← blank with
    | some ']' => failAhead "trailing comma"
    | _ => failAhead "trailing characters"
  | some _ => failAhead "trailing characters"
  | none => failAhead eofList

/-- The key of the next object member, or none at the closing brace. -/
def nextKey (first : Bool) : Reader (Option String) := do
  let peeked ← do
    match ← blank with
    | some '}' => pure none
    | some ',' =>
      if first then pure (some (some ','))
      else do eat; pure (some (← blank))
    | some c => if first then pure (some (some c)) else failAhead "expected `,` or `\x7d`"
    | none => failAhead eofObject
  match peeked with
  | none => pure none
  | some (some '"') => do eat; some <$> readStringRest
  | some (some '}') => failAhead "trailing comma"
  | some (some _) => failAhead "key must be a string"
  | some none => failAhead eofValue

/-- The colon between a member's key and value. -/
def readColon : Reader Unit := do
  match ← blank with
  | some ':' => eat
  | some _ => failAhead "expected `:`"
  | none => failAhead eofObject

/-- Read the next array element with `r`, or none at the closing bracket. -/
def nextElement (first : Bool) (r : Reader α) : Reader (Option α) := do
  let peeked ← do
    match ← blank with
    | some ']' => pure none
    | some ',' =>
      if first then pure (some (some ','))
      else do eat; pure (some (← blank))
    | some c => if first then pure (some (some c)) else failAhead "expected `,` or `]`"
    | none => failAhead eofList
  match peeked with
  | none => pure none
  | some (some ']') => failAhead "trailing comma"
  | some (some _) => some <$> r
  | some none => failAhead eofValue

/-- Read an optional value: `null` or the value. -/
def readOption (r : Reader α) : Reader (Option α) := do
  match ← blank with
  | some 'n' => do eat; readWord ['u', 'l', 'l']; pure none
  | _ => some <$> r

/-- The list of alternatives in an unknown-variant error. -/
def oneOf : List String → String
  | [] => "no variants"
  | [a] => "`" ++ a ++ "`"
  | [a, b] => "`" ++ a ++ "` or `" ++ b ++ "`"
  | names => "one of " ++ ", ".intercalate (names.map (fun n => "`" ++ n ++ "`"))

/-- Pick a variant by name. -/
def pickVariant (variants : List (String × α)) (s : String) : Reader α :=
  match variants.lookup s with
  | some v => pure v
  | none => failUnplaced ("unknown variant `" ++ s ++ "`, expected " ++ oneOf (variants.map (·.1)))

/-- Read a variant name given as a string. -/
def readVariantName (variants : List (String × α)) : Reader α := placed do
  match ← blank with
  | none => failAhead eofValue
  | some '"' => do
    eat
    let s ← readStringRest
    pickVariant variants s
  | some _ => wrongType "variant identifier"

/-- Read a variant without data: its name as a string, or an object with the name
    as its only key and `null` as its value. -/
def readUnitVariant (variants : List (String × α)) : Reader α := do
  match ← blank with
  | some '{' => do
    eat
    let v ← readVariantName variants
    readColon
    placed do
      match ← blank with
      | some 'n' => do eat; readWord ['u', 'l', 'l']
      | some _ => wrongType "unit"
      | none => failAhead eofValue
    match ← blank with
    | some '}' => do eat; pure v
    | some _ => failHere "expected value"
    | none => failHere eofObject
  | some '"' => readVariantName variants
  | some _ => failAhead "expected value"
  | none => failAhead eofValue

/-- Read a record given as an object or as an array of its fields in order. The
    object and array readers run after the opening character; the closing one is
    read even when they fail, so that an error without a position gets the place
    after the record. -/
def readRecord (name : String) (fromObject fromArray : Reader α) : Reader α := placed do
  match ← blank with
  | none => failAhead eofValue
  | some '{' => do
    eat
    let r ← attempt fromObject
    let c ← attempt closeObject
    match r, c with
    | .ok v, .ok () => pure v
    | .error e, _ => throw e
    | _, .error e => throw e
  | some '[' => do
    eat
    let r ← attempt fromArray
    let c ← attempt closeArray
    match r, c with
    | .ok v, .ok () => pure v
    | .error e, _ => throw e
    | _, .error e => throw e
  | some _ => wrongType ("struct " ++ name)

/-- Read the members of a record's object into a state: a known field name is read
    by `field`, at most once; members with other names are skipped. -/
def readMembers (known : List String) (field : σ → String → Reader σ) :
    Nat → Bool → List String → σ → Reader σ
  | 0, _, _, _ => failHere "recursion limit exceeded"
  | fuel + 1, first, seen, acc => do
    match ← nextKey first with
    | none => pure acc
    | some k =>
      if k ∈ known then
        if k ∈ seen then failUnplaced ("duplicate field `" ++ k ++ "`")
        else do
          readColon
          let acc ← field acc k
          readMembers known field fuel false (k :: seen) acc
      else do
        readColon
        skipAny
        readMembers known field fuel false seen acc

/-- Read all members of a record's object. -/
def readFields (known : List String) (field : σ → String → Reader σ) (init : σ) : Reader σ := do
  readMembers known field ((← remaining) + 1) true [] init

/-- Read the entries of a map whose keys name variants, in order, later entries
    replacing earlier ones with the same key. -/
def readEntries [BEq κ] (keys : List (String × κ)) (value : Reader ν) :
    Nat → Bool → List (κ × ν) → Reader (List (κ × ν))
  | 0, _, _ => failHere "recursion limit exceeded"
  | fuel + 1, first, acc => do
    if (← blank) = some '}' then return acc
    let peeked ← do
      match ← blank with
      | some ',' =>
        if first then pure (some ',')
        else do eat; blank
      | some c => if first then pure (some c) else failAhead "expected `,` or `\x7d`"
      | none => failAhead eofObject
    match peeked with
    | some '"' => do
      let k ← readVariantName keys
      readColon
      let v ← value
      readEntries keys value fuel false ((acc.filter (fun e => !(e.1 == k))) ++ [(k, v)])
    | some '}' => failAhead "trailing comma"
    | some _ => failAhead "key must be a string"
    | none => failAhead eofValue

/-- Read a map whose keys name variants. -/
def readMap [BEq κ] (keys : List (String × κ)) (value : Reader ν) : Reader (List (κ × ν)) :=
  placed do
    match ← blank with
    | none => failAhead eofValue
    | some '{' => do
      eat
      let r ← attempt (do readEntries keys value ((← remaining) + 1) true [])
      let c ← attempt closeObject
      match r, c with
      | .ok v, .ok () => pure v
      | .error e, _ => throw e
      | _, .error e => throw e
    | some _ => wrongType "a map"

/-- Read a whole text with `r`: only blanks may follow the value. -/
def parseWith (r : Reader α) (text : String) : Except ReadError α :=
  let run : Reader α := do
    let v ← r
    match ← blank with
    | none => pure v
    | some _ => failAhead "trailing characters"
  (run.run.run { rest := text.toList }).1

end BqnEdit.Json

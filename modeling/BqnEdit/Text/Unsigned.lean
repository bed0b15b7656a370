/-!
# Reading unsigned decimal numbers

An unsigned number is written as an optional `+` and decimal digits, and must fit
below a bound. Reading goes from left to right and stops at the first fault, so a
number that is already too large is reported as such even when a bad character
follows it.
-/

namespace BqnEdit.Text

/-- Why a text is not an unsigned number. -/
inductive NumberFault where
  /-- The text is empty. -/
  | empty
  /-- A character is not a digit (a lone sign counts as one). -/
  | invalidDigit
  /-- The value does not fit. -/
  | tooLarge
  deriving DecidableEq, Repr, Inhabited

namespace NumberFault

/-- The message for a fault. -/
def message : NumberFault → String
  | empty => "cannot parse integer from empty string"
  | invalidDigit => "invalid digit found in string"
  | tooLarge => "number too large to fit in target type"

end NumberFault

/-- Accumulate digits from left to right below `bound`. -/
def readDigits (bound : Nat) : Nat → List Char → Except NumberFault Nat
  | acc, [] => .ok acc
  | acc, c :: cs =>
    if c.isDigit then
      let v := 10 * acc + (c.toNat - '0'.toNat)
      if v < bound then readDigits bound v cs else .error .tooLarge
    else .error .invalidDigit

/-- Read an unsigned decimal number below `bound`: an optional `+`, then at least one
    digit. -/
def parseUnsigned (bound : Nat) (s : String) : Except NumberFault Nat :=
  match s.toList with
  | [] => .error .empty
  | ['+'] => .error .invalidDigit
  | '+' :: cs => readDigits bound 0 cs
  | cs => readDigits bound 0 cs

/-- Read a byte, `0` to `255`. -/
def parseByte? (s : String) : Option Nat :=
  (parseUnsigned 256 s).toOption

end BqnEdit.Text

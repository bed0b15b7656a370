/-!
# Reading decimal numbers as doubles

A decimal number is an optional sign, digits with an optional fraction, and an
optional exponent; `inf`, `infinity` and `nan` in any case are the special values.
It is rounded to the nearest double, so a value too large for a double is infinite
and one too small is zero.

A second, quicker reading scales a significand by one power of ten in double
arithmetic; data formats that read numbers this way can land a unit in the last place
away from the nearest double, and refuse values that would be infinite.
-/

namespace BqnEdit.Text

/-- The double nearest to `m · 10^e`. Exponents far beyond the range of doubles are
    cut short first; they give infinity or zero all the same. -/
def floatOfDecimal (m : Nat) (e : Int) : Float :=
  if m = 0 then 0
  else
    let digits := (toString m).length
    if e > 400 then Float.ofScientific 1 false 400
    else if e + digits < -400 then 0
    else if e ≥ 0 then Float.ofScientific m false e.toNat
    else Float.ofScientific m true (-e).toNat

/-- The double nearest to `10^k`, for `k ≤ 308`; none above, where the power is
    beyond the doubles. -/
def powerOfTen? (k : Nat) : Option Float :=
  if k ≤ 308 then some (Float.ofScientific 1 false k) else none

/-- `m · 10^e` computed with doubles in one step: `m` rounded to a double, then
    multiplied or divided by the double nearest `10^|e|`. Below `10^-308` the division
    goes by `10^308` at a time until the rest of the exponent is in reach or the value
    is zero; `fuel` counts those steps. None when the result would be infinite. -/
def scaleDecimalSteps : Nat → Float → Int → Option Float
  | 0, f, _ => some f
  | fuel + 1, f, e =>
    match powerOfTen? e.natAbs with
    | some p =>
      if 0 ≤ e then
        let g := f * p
        if g.isInf then none else some g
      else some (f / p)
    | none =>
      if f == 0 then some f
      else if 0 ≤ e then none
      else scaleDecimalSteps fuel (f / Float.ofScientific 1 false 308) (e + 308)

/-- `m · 10^e` computed quickly with doubles, for `m` below `2^64`: two roundings, so
    the result can be a unit in the last place away from the nearest double. None when
    it would be infinite. -/
def scaleDecimal (m : Nat) (e : Int) : Option Float :=
  scaleDecimalSteps (e.natAbs / 308 + 1) (Float.ofNat m) e

/-- Digits as a number. -/
def digitValue (ds : List Char) : Nat :=
  ds.foldl (fun acc c => 10 * acc + (c.toNat - '0'.toNat)) 0

/-- Read an unsigned decimal number: digits, an optional fraction and an optional
    exponent, with at least one digit before the exponent. -/
def parseMagnitude? (cs : List Char) : Option Float :=
  let intDigits := cs.takeWhile Char.isDigit
  let rest := cs.dropWhile Char.isDigit
  let (fracDigits, rest) := match rest with
    | '.' :: r => (r.takeWhile Char.isDigit, r.dropWhile Char.isDigit)
    | r => ([], r)
  if intDigits.isEmpty && fracDigits.isEmpty then none
  else
    let expPart : Option Int := match rest with
      | [] => some 0
      | e :: r =>
        if e = 'e' ∨ e = 'E' then
          let (neg, ds) := match r with
            | '-' :: ds => (true, ds)
            | '+' :: ds => (false, ds)
            | ds => (false, ds)
          if ds.isEmpty || !ds.all Char.isDigit then none
          else some (if neg then -(digitValue ds : Int) else digitValue ds)
        else none
    expPart.map fun x =>
      floatOfDecimal (digitValue (intDigits ++ fracDigits)) (x - fracDigits.length)

/-- Read a decimal number or a special value, with an optional sign. -/
def parseFloat? (s : String) : Option Float :=
  let (neg, cs) := match s.toList with
    | '-' :: cs => (true, cs)
    | '+' :: cs => (false, cs)
    | cs => (false, cs)
  let word := String.ofList (cs.map Char.toLower)
  let mag : Option Float :=
    if word = "inf" ∨ word = "infinity" then some (1 / 0)
    else if word = "nan" then some (0 / 0)
    else parseMagnitude? cs
  mag.map fun x => if neg then -x else x

end BqnEdit.Text

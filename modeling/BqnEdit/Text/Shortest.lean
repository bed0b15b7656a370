/-!
# Shortest decimal text of a double

A finite double is an exact binary fraction `m · 2^e`. Every real number strictly
between the midpoints to its two neighbours reads back as the double (the midpoints
themselves read back too when `m` is even, by ties to even). The shortest text of a
double is the decimal with the fewest significant digits in that interval, and of
those the one nearest the double, ties going to an even last digit.

The search walks down the decimal grids `10^k`, from one coarser than the double
itself: the first grid with a point in the interval gives the number of digits, all
in exact natural-number arithmetic.

How the digits are laid out is a format: a record of where exponent notation starts,
whether an integral value keeps a `.0`, and the texts of the special values.
-/

namespace BqnEdit.Text

/-- The parts of a double. -/
inductive FloatParts where
  /-- `(-1)^neg · m · 2^e`; `lowerCloser` when the neighbour below is half as far as
      the one above (the bottom of a binade). -/
  | finite (neg : Bool) (m : Nat) (e : Int) (lowerCloser : Bool)
  | infinite (neg : Bool)
  | nan
  deriving Inhabited

/-- Take a double apart from its bits. -/
def FloatParts.ofFloat (x : Float) : FloatParts :=
  let bits : Nat := x.toBits.toNat
  let neg : Bool := bits / Nat.pow 2 63 % 2 == 1
  let biased : Nat := bits / Nat.pow 2 52 % Nat.pow 2 11
  let frac : Nat := bits % Nat.pow 2 52
  if biased = Nat.pow 2 11 - 1 then (if frac = 0 then .infinite neg else .nan)
  else if biased = 0 then .finite neg frac (-1074) false
  else .finite neg (frac + Nat.pow 2 52) ((biased : Int) - 1075) (frac = 0 && biased > 1)

/-- `x · 2^s` as a fraction `num / den` of natural numbers, scaled by `10^-k`. -/
def scaledFraction (x : Nat) (s k : Int) : Nat × Nat :=
  (x * Nat.pow 2 s.toNat * Nat.pow 10 (-k).toNat, Nat.pow 2 (-s).toNat * Nat.pow 10 k.toNat)

/-- Ceiling of a quotient. -/
def ceilDiv (a b : Nat) : Nat := (a + b - 1) / b

/-- The candidates on the grid `10^k`: the least and greatest multiples in the
    interval of `m · 2^e`, as multiples of `10^k`. -/
def gridBounds (m : Nat) (e : Int) (lowerCloser : Bool) (k : Int) : Nat × Nat :=
  let s := e - 2
  let lo := 4 * m - (if lowerCloser then 1 else 2)
  let hi := 4 * m + 2
  let (nl, dl) := scaledFraction lo s k
  let (nh, dh) := scaledFraction hi s k
  if m % 2 = 0 then (ceilDiv nl dl, nh / dh)
  else (nl / dl + 1, ceilDiv nh dh - 1)

/-- The multiple of `10^k` nearest to `m · 2^e`, ties to even. -/
def nearestOnGrid (m : Nat) (e : Int) (k : Int) : Nat :=
  let (n, d) := scaledFraction (4 * m) (e - 2) k
  let q := n / d
  let r := n % d
  if 2 * r < d then q
  else if 2 * r > d then q + 1
  else if q % 2 = 0 then q else q + 1

/-- The number of binary digits of a natural number. -/
def bitLength (n : Nat) : Nat := (Nat.toDigits 2 n).length

/-- Walk down the grids from `10^k`, at most `fuel` of them, to the first with a
    point in the interval. -/
def searchGrids (m : Nat) (e : Int) (lowerCloser : Bool) : Nat → Int → Nat × Int
  | 0, k => (nearestOnGrid m e k, k)
  | fuel + 1, k =>
    let (a, b) := gridBounds m e lowerCloser k
    if 0 < b ∧ a ≤ b then (min (max (nearestOnGrid m e k) a) b, k)
    else searchGrids m e lowerCloser fuel (k - 1)

/-- The shortest digits of `m · 2^e` (with `m > 0`) as `(d, k)`: the double reads back
    from `d · 10^k`. The search starts on a grid coarser than the upper end of the
    interval, since `log₁₀ 2 < 0.30103`. -/
def shortestDigits (m : Nat) (e : Int) (lowerCloser : Bool) : Nat × Int :=
  let top : Int := ((bitLength (4 * m + 2) : Int) + (e - 2)) * 30103 / 100000 + 2
  searchGrids m e lowerCloser 64 top

/-- How a double is laid out as text. -/
structure FloatFormat where
  /-- An integral value is written with `.0`. -/
  pointZero : Bool
  /-- Exponent notation when the decimal point would stand after more digits than this. -/
  maxPointPos : Option Int
  /-- Exponent notation when the decimal point would stand at or before this position. -/
  minPointPos : Option Int
  /-- A non-negative exponent is written with `+`. -/
  exponentPlus : Bool
  nanText : String
  infText : String

/-- Plain decimal notation: never an exponent, no `.0` on integral values. -/
def FloatFormat.plain : FloatFormat :=
  ⟨false, none, none, false, "NaN", "inf"⟩

/-- Interchange notation: `.0` on integral values, and an exponent, with its sign, for
    values of `10^16` and more or below `10^-5`. -/
def FloatFormat.exchange : FloatFormat :=
  ⟨true, some 16, some (-5), true, "NaN", "inf"⟩

/-- Lay out the digits `ds` of `d · 10^k`, with the decimal point after `p = n + k`
    digits. -/
def FloatFormat.layout (fmt : FloatFormat) (ds : String) (k : Int) : String :=
  let n := ds.length
  let p : Int := n + k
  let zeros (i : Int) : String := String.ofList (List.replicate i.toNat '0')
  let scientific :=
    (match fmt.maxPointPos with | some hi => hi < p | none => false) ||
    (match fmt.minPointPos with | some lo => p ≤ lo | none => false)
  if scientific then
    let mant := match ds.toList with
      | [c] => String.singleton c
      | c :: rest => String.singleton c ++ "." ++ String.ofList rest
      | [] => "0"
    let e := p - 1
    mant ++ "e" ++ (if fmt.exponentPlus && 0 ≤ e then "+" else "") ++ toString e
  else if 0 ≤ k then ds ++ zeros k ++ (if fmt.pointZero then ".0" else "")
  else if 0 < p then
    String.ofList (ds.toList.take p.toNat) ++ "." ++ String.ofList (ds.toList.drop p.toNat)
  else "0." ++ zeros (-p) ++ ds

/-- The shortest decimal `(-1)^neg · d · 10^k` that reads back as a finite double, as
    `(neg, d, k)`; zero has `d = 0`, and infinities and NaN have none. -/
def shortestDecimal? (x : Float) : Option (Bool × Nat × Int) :=
  match FloatParts.ofFloat x with
  | .finite neg m e lc =>
    if m = 0 then some (neg, 0, 0)
    else
      let (d, k) := shortestDigits m e lc
      some (neg, d, k)
  | _ => none

/-- The shortest text of a double in a format. -/
def FloatFormat.show (fmt : FloatFormat) (x : Float) : String :=
  match FloatParts.ofFloat x with
  | .nan => fmt.nanText
  | .infinite neg => (if neg then "-" else "") ++ fmt.infText
  | .finite neg m e lc =>
    let sign := if neg then "-" else ""
    if m = 0 then sign ++ (if fmt.pointZero then "0.0" else "0")
    else
      let (d, k) := shortestDigits m e lc
      sign ++ fmt.layout (toString d) k

end BqnEdit.Text

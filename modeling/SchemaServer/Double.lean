/-! # Binary floating-point numbers

`Double` is a finite binary64 number: a sign, a mantissa below `2 ^ 53` and an exponent, with the
value `± mantissa · 2 ^ exponent`.  Arithmetic rounds the exact result to the nearest number, a
half going to the even mantissa; everything is computed on natural numbers.

`Double.text` writes a number with the fewest decimal digits that read back as it. -/

namespace SchemaServer

/-- A finite binary64 number.  The exponent is at least `-1074`, and the mantissa is below `2 ^ 52`
    only at that exponent. -/
structure Double where
  negative : Bool
  mantissa : Nat
  exponent : Int
deriving DecidableEq, Repr, Inhabited

namespace Double

/-! ## Rounding -/

def minExponent : Int := -1074

def maxExponent : Int := 971

/-- The least mantissa of a number above the least exponent: `2 ^ 52`. -/
def mantissaStart : Nat := 4503599627370496

/-- The first number that is too large for a mantissa: `2 ^ 53`. -/
def mantissaEnd : Nat := 9007199254740992

/-- The natural number nearest to `n / d`, a half going to the even neighbour. -/
def roundDiv (n d : Nat) : Nat :=
  let q := n / d
  let r := n % d
  if 2 * r < d then q else if d < 2 * r then q + 1 else if q % 2 = 0 then q else q + 1

/-- The fraction `n / d` divided by `2 ^ e`. -/
def scale (n d : Nat) (e : Int) : Nat × Nat :=
  if 0 ≤ e then (n, d * Nat.pow 2 e.toNat) else (n * Nat.pow 2 (-e).toNat, d)

def zero : Double := ⟨false, 0, minExponent⟩

def isZero (x : Double) : Bool := x.mantissa == 0

/-- The number nearest to the fraction `n / d`, or nothing if that is above the greatest number. -/
def ofRatio (n d : Nat) : Option Double :=
  if n = 0 then some zero
  else
    let low : Int := max ((Nat.log2 n : Int) - Nat.log2 d - 53) minExponent
    let (n', d') := scale n d low
    -- The estimate is at most one too low, and rounding may still reach the next power of two.
    let e := if mantissaEnd ≤ n' / d' then low + 1 else low
    let (n'', d'') := scale n d e
    let m := roundDiv n'' d''
    let (m, e) := if m = mantissaEnd then (mantissaStart, e + 1) else (m, e)
    if maxExponent < e then none else some ⟨false, m, e⟩

def ratio (x : Double) : Nat × Nat :=
  if 0 ≤ x.exponent then (x.mantissa * Nat.pow 2 x.exponent.toNat, 1)
  else (x.mantissa, Nat.pow 2 (-x.exponent).toNat)

/-- The product of two magnitudes.  Signs are left aside, here and in `div`, `add` and `atMost`. -/
def mul (x y : Double) : Option Double :=
  let (a, b) := x.ratio
  let (c, d) := y.ratio
  ofRatio (a * c) (b * d)

def div (x y : Double) : Option Double :=
  let (a, b) := x.ratio
  let (c, d) := y.ratio
  ofRatio (a * d) (b * c)

def add (x y : Double) : Option Double :=
  let (a, b) := x.ratio
  let (c, d) := y.ratio
  ofRatio (a * d + c * b) (b * d)

def atMost (x y : Double) : Bool :=
  let (a, b) := x.ratio
  let (c, d) := y.ratio
  a * d ≤ c * b

def withSign (negative : Bool) (x : Double) : Double := { x with negative }

/-! ## Reading a decimal

A decimal `significand · 10 ^ exponent` is scaled by one multiplication or division with a power of
ten; below `10 ^ -308` a division by `10 ^ 308` comes first, as often as needed. -/

def powerOfTen (k : Nat) : Double := (ofRatio (Nat.pow 10 k) 1).getD zero

/-- Divide by `10 ^ 308` the given number of times, or until nothing is left. -/
def shrink : Nat → Double → Double
  | 0, x => x
  | times + 1, x => if x.isZero then x else shrink times ((x.div (powerOfTen 308)).getD zero)

/-- Divide by `10 ^ k`, in steps of at most `10 ^ 308`. -/
def divPowerOfTen (x : Double) (k : Nat) : Double :=
  let steps := (k - 1) / 308
  let y := shrink steps x
  if y.isZero then y else (y.div (powerOfTen (k - 308 * steps))).getD zero

/-- The number read for `significand · 10 ^ exponent`, or nothing if it is out of range. -/
def ofDecimal (significand : Nat) (exponent : Int) : Option Double :=
  let x := (ofRatio significand 1).getD zero
  if exponent < 0 then some (x.divPowerOfTen exponent.natAbs)
  else if exponent ≤ 308 then x.mul (powerOfTen exponent.toNat)
  else if x.isZero then some x
  else none

/-! ## Writing the fewest digits -/

/-- The numerators, over one denominator, of the least value, the value itself and the greatest
    value that round to a number, and the denominator. -/
structure Interval where
  low : Nat
  mid : Nat
  high : Nat
  den : Nat
  /-- Whether the ends round to the number too. -/
  closed : Bool

def interval (x : Double) : Interval :=
  let e := x.exponent - 2
  let factor := if 0 ≤ e then Nat.pow 2 e.toNat else 1
  let below := if x.mantissa = mantissaStart ∧ x.exponent ≠ minExponent then 1 else 2
  { low := (4 * x.mantissa - below) * factor
    mid := 4 * x.mantissa * factor
    high := (4 * x.mantissa + 2) * factor
    den := if 0 ≤ e then 1 else Nat.pow 2 (-e).toNat
    closed := x.mantissa % 2 == 0 }

/-- The power of ten of the leading digit of a positive fraction. -/
def leadingPower (n d : Nat) : Int :=
  if d ≤ n then ((Nat.toDigits 10 (n / d)).length : Int) - 1
  else
    let k := (Nat.toDigits 10 (d / n)).length
    if d ≤ n * Nat.pow 10 (k - 1) then -((k - 1 : Nat) : Int) else -(k : Int)

/-- The multiple of `10 ^ p` nearest to the value among its two neighbours on that grid, if one of
    them rounds to the number; an exact half goes to the even multiple. -/
def Interval.onGrid (i : Interval) (p : Int) : Option Nat :=
  let up := Nat.pow 10 (-p).toNat
  let unit := i.den * Nat.pow 10 p.toNat
  let mid := i.mid * up
  let inside (c : Nat) : Bool :=
    let v := c * unit
    if i.closed then i.low * up ≤ v && v ≤ i.high * up else i.low * up < v && v < i.high * up
  let a := mid / unit
  match inside a, inside (a + 1) with
  | true, true =>
    let r := mid % unit
    some (if 2 * r < unit || (2 * r == unit && a % 2 == 0) then a else a + 1)
  | true, false => some a
  | false, true => some (a + 1)
  | false, false => none

/-- The fewest significant digits that read back as the number, and the power of ten of the first
    one. -/
def digits (x : Double) : List Char × Int :=
  let i := x.interval
  let lead := leadingPower i.mid i.den
  let hit := (List.range 17).findSome? fun (k : Nat) =>
    let p := lead - (k : Int)
    (i.onGrid p).map fun c => (c, p)
  let (c, p) := hit.getD (0, 0)
  let ds := Nat.toDigits 10 c
  ((ds.reverse.dropWhile (· == '0')).reverse, p + ds.length - 1)

/-- Numbers whose leading digit stands at a power of ten between these are written positionally. -/
def positional : Int × Int := (-5, 15)

/-- Positional notation, with at least one digit on either side of the point. -/
def positionalText (ds : List Char) (lead : Int) : List Char :=
  if lead < 0 then ['0', '.'] ++ List.replicate ((-lead).toNat - 1) '0' ++ ds
  else
    let whole := lead.toNat + 1
    if ds.length ≤ whole then ds ++ List.replicate (whole - ds.length) '0' ++ ['.', '0']
    else ds.take whole ++ ['.'] ++ ds.drop whole

/-- Scientific notation: the exponent always has a sign. -/
def scientificText (ds : List Char) (lead : Int) : List Char :=
  ds.take 1 ++ (if ds.length ≤ 1 then [] else '.' :: ds.drop 1) ++
    ['e', if lead < 0 then '-' else '+'] ++ Nat.toDigits 10 lead.natAbs

def text (x : Double) : String :=
  let sign := if x.negative then ['-'] else []
  let magnitude :=
    if x.isZero then ['0', '.', '0']
    else
      let (ds, lead) := x.digits
      if positional.1 ≤ lead ∧ lead ≤ positional.2 then positionalText ds lead
      else scientificText ds lead
  String.ofList (sign ++ magnitude)

end Double

end SchemaServer

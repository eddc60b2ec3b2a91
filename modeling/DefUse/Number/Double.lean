/-!
# Number/Double — double-precision numbers as exact data

A double is kept as the integers it is made of, `mantissa · 2 ^ exponent` with a sign, so that
reading a decimal and writing one are exact arithmetic on `Nat` and two doubles are compared by
deciding an equation.  `Double.ofRatio` is the one place where rounding happens: it takes the
nearest double of a quotient, a half going to the even mantissa.
-/

namespace DefUse

/-- **A double-precision number.**  `finite neg m e` is `± m · 2 ^ e` with `m < 2 ^ 53` and
`-1074 ≤ e ≤ 971`, and `m` is at least `2 ^ 52` unless `e = -1074`; both zeros have `m = 0`. -/
inductive Double where
  | finite (negative : Bool) (mantissa : Nat) (exponent : Int)
  | infinite (negative : Bool)
  | nan
  deriving DecidableEq, Repr, Inhabited

namespace Double

/-- The exponent of the smallest positive double. -/
def leastExponent : Int := -1074

/-- The exponent of the largest doubles. -/
def greatestExponent : Int := 971

/-- A zero, with its sign. -/
def zero (negative : Bool) : Double := .finite negative 0 leastExponent

/-- `num / den` to the nearest natural number, a half going to the even neighbour. -/
def divNearest (num den : Nat) : Nat :=
  let q := num / den
  let twice := 2 * (num % den)
  if twice < den then q
  else if den < twice then q + 1
  else if q % 2 = 0 then q else q + 1

/-- `num / den` as a pair with the power of two `2 ^ (-e)` multiplied in. -/
def scaled (num den : Nat) (e : Int) : Nat × Nat :=
  if e < 0 then (num * Nat.pow 2 (-e).toNat, den) else (num, den * Nat.pow 2 e.toNat)

/-- The exponent at which `num / den` has a mantissa of 53 bits, or the least one. -/
def exponentFor (num den : Nat) : Int :=
  let guess := max ((num.log2 : Int) - den.log2 - 53) leastExponent
  let (n, d) := scaled num den guess
  if n / d < Nat.pow 2 53 then guess else guess + 1

/-- **The nearest double of `num / den`**, for a positive `den`. -/
def ofRatio (negative : Bool) (num den : Nat) : Double :=
  if num = 0 then zero negative
  else
    let e := exponentFor num den
    let (n, d) := scaled num den e
    let m := divNearest n d
    let (m, e) := if m = Nat.pow 2 53 then (Nat.pow 2 52, e + 1) else (m, e)
    if greatestExponent < e then .infinite negative else .finite negative m e

/-- The number of decimal digits of a natural number. -/
def digitCount (n : Nat) : Nat := (Nat.toDigits 10 n).length

/-- **The nearest double of `digits · 10 ^ exponent`.**  Beyond the range of doubles the power is
not computed: the outcome is an infinity or a zero. -/
def ofDecimal (negative : Bool) (digits : Nat) (exponent : Int) : Double :=
  if digits = 0 then zero negative
  else
    let top := exponent + digitCount digits
    if 400 < top then .infinite negative
    else if top < -400 then zero negative
    else if exponent < 0 then ofRatio negative digits (Nat.pow 10 (-exponent).toNat)
    else ofRatio negative (digits * Nat.pow 10 exponent.toNat) 1

/-- The magnitude of a finite double as a quotient of natural numbers. -/
def ratio (mantissa : Nat) (exponent : Int) : Nat × Nat :=
  if exponent < 0 then (mantissa, Nat.pow 2 (-exponent).toNat)
  else (mantissa * Nat.pow 2 exponent.toNat, 1)

end Double

end DefUse

import DefUse.Number.Double

/-!
# Number/Shortest — the shortest decimal text of a double

The text of a double has the fewest digits that read back as the same double and, of those, the
ones nearest to it.  `Double.shortest` finds the digits by testing, for each number of digits, the
two neighbours of the value on that decimal grid with the reader itself; `Double.text` lays them
out.  The layout's decisions are the fields of `NumberStyle.plain`.
-/

namespace DefUse

/-- A decimal `digits · 10 ^ exponent`. -/
structure Decimal where
  digits : Nat
  exponent : Int
  deriving DecidableEq, Repr

namespace Decimal

/-- Drop trailing zeros from the digits, at most `fuel` of them. -/
def trim : Nat → Decimal → Decimal
  | 0, d => d
  | fuel + 1, d =>
    if d.digits ≠ 0 ∧ d.digits % 10 = 0 then trim fuel ⟨d.digits / 10, d.exponent + 1⟩ else d

/-- The decimal with no trailing zero among its digits. -/
def reduced (d : Decimal) : Decimal := d.trim (Double.digitCount d.digits)

end Decimal

namespace Double

/-- How far a value is scaled up to have its leading digit counted: more than any double needs. -/
def probeScale : Nat := 400

/-- The `k` with `10 ^ (k - 1) ≤ num / den < 10 ^ k`. -/
def decimalTop (num den : Nat) : Int :=
  (digitCount (num * Nat.pow 10 probeScale / den) : Int) - probeScale

/-- `num / den` counted in units of `10 ^ e`, as a pair. -/
def inUnits (num den : Nat) (e : Int) : Nat × Nat :=
  if e < 0 then (num * Nat.pow 10 (-e).toNat, den) else (num, den * Nat.pow 10 e.toNat)

/-- The first of two candidates in units of `10 ^ e` that reads back as `x`. -/
def firstRead? (x : Double) (near far : Nat) (e : Int) : Option Decimal :=
  if ofDecimal false near e = x then some ⟨near, e⟩
  else if ofDecimal false far e = x then some ⟨far, e⟩
  else none

/-- Of the two `n`-digit neighbours of `num / den`, the one that reads back as `x`; the nearer if
both do, and of two equally near the even one. -/
def atDigits? (x : Double) (num den : Nat) (n : Nat) : Option Decimal :=
  let e := decimalTop num den - n
  let units := inUnits num den e
  let low := units.1 / units.2
  let near := divNearest units.1 units.2
  firstRead? x near (if near = low then low + 1 else low) e

/-- **The shortest decimal that reads back**, for a positive value.  Seventeen digits always read
back, so the exact value given when none of them does is never reached for a double. -/
def shortest (mantissa : Nat) (exponent : Int) : Decimal :=
  let (num, den) := ratio mantissa exponent
  let found := (List.range 17).findSome? fun i =>
    atDigits? (.finite false mantissa exponent) num den (i + 1)
  let exact := mantissa * Nat.pow 5 (-exponent).toNat * Nat.pow 2 exponent.toNat
  (found.getD ⟨exact, min exponent 0⟩).reduced

end Double

/-- How a double is laid out: where positional notation ends on either side, and the texts of the
numbers that are not finite. -/
structure NumberStyle where
  /-- The least decimal exponent written positionally. -/
  least : Int
  /-- The least decimal exponent, above `least`, written with a power again. -/
  greatest : Int
  infinity : String
  notANumber : String

/-- Positional from `0.0001` up to below `10 ^ 16`. -/
def NumberStyle.plain : NumberStyle := ⟨-4, 16, "inf", "nan"⟩

/-- The digits with a point after the first `n`, padded with zeros to have a digit on both sides. -/
def placePoint (digits : String) (n : Int) : String :=
  let size : Int := digits.length
  if n ≤ 0 then "0." ++ "".pushn '0' (-n).toNat ++ digits
  else if size ≤ n then digits ++ "".pushn '0' (n - size).toNat ++ ".0"
  else (digits.take n.toNat).toString ++ "." ++ (digits.drop n.toNat).toString

/-- An exponent with its sign and at least two digits. -/
def exponentText (e : Int) : String :=
  let digits := toString e.natAbs
  (if e < 0 then "-" else "+") ++ (if digits.length < 2 then "0" ++ digits else digits)

/-- The layout of a positive decimal. -/
def NumberStyle.layout (style : NumberStyle) (d : Decimal) : String :=
  let digits := toString d.digits
  let power := d.exponent + digits.length - 1
  if style.least ≤ power ∧ power < style.greatest then placePoint digits (power + 1)
  else
    let head := (digits.take 1).toString
    let tail := (digits.drop 1).toString
    (if tail.isEmpty then head else head ++ "." ++ tail) ++ "e" ++ exponentText power

namespace Double

/-- **The text of a double** in a given notation. -/
def render (style : NumberStyle) : Double → String
  | .nan => style.notANumber
  | .infinite negative => (if negative then "-" else "") ++ style.infinity
  | .finite negative m e =>
    (if negative then "-" else "") ++
      (if m = 0 then "0.0" else style.layout (shortest m e))

/-- The text of a double as messages show it. -/
def text (x : Double) : String := x.render .plain

end Double

end DefUse

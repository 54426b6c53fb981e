-- SUMMARY: Numbers of the 64-bit floating point format: reading decimals and writing the shortest one that reads back.

/-!
# Numbers with a fraction

Such a number is one of the 64-bit floating point format. Its text has the fewest digits that
no other number of that format is nearer to, written out between 10⁻⁵ and 10¹⁶ and with an
exponent beyond.
-/

namespace PathGlob.Decimal

/-- A number `mantissa · 2 ^ exponent` of the 64-bit format, its sign left out. -/
structure Double where
  mantissa : Nat
  exponent : Int
  deriving DecidableEq

/-- The quotient rounded to the nearest whole number, a half to the even one. -/
def roundDiv (num den : Nat) : Nat :=
  let q := num / den
  let r := num % den
  if 2 * r < den then q else if den < 2 * r then q + 1 else q + q % 2

/-- `num / den` scaled by `2 ^ (-e)`, as a fraction. -/
def scale (num den : Nat) (e : Int) : Nat × Nat :=
  if 0 ≤ e then (num, den * Nat.pow 2 e.toNat) else (num * Nat.pow 2 (-e).toNat, den)

/-- The number of the 64-bit format nearest to `num / den`. -/
def nearest (num den : Nat) : Double :=
  let guess : Int := (num.log2 : Int) - den.log2 - 52
  let ratio := fun e => let p := scale num den e; p.1 / p.2
  let e := if ratio guess < Nat.pow 2 52 then guess - 1 else guess
  let e := max e (-1074)
  let p := scale num den e
  let m := roundDiv p.1 p.2
  if m = Nat.pow 2 53 then ⟨Nat.pow 2 52, e + 1⟩ else ⟨m, e⟩

/-! ## Reading -/

/-- A number as a fraction. -/
def Double.fraction (x : Double) : Nat × Nat := scale x.mantissa 1 (-x.exponent)

/-- The product, rounded. -/
def Double.mul (x y : Double) : Double :=
  nearest (x.fraction.1 * y.fraction.1) (x.fraction.2 * y.fraction.2)

/-- The quotient, rounded. -/
def Double.div (x y : Double) : Double :=
  nearest (x.fraction.1 * y.fraction.2) (x.fraction.2 * y.fraction.1)

def powerOfTen (n : Nat) : Double := nearest (Nat.pow 10 n) 1

/-- The largest power of ten of the format. -/
def maxPower : Nat := 308

/-- The largest exponent of the format. -/
def maxExponent : Int := 971

/-- `digits` times ten to the `power`, unless it is too large. Digits and power of ten are rounded
each, and so is what they give; a power below the least one is divided out in two steps, after
which nothing is left of one still lower. -/
def ofScientific? (digits : Nat) (power : Int) : Option Double :=
  let x := nearest digits 1
  if digits = 0 then some x
  else if 0 ≤ power then
    let y := x.mul (powerOfTen power.toNat)
    if power ≤ maxPower ∧ y.exponent ≤ maxExponent then some y else none
  else
    let n := (-power).toNat
    if n ≤ maxPower then some (x.div (powerOfTen n))
    else if n ≤ 2 * maxPower then
      some ((x.div (powerOfTen maxPower)).div (powerOfTen (n - maxPower)))
    else some ⟨0, 0⟩

/-! ## Writing -/

/-- Whether the fraction `num / den` is nearest to `x`; ties belong to an even mantissa. -/
def Double.isNearestTo (x : Double) (num den : Nat) : Bool :=
  let lowStep := if x.mantissa = Nat.pow 2 52 ∧ -1074 < x.exponent then 1 else 2
  -- bounds in units of a quarter of the last place
  let p := scale num den (x.exponent - 2)
  let low := 4 * x.mantissa - lowStep
  let high := 4 * x.mantissa + 2
  if x.mantissa % 2 = 0 then low * p.2 ≤ p.1 && p.1 ≤ high * p.2
  else low * p.2 < p.1 && p.1 < high * p.2

/-- `d · 10 ^ k` as a fraction. -/
def tenths (d : Nat) (k : Int) : Nat × Nat :=
  if 0 ≤ k then (d * Nat.pow 10 k.toNat, 1) else (d, Nat.pow 10 (-k).toNat)

/-- The decimal on the grid of step `10 ^ k` that is nearest to `x`, if it reads back. -/
def Double.onGrid? (x : Double) (k : Int) : Option Nat :=
  let v := x.fraction
  let g := tenths 1 k
  let d := roundDiv (v.1 * g.2) (v.2 * g.1)
  let t := tenths d k
  if x.isNearestTo t.1 t.2 then some d else none

/-- The coarsest grid from `k` down, in at most `n` steps, on which `x` has a decimal. -/
def Double.shortestFrom (x : Double) : Nat → Int → Nat × Int
  | 0, k => (0, k)
  | n + 1, k => match x.onGrid? k with
    | some d => (d, k)
    | none => x.shortestFrom n (k - 1)

/-- The digits `d` and the power `k` of the shortest decimal `d · 10 ^ k` nearest to `x`. -/
def Double.shortest (x : Double) : Nat × Int :=
  let v := x.fraction
  let top : Int := ((Nat.toDigits 10 (v.1 / v.2)).length : Int)
  let start : Int := if v.2 ≤ v.1 then top else -((Nat.toDigits 10 (v.2 / v.1)).length : Int) + 1
  x.shortestFrom 25 start

def zeros (n : Nat) : List Char := List.replicate n '0'

/-- Writes the digits `ds` times ten to the `k`. -/
def layout (ds : List Char) (k : Int) : List Char :=
  let point : Int := ds.length + k
  if 0 ≤ k ∧ point ≤ 16 then ds ++ zeros k.toNat ++ ['.', '0']
  else if 0 < point ∧ point ≤ 16 then ds.take point.toNat ++ '.' :: ds.drop point.toNat
  else if -5 < point ∧ point ≤ 0 then '0' :: '.' :: zeros (-point).toNat ++ ds
  else
    let head := ds.take 1
    let tail := ds.drop 1
    let fraction := if tail.isEmpty then [] else '.' :: tail
    let exponent := point - 1
    let sign := if exponent < 0 then '-' else '+'
    head ++ fraction ++ 'e' :: sign :: Nat.toDigits 10 exponent.natAbs

/-- The text of a number, or of its opposite if `negative`. Zero keeps its sign. -/
def text (negative : Bool) (x : Double) : String :=
  let body :=
    if x.mantissa = 0 then ['0', '.', '0']
    else layout (Nat.toDigits 10 x.shortest.1) x.shortest.2
  String.ofList (if negative then '-' :: body else body)

end PathGlob.Decimal

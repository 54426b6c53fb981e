-- SUMMARY: Numbers as they are written in documents, and which of them are integers.
import PathGlob.Document

/-!
# Numerals

A number written without fraction and exponent is an integer if it has a 64-bit form. All other
numbers are decimals, however they could be written.
-/

namespace PathGlob

/-- A number as it is written, with the digits before and after the point. -/
structure Numeral where
  negative : Bool
  whole : List Nat
  fraction : Option (List Nat)
  exponent : Option Int

namespace Numeral

/-- Appends digits to a number as long as it keeps to 64 bits. Returns the digits left over. -/
def appendDigits (n : Nat) : List Nat → Nat × List Nat
  | [] => (n, [])
  | d :: ds => if 10 * n + d < UInt64.size then appendDigits (10 * n + d) ds else (n, d :: ds)

/-- The integer that a numeral without fraction and exponent writes, if it has a 64-bit form. Minus
zero has none. -/
def integer? (negative : Bool) (digits : List Nat) : Option Int :=
  match appendDigits 0 digits with
  | (n, []) =>
    if !negative then some n
    else if 0 < n ∧ n ≤ UInt64.size / 2 then some (-n)
    else none
  | _ => none

/-- The size of the number that a numeral writes. Digits that do not fit count only for the place
of the others. -/
def double? (d : Numeral) : Option Decimal.Double :=
  let fraction := d.fraction.getD []
  let (n, more) := appendDigits 0 d.whole
  let (n, left) := appendDigits n fraction
  let power := (more.length : Int) - (fraction.length - left.length : Nat) + d.exponent.getD 0
  Decimal.ofScientific? n power

/-- The document that a numeral writes, unless its number is too large. -/
def toDocument? (d : Numeral) : Option Document :=
  let whole := if d.fraction.isNone && d.exponent.isNone then integer? d.negative d.whole else none
  match whole with
  | some n => some (.integer n)
  | none => d.double?.map (.decimal d.negative)

end Numeral

end PathGlob

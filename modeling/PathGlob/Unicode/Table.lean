-- SUMMARY: Named sets of characters, each written as hexadecimal code point ranges.
import PathGlob.CharSet

/-!
# Tables of named character sets

A table entry writes its code points in hexadecimal, one word a range: `41-5A` for a
range, `AA` for a single code point. An entry is read when its set is asked for.
-/

namespace PathGlob.Unicode

/-- The value of a hexadecimal digit. -/
def hexValue? (c : Char) : Option Nat :=
  if '0' ≤ c ∧ c ≤ '9' then some (c.toNat - '0'.toNat)
  else if 'a' ≤ c ∧ c ≤ 'f' then some (c.toNat - 'a'.toNat + 10)
  else if 'A' ≤ c ∧ c ≤ 'F' then some (c.toNat - 'A'.toNat + 10)
  else none

/-- The range read so far: `first` is its start if its end is being read, `value` the number
read last. -/
def finishedRange (first value : Option Nat) : List (Nat × Nat) :=
  (value.map fun v => (first.getD v, v)).toList

/-- Reads the ranges of a table entry. -/
def readRanges : (first value : Option Nat) → List Char → List (Nat × Nat)
  | first, value, [] => finishedRange first value
  | first, value, c :: cs =>
    if c = '-' then readRanges value none cs
    else match hexValue? c with
      | some d => readRanges first (some (16 * value.getD 0 + d)) cs
      | none => finishedRange first value ++ readRanges none none cs

/-- A set of characters with the names it goes by, in loose spelling (lower case, no
spaces, hyphens or underscores), and its table entry. -/
structure NamedSet where
  names : List String
  ranges : String

namespace NamedSet

def toCharSet (s : NamedSet) : CharSet := .ofRanges (readRanges none none s.ranges.toList)

/-- The first set of a table with a given name. -/
def find? (table : List NamedSet) (name : String) : Option NamedSet :=
  table.find? fun s => s.names.contains name

end NamedSet

end PathGlob.Unicode

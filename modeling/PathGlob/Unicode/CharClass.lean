-- SUMMARY: The character classes that regular expressions name with one letter: word characters, digits, blanks.
import PathGlob.Unicode.Additions
import PathGlob.Unicode.BinaryProperty
import PathGlob.Unicode.GeneralCategory

/-!
# Word characters, digits and blanks
-/

namespace PathGlob.Unicode

/-- The code points with the property White_Space. -/
def blankRanges : List (Nat × Nat) :=
  [(0x9, 0xD), (0x20, 0x20), (0x85, 0x85), (0xA0, 0xA0), (0x1680, 0x1680), (0x2000, 0x200A),
    (0x2028, 0x2029), (0x202F, 0x202F), (0x205F, 0x205F), (0x3000, 0x3000)]

def isBlank (c : Char) : Bool := CharSet.covers blankRanges c.toNat

def blanks : CharSet := .ofRanges blankRanges

/-- The characters of a general category or group, none if there is no such category. -/
def category (name : String) : CharSet := (generalCategory? name).getD .empty

/-- The characters with a binary property, none if there is no such property. -/
def property (name : String) : CharSet := (binaryProperty? name).getD .empty

/-- Decimal digits of any script. -/
def digits : CharSet := category "nd"

/-- Characters with the property Alphabetic. -/
def letters : CharSet := property "alphabetic"

/-- What words are made of: letters, marks, decimal digits, connector punctuation and
the joining controls. -/
def wordChars : CharSet :=
  .unions [letters, category "m", digits, category "pc", property "joincontrol"]

/-- Whether a character belongs to words. ASCII is decided without the tables. -/
def isWordChar (c : Char) : Bool :=
  if c.toNat < 0x80 then c.isAlphanum || c == '_' else wordChars.contains c

/-- Whether a character is a letter of names. ASCII is decided without the tables. -/
def isLetter (c : Char) : Bool :=
  if c.toNat < 0x80 then c.isAlpha else letters.contains c || (added "letter").contains c

/-- Whether a character is a number of names, of any kind, fractions and numerals included. ASCII
is decided without the tables. -/
def isNumber (c : Char) : Bool :=
  if c.toNat < 0x80 then c.isDigit else (category "n").contains c || (added "number").contains c

end PathGlob.Unicode

-- SUMMARY: Reading the small parts of a regular expression: blanks and comments, runs of characters, numbers.
import PathGlob.Unicode.CharClass

/-!
# Reading characters

In verbose mode, blanks and comments (from `#` to the end of the line) may stand between
the parts of an expression and do not count. A reader returns what it read with the text
after it, or nothing where the text is not an expression.
-/

namespace PathGlob.Regex

open PathGlob.Unicode

/-- Drops blanks and comments, starting inside a comment if `comment` holds. -/
def dropBlanks (comment : Bool) : List Char → List Char
  | [] => []
  | c :: cs =>
    if comment then dropBlanks (c != '\n') cs
    else if isBlank c then dropBlanks false cs
    else if c = '#' then dropBlanks true cs
    else c :: cs

/-- The text from the next character that counts. -/
def skip (verbose : Bool) (cs : List Char) : List Char :=
  if verbose then dropBlanks false cs else cs

/-- Takes characters with the property `p`, at most `limit` of them, over blanks and comments
in verbose mode. -/
def takeSpaced (verbose : Bool) (p : Char → Bool) :
    (limit : Nat) → (comment : Bool) → List Char → List Char × List Char
  | _, _, [] => ([], [])
  | limit, true, c :: cs => takeSpaced verbose p limit (c != '\n') cs
  | 0, false, c :: cs => ([], c :: cs)
  | limit + 1, false, c :: cs =>
    if verbose && isBlank c then takeSpaced verbose p (limit + 1) false cs
    else if verbose && c == '#' then takeSpaced verbose p (limit + 1) true cs
    else if p c then
      let r := takeSpaced verbose p limit false cs
      (c :: r.1, r.2)
    else ([], c :: cs)

/-- Takes all characters with the property `p`, over blanks and comments in verbose mode. -/
def takeAll (verbose : Bool) (p : Char → Bool) (cs : List Char) : List Char × List Char :=
  takeSpaced verbose p cs.length false cs

/-- The number that some digits write in a base. -/
def valueOf (base : Nat) (ds : List Char) : Nat :=
  ds.foldl (fun n d => base * n + (hexValue? d).getD 0) 0

/-- Reads a decimal number below 2³². -/
def readNumber (verbose : Bool) (cs : List Char) : Option (Nat × List Char) :=
  let (ds, rest) := takeAll verbose Char.isDigit (cs.dropWhile isBlank)
  let n := valueOf 10 ds
  if ds.isEmpty || UInt32.size ≤ n then none else some (n, rest.dropWhile isBlank)

end PathGlob.Regex

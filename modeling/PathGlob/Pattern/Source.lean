-- SUMMARY: The regex source that a pattern stands for.
import PathGlob.Pattern

/-!
# Regex source of a pattern

Declarations become named capture groups, numbered in the order of the text, and
constraints are spliced in as they are written. The source is anchored at both ends.
-/

namespace PathGlob.Pattern

/-- What an unconstrained variable matches. -/
def defaultVariable : String := "[^/]+"

/-- What `*` matches. -/
def segmentWildcard : String := "[^/]*"

/-- What `**` matches together with the slash after it. -/
def nestedDirectories : String := "(?:[^/]+/)*"

/-- What `**` matches. -/
def anyPath : String := ".*"

/-- The name of the group that captures the `n`-th declaration. -/
def slotName (n : Nat) : String := "__var" ++ toString n

/-- Whether a character needs a backslash to stand for itself in a regex. -/
def isSpecial (c : Char) : Bool := "\\.+*?()|[]\x7b\x7d^$".toList.contains c

def quoteChar (c : Char) : List Char := if isSpecial c then ['\\', c] else [c]

/-- The source of a pattern whose first declaration is the `n`-th. -/
def render (n : Nat) : Pattern → List Char
  | .empty => []
  | .literal c => quoteChar c
  | .segment => segmentWildcard.toList
  | .directories => nestedDirectories.toList
  | .anything => anyPath.toList
  | .var d =>
    "(?P<".toList ++ (slotName n).toList ++ '>' :: (d.constraint.getD defaultVariable).toList ++ [')']
  | .seq p q => p.render n ++ q.render (n + p.arity)
  | .alt p q => p.render n ++ '|' :: q.render (n + p.arity)
  | .group p => "(?:".toList ++ p.render n ++ [')']
  | .optional p => p.render n ++ ['?']

/-- The anchored source of a pattern. -/
def source (p : Pattern) : String := .ofList ("^(?:".toList ++ p.render 0 ++ ")$".toList)

end PathGlob.Pattern

-- SUMMARY: Regular expressions after flags are applied, with the captures they contain.
import PathGlob.CharSet
import PathGlob.Unicode.CharClass

/-!
# Regular expressions

An expression is built from atoms, each of which takes one step or none. Two kinds of atom are
in use: characters with assertions (`Atom`), and the places of a given text at which those
apply.
-/

namespace PathGlob

/-- An assertion about the characters on both sides of a place. -/
inductive Look where
  | textStart
  | textEnd
  | lineStart (crlf : Bool)
  | lineEnd (crlf : Bool)
  | wordBoundary (unicode : Bool)
  | notWordBoundary (unicode : Bool)
  | wordStart (unicode : Bool)
  | wordEnd (unicode : Bool)
  | wordStartHalf (unicode : Bool)
  | wordEndHalf (unicode : Bool)
  deriving DecidableEq

inductive Atom where
  /-- A character of a set. `ascii` tells sets written without the Unicode flag, which are not
  the same expression as equal sets written with it. -/
  | char (s : CharSet) (ascii : Bool)
  | look (l : Look)
  deriving DecidableEq

/-- Whether an atom takes no character. -/
def Atom.isLook : Atom → Bool
  | .char _ _ => false
  | .look _ => true

/-- A regular expression over some atoms. -/
inductive Regex (α : Type) where
  | empty
  | atom (a : α)
  | capture (index : Nat) (name : Option String) (r : Regex α)
  | cat (r s : Regex α)
  | alt (r s : Regex α)
  /-- From `min` to `max` times, without bound if `max` is absent; as often as possible if
  `greedy`. -/
  | repetition (min : Nat) (max : Option Nat) (greedy : Bool) (r : Regex α)
  deriving DecidableEq

namespace Regex

def map {α β : Type} (f : α → β) : Regex α → Regex β
  | .empty => .empty
  | .atom a => .atom (f a)
  | .capture index name r => .capture index name (r.map f)
  | .cat r s => .cat (r.map f) (s.map f)
  | .alt r s => .alt (r.map f) (s.map f)
  | .repetition min max greedy r => .repetition min max greedy (r.map f)

/-- Whether an expression can be taken without taking a character, if the atoms that `isStill`
can. -/
def isNullable {α : Type} (isStill : α → Bool) : Regex α → Bool
  | .empty => true
  | .atom a => isStill a
  | .capture _ _ r => r.isNullable isStill
  | .cat r s => r.isNullable isStill && s.isNullable isStill
  | .alt r s => r.isNullable isStill || s.isNullable isStill
  | .repetition min _ _ r => min = 0 || r.isNullable isStill

/-- The captures of an expression with their names, in the order of the text. -/
def captures {α : Type} : Regex α → List (Nat × Option String)
  | .empty | .atom _ => []
  | .capture index name r => (index, name) :: r.captures
  | .cat r s | .alt r s => r.captures ++ s.captures
  | .repetition _ _ _ r => r.captures

/-- The number of groups up to the last one of the expression, the whole match included. -/
def groupCount {α : Type} (r : Regex α) : Nat :=
  r.captures.foldl (fun n c => max n (c.1 + 1)) 1

/-- The group with a given name. -/
def groupNamed? {α : Type} (r : Regex α) (name : String) : Option Nat :=
  (r.captures.find? fun c => c.2 = some name).map Prod.fst

end Regex

/-! ## Assertions -/

namespace Look

def isWordChar (unicode : Bool) (c : Char) : Bool :=
  if unicode then Unicode.isWordChar c else c.isAlphanum || c == '_'

/-- Whether an assertion holds between two characters, of which the first is absent at the start
of the text and the second at its end. -/
def holds (l : Look) (before after : Option Char) : Bool :=
  let word (unicode : Bool) (c : Option Char) := c.any (isWordChar unicode)
  match l with
  | .textStart => before = none
  | .textEnd => after = none
  | .lineStart crlf =>
    before = none || before = some '\n' || (crlf && before = some '\r' && after ≠ some '\n')
  | .lineEnd crlf =>
    after = none || (after = some '\n' && !(crlf && before = some '\r')) ||
      (crlf && after = some '\r')
  | .wordBoundary u => word u before != word u after
  | .notWordBoundary u => word u before == word u after
  | .wordStart u => !word u before && word u after
  | .wordEnd u => word u before && !word u after
  | .wordStartHalf u => !word u before
  | .wordEndHalf u => !word u after

end Look

end PathGlob

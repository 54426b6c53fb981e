-- SUMMARY: Regular expressions as they are written: the syntax tree, bracket sets included, and how deep it nests.
import PathGlob.Regex.Flag

/-!
# Syntax trees

The tree keeps what the text says before flags are applied. Sequences and alternations
lean to the right and have at least two members.
-/

namespace PathGlob.Regex

/-- A character as it is written. -/
structure Literal where
  char : Char
  /-- Whether it is written as two hexadecimal digits, and so may stand for a byte. -/
  isByte : Bool := false
  deriving DecidableEq

inductive Assertion where
  | lineStart
  | lineEnd
  | textStart
  | textEnd
  | wordBoundary
  | notWordBoundary
  | wordStart
  | wordEnd
  | wordStartHalf
  | wordEndHalf
  deriving DecidableEq

/-- The classes with one letter of their own. -/
inductive Shorthand where
  | digit
  | space
  | word
  deriving DecidableEq

/-- How a property of characters is named. -/
inductive PropertyName where
  | binary (name : String)
  | valued (name value : String)
  deriving DecidableEq

/-- The classes of ASCII characters that have a name inside brackets. -/
inductive AsciiClass where
  | alnum | alpha | ascii | blank | cntrl | digit | graph | lower | print | punct | space | upper
  | word | xdigit
  deriving DecidableEq

inductive SetOp where
  | intersection
  | difference
  | symmetricDifference
  deriving DecidableEq

/-- What stands between brackets. -/
inductive BracketSet where
  | empty
  | literal (l : Literal)
  | range (first last : Literal)
  | ascii (c : AsciiClass) (negated : Bool)
  | shorthand (s : Shorthand) (negated : Bool)
  | property (p : PropertyName) (negated : Bool)
  | bracket (negated : Bool) (s : BracketSet)
  | union (s t : BracketSet)
  | op (o : SetOp) (s t : BracketSet)
  deriving DecidableEq

inductive Ast where
  | empty
  | settings (s : Settings)
  | literal (l : Literal)
  | dot
  | assertion (a : Assertion)
  | shorthand (s : Shorthand) (negated : Bool)
  | property (p : PropertyName) (negated : Bool)
  | bracket (negated : Bool) (s : BracketSet)
  /-- From `min` to `max` times, without bound if `max` is absent. -/
  | repetition (min : Nat) (max : Option Nat) (greedy : Bool) (body : Ast)
  | capture (index : Nat) (name : Option String) (body : Ast)
  | group (s : Settings) (body : Ast)
  | cat (a b : Ast)
  | alt (a b : Ast)
  deriving DecidableEq

namespace BracketSet

/-- The union of some items, given last one first. -/
def ofItems : List BracketSet → BracketSet
  | [] => .empty
  | s :: rest => rest.foldl (fun u item => .union item u) s

/-- The levels of nesting. A union counts once however many members it has, which is what
`inUnion` is for. -/
def nesting (inUnion : Bool) : BracketSet → Nat
  | .bracket _ s => s.nesting false + 1
  | .union s t => max (s.nesting false) (t.nesting true) + (if inUnion then 0 else 1)
  | .op _ s t => max (s.nesting false) (t.nesting false) + 1
  | _ => 0

end BracketSet

namespace Ast

/-- The sequence of some items, given last one first. -/
def ofItems : List Ast → Ast
  | [] => .empty
  | a :: rest => rest.foldl (fun b item => .cat item b) a

/-- The alternation of a last branch with those before it, given last one first. -/
def ofBranches (last : Ast) (before : List Ast) : Ast :=
  before.foldl (fun b branch => .alt branch b) last

/-- What kind of chain a tree continues. -/
inductive Chain where
  | none
  | cat
  | alt
  deriving DecidableEq

/-- The levels of nesting. A sequence or alternation counts once however many members it
has, which is what `chain` is for. -/
def nesting (chain : Chain) : Ast → Nat
  | .bracket _ s => s.nesting false + 1
  | .repetition _ _ _ a | .capture _ _ a | .group _ a => a.nesting .none + 1
  | .cat a b =>
    max (a.nesting .none) (b.nesting .cat) + (if chain = .cat then 0 else 1)
  | .alt a b =>
    max (a.nesting .none) (b.nesting .alt) + (if chain = .alt then 0 else 1)
  | _ => 0

end Ast

end PathGlob.Regex

-- SUMMARY: Applying flags: from what is written to the sets of characters and assertions it stands for.
import PathGlob.Regex.Ast
import PathGlob.Regex.Normal
import PathGlob.Unicode.CaseFolding
import PathGlob.Unicode.Property

/-!
# Applying flags

Flags decide which characters an expression takes. Without the Unicode flag an expression
means ASCII characters only, and it has no meaning where it would take part of a character.
-/

namespace PathGlob.Regex

open PathGlob.Unicode

/-! ## Sets of characters -/

def AsciiClass.ranges : AsciiClass → List (Nat × Nat)
  | .alnum => [(0x30, 0x39), (0x41, 0x5A), (0x61, 0x7A)]
  | .alpha => [(0x41, 0x5A), (0x61, 0x7A)]
  | .ascii => [(0x00, 0x7F)]
  | .blank => [(0x09, 0x09), (0x20, 0x20)]
  | .cntrl => [(0x00, 0x1F), (0x7F, 0x7F)]
  | .digit => [(0x30, 0x39)]
  | .graph => [(0x21, 0x7E)]
  | .lower => [(0x61, 0x7A)]
  | .print => [(0x20, 0x7E)]
  | .punct => [(0x21, 0x2F), (0x3A, 0x40), (0x5B, 0x60), (0x7B, 0x7E)]
  | .space => [(0x09, 0x0D), (0x20, 0x20)]
  | .upper => [(0x41, 0x5A)]
  | .word => [(0x30, 0x39), (0x41, 0x5A), (0x5F, 0x5F), (0x61, 0x7A)]
  | .xdigit => [(0x30, 0x39), (0x41, 0x46), (0x61, 0x66)]

def AsciiClass.toCharSet (c : AsciiClass) : CharSet := .ofRanges c.ranges

/-- The ASCII class with the name of a shorthand. -/
def Shorthand.toAscii : Shorthand → AsciiClass
  | .digit => .digit
  | .space => .space
  | .word => .word

def Shorthand.toCharSet : Shorthand → CharSet
  | .digit => digits
  | .space => blanks
  | .word => wordChars

def SetOp.apply : SetOp → CharSet → CharSet → CharSet
  | .intersection => .inter
  | .difference => .diff
  | .symmetricDifference => .symmDiff

/-- A set with both cases of the ASCII letters that it has in one case. -/
def foldAscii (s : CharSet) : CharSet :=
  let hit := (List.range 26).filter fun i =>
    CharSet.covers s.ranges (0x41 + i) || CharSet.covers s.ranges (0x61 + i)
  s.union (.ofRanges (hit.flatMap fun i => [(0x41 + i, 0x41 + i), (0x61 + i, 0x61 + i)]))

namespace Flags

/-- A set with the case variants of its members, if case does not count. -/
def fold (f : Flags) (s : CharSet) : CharSet :=
  if f.caseInsensitive then if f.unicode then s.foldCase else foldAscii s else s

/-- A set or its complement. A complement takes part of a character in the absence of the
Unicode flag. -/
def negate? (f : Flags) (negated : Bool) (s : CharSet) : Option CharSet :=
  if negated then if f.unicode then some s.complement else none else some s

def shorthand? (f : Flags) (s : Shorthand) (negated : Bool) : Option CharSet :=
  f.negate? negated (if f.unicode then s.toCharSet else s.toAscii.toCharSet)

def property? (f : Flags) (p : PropertyName) (negated : Bool) : Option CharSet :=
  if f.unicode then do
    let s ← match p with
      | .binary name => namedSet? name
      | .valued name value => valuedSet? name value
    f.negate? negated (f.fold s)
  else none

/-- The character of a member of a set. -/
def member? (f : Flags) (l : Literal) : Option Char :=
  if f.unicode || l.char.toNat < 128 then some l.char else none

/-- One character of a set under some flags. -/
def oneOf (f : Flags) (s : CharSet) : Regex Atom := .ofSet s !f.unicode

/-- A literal outside sets. -/
def literal? (f : Flags) (l : Literal) : Option (Regex Atom) :=
  if f.unicode || !l.isByte || l.char.toNat < 128 then
    some (if f.caseInsensitive then f.oneOf (f.fold (.singleton l.char)) else .ofChar l.char)
  else none

def dot? (f : Flags) : Option CharSet :=
  if !f.unicode then none
  else if f.dotAll then some .all
  else if f.crlf then some (CharSet.ofList ['\r', '\n']).complement
  else some (CharSet.singleton '\n').complement

def look (f : Flags) : Assertion → Look
  | .lineStart => if f.multiLine then .lineStart f.crlf else .textStart
  | .lineEnd => if f.multiLine then .lineEnd f.crlf else .textEnd
  | .textStart => .textStart
  | .textEnd => .textEnd
  | .wordBoundary => .wordBoundary f.unicode
  | .notWordBoundary => .notWordBoundary f.unicode
  | .wordStart => .wordStart f.unicode
  | .wordEnd => .wordEnd f.unicode
  | .wordStartHalf => .wordStartHalf f.unicode
  | .wordEndHalf => .wordEndHalf f.unicode

end Flags

/-- The characters of a bracket set. Case variants join before a set is negated or takes part in
an operation. -/
def BracketSet.resolve (f : Flags) : BracketSet → Option CharSet
  | .empty => some .empty
  | .literal l => (f.member? l).map .singleton
  | .range a b => do return .range (← f.member? a) (← f.member? b)
  | .ascii c negated => f.negate? negated (f.fold c.toCharSet)
  | .shorthand s negated => f.shorthand? s negated
  | .property p negated => f.property? p negated
  | .bracket negated s => do f.negate? negated (f.fold (← s.resolve f))
  | .union s t => do return (← s.resolve f).union (← t.resolve f)
  | .op o s t => do return o.apply (f.fold (← s.resolve f)) (f.fold (← t.resolve f))

/-! ## Expressions -/

/-- The alternatives that a tree stands for under some flags, with the flags in effect after it.
Every tree but an alternation is its only alternative. -/
def Ast.alternatives (f : Flags) : Ast → Option (List (Regex Atom) × Flags)
  | .empty => some ([.empty], f)
  | .settings s => some ([.empty], f.update s)
  | .literal l => (f.literal? l).map fun r => ([r], f)
  | .dot => f.dot?.map fun s => ([f.oneOf s], f)
  | .assertion a => some ([.atom (.look (f.look a))], f)
  | .shorthand s negated => (f.shorthand? s negated).map fun s => ([f.oneOf s], f)
  | .property p negated => (f.property? p negated).map fun s => ([f.oneOf s], f)
  | .bracket negated s => do
    let s ← s.resolve f
    let s ← f.negate? negated (f.fold s)
    return ([f.oneOf s], f)
  | .repetition min max greedy a => do
    let (rs, f) ← a.alternatives f
    return ([.repeated min max (greedy != f.swapGreed) (.alternation rs)], f)
  | .capture index name a => do
    let (rs, _) ← a.alternatives f
    return ([.capture index name (.alternation rs)], f)
  | .group s a => do
    let (rs, _) ← a.alternatives (f.update s)
    return ([.alternation rs], f)
  | .cat a b => do
    let (rs, f) ← a.alternatives f
    let (ss, f) ← b.alternatives f
    return ([(alternation rs).append (.alternation ss)], f)
  | .alt a b => do
    let (rs, f) ← a.alternatives f
    let (ss, f) ← b.alternatives f
    return (.alternation rs :: ss, f)

/-- The expression that a tree stands for under some flags. -/
def Ast.resolve (f : Flags) (a : Ast) : Option (Regex Atom) :=
  (a.alternatives f).map fun (rs, _) => .alternation rs

end PathGlob.Regex

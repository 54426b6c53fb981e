-- SUMMARY: Reading a set of characters between brackets, nested sets and set operations included.
import PathGlob.Regex.Escape

/-!
# Bracket sets

A bracket is read with the brackets open around it as explicit levels. `readBracket` is the
entry point.
-/

namespace PathGlob.Regex

open PathGlob.Unicode

/-- An open bracket: what was read of it. -/
structure BracketLevel where
  negated : Bool
  /-- The left operand of the operation being read. -/
  left : Option (SetOp × BracketSet) := none
  /-- The members read since, last one first. -/
  items : List BracketSet := []

namespace BracketLevel

/-- What was read so far, as one set. -/
def set (l : BracketLevel) : BracketSet :=
  match l.left with
  | some (o, s) => .op o s (.ofItems l.items)
  | none => .ofItems l.items

def push (l : BracketLevel) (s : BracketSet) : BracketLevel := { l with items := s :: l.items }

/-- Makes what was read the left operand of an operation. -/
def operate (l : BracketLevel) (o : SetOp) : BracketLevel :=
  { l with left := some (o, l.set), items := [] }

/-- The bracket as a member of the one around it. -/
def close (l : BracketLevel) : BracketSet := .bracket l.negated l.set

end BracketLevel

/-! ## Members -/

def asciiClassOfName? (name : String) : Option AsciiClass :=
  List.lookup name [("alnum", .alnum), ("alpha", .alpha), ("ascii", .ascii), ("blank", .blank),
    ("cntrl", .cntrl), ("digit", .digit), ("graph", .graph), ("lower", .lower), ("print", .print),
    ("punct", .punct), ("space", .space), ("upper", .upper), ("word", .word), ("xdigit", .xdigit)]

/-- Reads the rest of `[:name:]` or `[:^name:]` after the bracket. Anything else that begins so
is a nested bracket. -/
def readAsciiClass? : List Char → Option (BracketSet × List Char)
  | ':' :: cs =>
    let (negated, cs) := match cs with
      | '^' :: cs => (true, cs)
      | cs => (false, cs)
    let (name, rest) := cs.span (· != ':')
    match rest with
    | ':' :: ']' :: rest =>
      (asciiClassOfName? (.ofList name)).map fun c => (.ascii c negated, rest)
    | _ => none
  | _ => none

/-- Reads a character or an escape. -/
def readMember (verbose : Bool) : List Char → Option (Escape × List Char)
  | [] => none
  | '\\' :: cs => readEscape verbose cs
  | c :: cs => some (.literal ⟨c, false⟩, cs)

/-- A member as a set. Assertions have no place in a set. -/
def Escape.toSet? : Escape → Option BracketSet
  | .literal l => some (.literal l)
  | .shorthand s negated => some (.shorthand s negated)
  | .property p negated => some (.property p negated)
  | .assertion _ => none

/-- The first character after blanks and the mark of a comment. -/
def peekPast (comment : Bool) : List Char → Option Char
  | [] => none
  | c :: cs =>
    if isBlank c then peekPast comment cs
    else if c = '#' && !comment then peekPast true cs
    else some c

/-- Whether a hyphen with this text after it stands for itself: so at the end of a set and in
front of another hyphen. -/
def isPlainHyphen (verbose : Bool) (cs : List Char) : Bool :=
  let next := if verbose then peekPast false cs else cs.head?
  next = some ']' || next = some '-'

/-- Reads a member or a range of characters. -/
def readRange (verbose : Bool) (cs : List Char) : Option (BracketSet × List Char) := do
  let (first, cs) ← readMember verbose cs
  match skip verbose cs with
  | '-' :: rest =>
    if isPlainHyphen verbose rest then return (← first.toSet?, '-' :: rest)
    let (last, rest) ← readMember verbose (skip verbose rest)
    match first, last with
    | .literal a, .literal b => if a.char ≤ b.char then some (.range a b, rest) else none
    | _, _ => none
  | rest => return (← first.toSet?, rest)

/-! ## Brackets -/

/-- Reads the start of a set after its bracket: the negation, hyphens that stand for themselves,
and a closing bracket that does so because it comes first. -/
def openBracket (verbose : Bool) (cs : List Char) : BracketLevel × List Char :=
  let (negated, cs) := match skip verbose cs with
    | '^' :: cs => (true, cs)
    | cs => (false, cs)
  let (hyphens, cs) := takeAll verbose (· = '-') cs
  let level : BracketLevel := ⟨negated, none, hyphens.map fun c => .literal ⟨c, false⟩⟩
  match hyphens, skip verbose cs with
  | [], ']' :: cs => (level.push (.literal ⟨']', false⟩), cs)
  | _, cs => (level, cs)

/-- Reads on in a bracket `l` inside the brackets `outer`, innermost first, to the end of the
outermost. -/
def readBracketFrom (verbose : Bool) :
    Nat → BracketLevel → List BracketLevel → List Char → Option (BracketLevel × List Char)
  | 0, _, _, _ => none
  | fuel + 1, l, outer, cs =>
    match skip verbose cs with
    | [] => none
    | '[' :: cs =>
      match readAsciiClass? cs with
      | some (s, rest) => readBracketFrom verbose fuel (l.push s) outer rest
      | none =>
        let (inner, rest) := openBracket verbose cs
        readBracketFrom verbose fuel inner (l :: outer) rest
    | ']' :: cs =>
      match outer with
      | [] => some (l, cs)
      | o :: outer => readBracketFrom verbose fuel (o.push l.close) outer cs
    | '&' :: '&' :: cs => readBracketFrom verbose fuel (l.operate .intersection) outer cs
    | '-' :: '-' :: cs => readBracketFrom verbose fuel (l.operate .difference) outer cs
    | '~' :: '~' :: cs => readBracketFrom verbose fuel (l.operate .symmetricDifference) outer cs
    | cs =>
      match readRange verbose cs with
      | some (s, rest) => readBracketFrom verbose fuel (l.push s) outer rest
      | none => none

/-- Reads a set whose opening bracket has been read. -/
def readBracket (verbose : Bool) (cs : List Char) : Option (BracketLevel × List Char) :=
  let (l, rest) := openBracket verbose cs
  readBracketFrom verbose (rest.length + 1) l [] rest

end PathGlob.Regex

-- SUMMARY: Parsing regular expressions with the groups still open as an explicit stack.
import PathGlob.Regex.Bracket

/-!
# Parsing regular expressions

The parser takes the text from the left. Its state holds the branches and items of the level
being read and one frame for each open group; every step reads at least one character.
-/

namespace PathGlob.Regex

open PathGlob.Unicode

/-- How an open group began. -/
inductive GroupKind where
  | capture (index : Nat) (name : Option String)
  | plain (s : Settings)

def GroupKind.close (k : GroupKind) (body : Ast) : Ast :=
  match k with
  | .capture index name => .capture index name body
  | .plain s => .group s body

/-- The level that an open group interrupts, with the mode to go back to after it. -/
structure Frame where
  kind : GroupKind
  branches : List Ast
  items : List Ast
  verbose : Bool

structure State where
  frames : List Frame := []
  /-- Finished branches of this level, last one first. -/
  branches : List Ast := []
  /-- Items of the current branch, last one first. -/
  items : List Ast := []
  verbose : Bool := false
  /-- Capture groups opened so far. -/
  captures : Nat := 0
  names : List String := []

namespace State

def push (σ : State) (a : Ast) : State := { σ with items := a :: σ.items }

/-- The alternation of the branches of this level. -/
def body (σ : State) : Ast := .ofBranches (.ofItems σ.items) σ.branches

def openGroup (σ : State) (kind : GroupKind) (verbose : Bool) : State :=
  { σ with
    frames := ⟨kind, σ.branches, σ.items, σ.verbose⟩ :: σ.frames
    branches := []
    items := []
    verbose }

def openCapture (σ : State) (name : Option String) : State :=
  { σ with
    captures := σ.captures + 1
    names := name.toList ++ σ.names }.openGroup (.capture (σ.captures + 1) name) σ.verbose

def closeGroup (σ : State) : Option State :=
  match σ.frames with
  | [] => none
  | f :: frames => some { σ with
      frames
      branches := f.branches
      items := f.kind.close σ.body :: f.items
      verbose := f.verbose }

/-- Ends the current branch. -/
def alternate (σ : State) : State :=
  { σ with branches := .ofItems σ.items :: σ.branches, items := [] }

/-- Repeats the last item. Settings are no item to repeat. -/
def repeatLast (σ : State) (min : Nat) (max : Option Nat) (greedy : Bool) : Option State :=
  match σ.items with
  | [] | .settings _ :: _ => none
  | a :: rest => some { σ with items := .repetition min max greedy a :: rest }

end State

/-! ## Groups -/

/-- Whether a character may stand in the name of a group, at its start if `first` holds. -/
def isNameChar (first : Bool) (c : Char) : Bool :=
  if first then c == '_' || isLetter c
  else ['_', '.', '[', ']'].contains c || isLetter c || isNumber c

/-- Reads the name of a group up to the closing angle bracket. -/
def readName (first : Bool) : List Char → Option (List Char × List Char)
  | [] => none
  | c :: cs =>
    if c = '>' then if first then none else some ([], cs)
    else if isNameChar first c then (readName false cs).map fun r => (c :: r.1, r.2)
    else none

/-- Reads settings up to the colon or parenthesis that ends them, with whether a group follows.
`off` holds after the minus sign, `pending` directly after it. -/
def readSettings (off pending : Bool) (read : Settings) :
    List Char → Option (Settings × Bool × List Char)
  | [] => none
  | c :: cs =>
    if c = ')' || c = ':' then if pending then none else some (read.reverse, c = ':', cs)
    else if c = '-' then if off then none else readSettings true true read cs
    else match Flag.ofChar? c with
      | none => none
      | some f =>
        if read.any (·.1 = f) then none else readSettings off false ((f, !off) :: read) cs

/-- Opens a named group, whose name no group before it may have. -/
def openNamed (σ : State) (cs : List Char) : Option (State × List Char) := do
  let (name, rest) ← readName true cs
  let name := String.ofList name
  if σ.names.contains name then none else some (σ.openCapture (some name), rest)

/-- Reads what follows an opening parenthesis: a group, or settings for the rest of this level. -/
def readGroup (σ : State) (cs : List Char) : Option (State × List Char) :=
  match skip σ.verbose cs with
  | '?' :: 'P' :: '<' :: cs => openNamed σ cs
  | '?' :: '<' :: cs =>
    match cs with
    | '=' :: _ | '!' :: _ => none
    | cs => openNamed σ cs
  | '?' :: cs => do
    let (s, opens, rest) ← readSettings false false [] cs
    let verbose := (s.get? .verbose).getD σ.verbose
    if opens then some (σ.openGroup (.plain s) verbose, rest)
    else if s.isEmpty then none
    else some ({ σ.push (.settings s) with verbose }, rest)
  | cs => some (σ.openCapture none, cs)

/-! ## Repetitions -/

/-- Repeats the last item, lazily if a question mark follows. -/
def readGreed (σ : State) (min : Nat) (max : Option Nat) (cs : List Char) :
    Option (State × List Char) :=
  match cs with
  | '?' :: cs => (σ.repeatLast min max false).map (·, cs)
  | cs => (σ.repeatLast min max true).map (·, cs)

/-- Reads the bounds of a repetition after the opening brace. -/
def readBounds (verbose : Bool) (cs : List Char) : Option (Nat × Option Nat × List Char) := do
  let (min, cs) ← readNumber verbose (skip verbose cs)
  match cs with
  | '}' :: rest => some (min, some min, rest)
  | ',' :: cs =>
    match skip verbose cs with
    | '}' :: rest => some (min, none, rest)
    | cs =>
      let (max, cs) ← readNumber verbose cs
      match cs with
      | '}' :: rest => if min ≤ max then some (min, some max, rest) else none
      | _ => none
  | _ => none

def readCounted (σ : State) (cs : List Char) : Option (State × List Char) := do
  let (min, max, rest) ← readBounds σ.verbose cs
  readGreed σ min max (skip σ.verbose rest)

/-! ## The whole text -/

/-- Reads the construct that begins with `c`. -/
def State.step (σ : State) (c : Char) (cs : List Char) : Option (State × List Char) :=
  if c = '(' then readGroup σ cs
  else if c = ')' then σ.closeGroup.map (·, cs)
  else if c = '|' then some (σ.alternate, cs)
  else if c = '[' then
    (readBracket σ.verbose cs).map fun r => (σ.push (.bracket r.1.negated r.1.set), r.2)
  else if c = '?' then readGreed σ 0 (some 1) cs
  else if c = '*' then readGreed σ 0 none cs
  else if c = '+' then readGreed σ 1 none cs
  else if c = '{' then readCounted σ cs
  else if c = '\\' then (readEscape σ.verbose cs).map fun r => (σ.push r.1.toAst, r.2)
  else if c = '.' then some (σ.push .dot, cs)
  else if c = '^' then some (σ.push (.assertion .lineStart), cs)
  else if c = '$' then some (σ.push (.assertion .lineEnd), cs)
  else some (σ.push (.literal ⟨c, false⟩), cs)

/-- Reads constructs to the end of the text. -/
def State.run : Nat → State → List Char → Option State
  | 0, _, _ => none
  | fuel + 1, σ, cs =>
    match skip σ.verbose cs with
    | [] => some σ
    | c :: rest =>
      match σ.step c rest with
      | some (σ', rest') => σ'.run fuel rest'
      | none => none

/-- The tree of the whole text, unless a group is still open. -/
def State.finish (σ : State) : Option Ast :=
  if σ.frames.isEmpty then some σ.body else none

/-- The deepest nesting that is accepted. -/
def maxNesting : Nat := 250

/-- Parses a regular expression. -/
def Ast.parse (text : List Char) : Option Ast := do
  let a ← (← State.run (text.length + 1) {} text).finish
  if a.nesting .none ≤ maxNesting then some a else none

end PathGlob.Regex

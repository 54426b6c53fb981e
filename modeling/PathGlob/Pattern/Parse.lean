-- SUMMARY: Building the syntax tree of a pattern item by item, with the duplicate policy and the trace.
import PathGlob.Pattern
import PathGlob.Pattern.Item
import PathGlob.Options
import PathGlob.Trace

/-!
# Parsing patterns

Items are taken one at a time, from the left. An outline holds what was built so far:
the level being read, the levels that open groups interrupt, and the declarations met.
Each item either extends the outline or is the first that no pattern could go on with.
-/

namespace PathGlob.Pattern

/-- One level of grouping: its finished alternatives and the items of the current one,
both last one first. -/
structure Level where
  branches : List Pattern := []
  items : List Pattern := []

/-- The alternation of the branches of a level. -/
def Level.toPattern (l : Level) : Pattern :=
  l.branches.foldl (fun p branch => .alt branch p) (ofItems l.items)

structure Outline where
  level : Level := {}
  /-- Where each open group starts and the level it interrupts, innermost group first. -/
  enclosing : List (Nat × Level) := []
  /-- Declarations, last one first. -/
  declared : List Declaration := []

/-! ## Declarations -/

def isNameStart (c : Char) : Bool := c.isAlpha || c == '_'

def isNameChar (c : Char) : Bool := c.isAlphanum || c == '_'

/-- Checks the name of the declaration that starts at `start`. -/
def checkName (start : Nat) (name : String) : Except Fault Unit :=
  match name.toList with
  | [] => .error (.missingName start)
  | first :: rest =>
    if isNameStart first then
      match rest.find? fun c => !isNameChar c with
      | some c => .error (.invalidCharacter name c)
      | none => .ok ()
    else .error (.invalidStart name first)

/-- Checks a declaration by itself. -/
def Declaration.check (start : Nat) (d : Declaration) : Except Fault Unit :=
  match checkName start d.name with
  | .error e => .error e
  | .ok () => if d.constraint = some "" then .error (.emptyConstraint d.name) else .ok ()

/-! ## Steps -/

namespace Outline

/-- Puts a pattern at the end of the current branch. -/
def append (o : Outline) (p : Pattern) : Outline :=
  { o with level.items := p :: o.level.items }

/-- Takes a literal character. A slash directly after `**` belongs to it. -/
def slash (o : Outline) : Outline :=
  match o.level.items with
  | .anything :: rest => { o with level.items := .directories :: rest }
  | _ => o.append (.literal '/')

/-- Makes the last item of the branch optional. Wildcards and optional items take no `?`. -/
def makeOptional (o : Outline) (index : Nat) : Except Fault Outline :=
  match o.level.items with
  | [] | .segment :: _ | .directories :: _ | .anything :: _ | .optional _ :: _ =>
    .error (.danglingQuantifier index)
  | p :: rest => .ok { o with level.items := .optional p :: rest }

def openGroup (o : Outline) (index : Nat) : Outline :=
  { o with level := {}, enclosing := (index, o.level) :: o.enclosing }

def closeGroup (o : Outline) (index : Nat) : Except Fault Outline :=
  match o.enclosing with
  | [] => .error (.unexpectedParenthesis index)
  | (start, outer) :: enclosing =>
    if o.level.branches.isEmpty && o.level.items.isEmpty then .error (.emptyGroup start)
    else .ok { o with
      level := { outer with items := .group o.level.toPattern :: outer.items }
      enclosing }

/-- Ends the current branch. -/
def alternate (o : Outline) : Outline :=
  { o with level := { branches := ofItems o.level.items :: o.level.branches } }

/-- Takes a declaration. A name declared before is refused or reported, as the policy says. -/
def declare (policy : DuplicatePolicy) (o : Outline) (start : Nat) (d : Declaration) :
    Traced Fault Outline := do
  Traced.ofExcept (Declaration.check start d)
  if o.declared.any (·.name = d.name) then
    match policy with
    | .reject => Traced.fail (.duplicateVariable d.name)
    | .lastWins => Traced.report (.duplicateVariable d.name)
  return { o.append (.var d) with declared := d :: o.declared }

/-- Takes the next item. -/
def step (policy : DuplicatePolicy) (o : Outline) (item : Located Item) : Traced Fault Outline :=
  match item.value with
  | .literal c => pure (if c = '/' then o.slash else o.append (.literal c))
  | .escaped c => pure (o.append (.literal c))
  | .fullStop => pure (o.append (.literal '.'))
  | .wildcard => pure (o.append .segment)
  | .recursiveWildcard => pure (o.append .anything)
  | .declaration name constraint => o.declare policy item.index ⟨name, constraint⟩
  | .closingBrace => Traced.fail (.unexpectedBrace item.index)
  | .groupOpen => pure (o.openGroup item.index)
  | .groupClose => Traced.ofExcept (o.closeGroup item.index)
  | .alternation => pure o.alternate
  | .optional => Traced.ofExcept (o.makeOptional item.index)

/-- Takes some items in order. -/
def steps (policy : DuplicatePolicy) : Outline → List (Located Item) → Traced Fault Outline
  | o, [] => pure o
  | o, item :: items => do (← o.step policy item).steps policy items

/-- The finished pattern, unless a group is still open. -/
def finish (o : Outline) : Except Fault Pattern :=
  match o.enclosing.getLast? with
  | some (start, _) => .error (.unterminatedGroup start)
  | none => .ok o.level.toPattern

end Outline

/-- The pattern that some items form. -/
def ofScan (policy : DuplicatePolicy) (items : List (Located Item)) : Traced Fault Pattern := do
  let o ← Outline.steps policy {} items
  Traced.ofExcept o.finish

/-! ## Texts -/

/-- Cuts a text into items, announcing it. -/
def itemsOf (text : String) : Traced Fault (List (Located Item)) := do
  Traced.enter (.tokenize text.utf8ByteSize)
  Traced.ofExcept (scan 0 text.toList)

/-- The tokens of a text. -/
def tokenize (text : String) : Traced Error (List (Located Token)) :=
  Traced.mapError (⟨text, ·⟩) do
    let items ← itemsOf text
    return items.flatMap fun i => locate i.index i.value.tokens

/-- Parses a text of at most the permitted length. -/
def parse (text : String) (options : Options := {}) : Traced Error Pattern :=
  Traced.mapError (⟨text, ·⟩) do
    Traced.enter (.parse text.utf8ByteSize)
    if options.maxPatternLength.toNat < text.utf8ByteSize then
      Traced.fail (.tooLong text.utf8ByteSize options.maxPatternLength.toNat)
    let items ← itemsOf text
    ofScan options.duplicates items

end PathGlob.Pattern

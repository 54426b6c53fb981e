-- SUMMARY: Writing the regex source of a pattern in one pass over its tokens, without building the tree.
import PathGlob.Pattern.Parse
import PathGlob.Pattern.Source

/-!
# Translating tokens

A translator takes tokens from the left and writes regex source as it goes. It takes any tokens, not
only those of a text: the parts of a declaration have to stand together in order, and are reported
as a declaration that is never closed otherwise.
-/

namespace PathGlob.Pattern

/-- What a pattern comes to. -/
structure Translation where
  source : String
  variableNames : List String
  constraints : List (String × String)
  deriving DecidableEq

def translation (p : Pattern) : Translation := ⟨p.source, p.variableNames, p.constraints⟩

/-! ## Declarations -/

/-- Takes the name of the declaration that starts at `start`. -/
def takeName (start : Nat) : List (Located Token) → Except Fault (String × List (Located Token))
  | ⟨_, .variableName name⟩ :: tokens => .ok (name, tokens)
  | _ => .error (.unterminatedVariable start)

/-- Takes the constraint of a declaration, if there is one. -/
def takeConstraint : List (Located Token) → Option String × List (Located Token)
  | ⟨_, .variableSeparator⟩ :: ⟨_, .constraint raw⟩ :: tokens => (some raw, tokens)
  | ⟨_, .variableSeparator⟩ :: tokens => (none, tokens)
  | tokens => (none, tokens)

/-- Takes the token that closes the declaration that starts at `start`. -/
def takeClose (start : Nat) : List (Located Token) → Except Fault (List (Located Token))
  | ⟨_, .variableClose⟩ :: tokens => .ok tokens
  | _ => .error (.unterminatedVariable start)

/-- Takes what stands behind the opening token of a declaration, up to its closing token. -/
def takeDeclaration (start : Nat) (tokens : List (Located Token)) :
    Except Fault (Declaration × List (Located Token)) := do
  let (name, tokens) ← takeName start tokens
  checkName start name
  let (constraint, tokens) := takeConstraint tokens
  let tokens ← takeClose start tokens
  if constraint = some "" then throw (.emptyConstraint name)
  return (⟨name, constraint⟩, tokens)

/-! ## Turns -/

structure Translator where
  /-- The source written so far. -/
  out : List Char := "^(?:".toList
  variableNames : List String := []
  constraints : List (String × String) := []
  /-- Where each open group starts, innermost group first. -/
  openGroups : List Nat := []
  /-- The token that began the last turn. -/
  previous : Option Token := none

namespace Translator

def write (t : Translator) (cs : List Char) : Translator := { t with out := t.out ++ cs }

/-- Writes the group of a declaration. A name written before is refused or reported, as the policy
says. -/
def declare (policy : DuplicatePolicy) (t : Translator) (d : Declaration) :
    Traced Fault Translator := do
  if t.variableNames.contains d.name then
    match policy with
    | .reject => Traced.fail (.duplicateVariable d.name)
    | .lastWins => Traced.report (.duplicateVariable d.name)
  let group := "(?P<".toList ++ (slotName t.variableNames.length).toList ++
    '>' :: (d.constraint.getD defaultVariable).toList ++ [')']
  return { t.write group with
    variableNames := t.variableNames ++ [d.name]
    constraints := t.constraints ++ (d.constraint.map (d.name, ·)).toList }

def openGroup (t : Translator) (index : Nat) : Translator :=
  { t.write "(?:".toList with openGroups := index :: t.openGroups }

def closeGroup (t : Translator) (index : Nat) : Except Fault Translator :=
  match t.openGroups with
  | [] => .error (.unexpectedParenthesis index)
  | start :: openGroups =>
    if t.previous = some .groupOpen then .error (.emptyGroup start)
    else .ok { t.write [')'] with openGroups }

/-- Whether a question mark may follow what was taken last. -/
def takesQuantifier (t : Translator) : Bool :=
  match t.previous with
  | none | some .groupOpen | some .alternation | some .optional | some .wildcard
  | some .recursiveWildcard => false
  | _ => true

def makeOptional (t : Translator) (index : Nat) : Except Fault Translator :=
  if t.takesQuantifier then .ok (t.write ['?']) else .error (.danglingQuantifier index)

/-- Translates what begins with the token `head`, and gives the tokens that are left. -/
def turn (policy : DuplicatePolicy) (t : Translator) (head : Located Token)
    (rest : List (Located Token)) : Traced Fault (Translator × List (Located Token)) :=
  match head.value with
  | .literal c | .escaped c => pure (t.write (quoteChar c), rest)
  | .fullStop => pure (t.write "\\.".toList, rest)
  | .wildcard => pure (t.write segmentWildcard.toList, rest)
  | .recursiveWildcard =>
    match rest with
    | ⟨_, .literal '/'⟩ :: rest => pure (t.write nestedDirectories.toList, rest)
    | rest => pure (t.write anyPath.toList, rest)
  | .variableOpen => do
    let (d, rest) ← Traced.ofExcept (takeDeclaration head.index rest)
    return (← t.declare policy d, rest)
  | .variableClose => Traced.fail (.unexpectedBrace head.index)
  | .groupOpen => pure (t.openGroup head.index, rest)
  | .groupClose => do return (← Traced.ofExcept (t.closeGroup head.index), rest)
  | .alternation => pure (t.write ['|'], rest)
  | .optional => do return (← Traced.ofExcept (t.makeOptional head.index), rest)
  | .variableName _ | .variableSeparator | .constraint _ =>
    Traced.fail (.unterminatedVariable head.index)

/-- Remembers the token that began a turn. -/
def after (t : Translator) (head : Located Token) : Translator :=
  { t with previous := some head.value }

/-- Takes turns until no tokens are left. There are at most as many turns as tokens. -/
def run (policy : DuplicatePolicy) :
    (fuel : Nat) → Translator → List (Located Token) → Traced Fault Translator
  | fuel + 1, t, head :: rest => do
    let (t, rest) ← t.turn policy head rest
    run policy fuel (t.after head) rest
  | _, t, _ => pure t

/-- The finished translation, unless a group is still open. -/
def finish (t : Translator) : Except Fault Translation :=
  match t.openGroups.getLast? with
  | some start => .error (.unterminatedGroup start)
  | none => .ok ⟨.ofList (t.out ++ ")$".toList), t.variableNames, t.constraints⟩

end Translator

/-! ## Texts -/

/-- The translation of some tokens. -/
def ofTokens (policy : DuplicatePolicy) (tokens : List (Located Token)) :
    Traced Fault Translation := do
  let t ← Translator.run policy tokens.length {} tokens
  Traced.ofExcept t.finish

/-- Translates a text of at most the permitted length. -/
def translate (text : String) (options : Options := {}) : Traced Error Translation := do
  Traced.enter (.parse text.utf8ByteSize)
  if options.maxPatternLength.toNat < text.utf8ByteSize then
    Traced.fail ⟨text, .tooLong text.utf8ByteSize options.maxPatternLength.toNat⟩
  let tokens ← tokenize text
  Traced.mapError (⟨text, ·⟩) (ofTokens options.duplicates tokens)

end PathGlob.Pattern

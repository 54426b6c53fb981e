-- SUMMARY: Items of a pattern (a whole declaration is one item), how pattern text is cut into them, and the tokens they consist of.
import PathGlob.Pattern.Token
import PathGlob.Pattern.Fault

/-!
# Items

An item is what the grammar of patterns takes as one unit: a variable declaration, or
any other token. `scan` cuts a text into items. It fails only where the text ends
within an escape or a declaration.
-/

namespace PathGlob.Pattern

inductive Item where
  | literal (c : Char)
  | escaped (c : Char)
  | fullStop
  | wildcard
  | recursiveWildcard
  | declaration (name : String) (constraint : Option String)
  /-- A closing brace outside any declaration. -/
  | closingBrace
  | groupOpen
  | groupClose
  | alternation
  | optional
  deriving DecidableEq

namespace Item

def tokens : Item → List Token
  | .literal c => [.literal c]
  | .escaped c => [.escaped c]
  | .fullStop => [.fullStop]
  | .wildcard => [.wildcard]
  | .recursiveWildcard => [.recursiveWildcard]
  | .declaration name none => [.variableOpen, .variableName name, .variableClose]
  | .declaration name (some raw) =>
    [.variableOpen, .variableName name, .variableSeparator, .constraint raw, .variableClose]
  | .closingBrace => [.variableClose]
  | .groupOpen => [.groupOpen]
  | .groupClose => [.groupClose]
  | .alternation => [.alternation]
  | .optional => [.optional]

/-- The item that a character is by itself. -/
def ofChar (c : Char) : Item :=
  if c = '.' then .fullStop
  else if c = '*' then .wildcard
  else if c = '}' then .closingBrace
  else if c = '(' then .groupOpen
  else if c = ')' then .groupClose
  else if c = '|' then .alternation
  else if c = '?' then .optional
  else .literal c

end Item

/-- Items, or the fault that ends the text. -/
abbrev Scan := Except Fault (List (Located Item))

def Scan.cons (index : Nat) (item : Item) (rest : Scan) : Scan :=
  rest.map (⟨index, item⟩ :: ·)

mutual

/-- The items of a text that starts at byte `i`. -/
def scan (i : Nat) : List Char → Scan
  | [] => .ok []
  | '{' :: cs => scanName i [] (i + 1) cs
  | '*' :: '*' :: cs => .cons i .recursiveWildcard (scan (i + 2) cs)
  | '\\' :: [] => .error (.loneEscape i)
  | '\\' :: c :: cs => .cons i (.escaped c) (scan (i + 1 + c.utf8Size) cs)
  | c :: cs => .cons i (.ofChar c) (scan (i + c.utf8Size) cs)

/-- Goes on within the name of the declaration opened at `start`; `name` holds what was
read of it, last character first. -/
def scanName (start : Nat) (name : List Char) (i : Nat) : List Char → Scan
  | [] => .error (.unterminatedVariable start)
  | '}' :: cs => .cons start (.declaration (.ofList name.reverse) none) (scan (i + 1) cs)
  | ':' :: cs => scanConstraint start (.ofList name.reverse) [] 0 (i + 1) cs
  | c :: cs => scanName start (c :: name) (i + c.utf8Size) cs

/-- Goes on within the constraint of the declaration opened at `start`, at brace depth
`depth`; `raw` holds what was read of it, last character first. A backslash takes the
next character with it. -/
def scanConstraint (start : Nat) (name : String) (raw : List Char) (depth i : Nat) :
    List Char → Scan
  | [] => .error (.unterminatedVariable start)
  | '\\' :: [] => .error (.loneEscape i)
  | '\\' :: c :: cs =>
    scanConstraint start name (c :: '\\' :: raw) depth (i + 1 + c.utf8Size) cs
  | '{' :: cs => scanConstraint start name ('{' :: raw) (depth + 1) (i + 1) cs
  | '}' :: cs => match depth with
    | 0 => .cons start (.declaration name (some (.ofList raw.reverse))) (scan (i + 1) cs)
    | depth + 1 => scanConstraint start name ('}' :: raw) depth (i + 1) cs
  | c :: cs => scanConstraint start name (c :: raw) depth (i + c.utf8Size) cs

end

end PathGlob.Pattern

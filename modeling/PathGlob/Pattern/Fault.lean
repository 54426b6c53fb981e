-- SUMMARY: What can be wrong with a pattern, and the message for each case.

/-!
# Faults in patterns

All offsets and lengths count UTF-8 bytes.
-/

namespace PathGlob.Pattern

inductive Fault where
  | tooLong (length max : Nat)
  | loneEscape (index : Nat)
  | unterminatedVariable (start : Nat)
  | unexpectedBrace (index : Nat)
  | unexpectedParenthesis (index : Nat)
  | unterminatedGroup (start : Nat)
  | emptyGroup (start : Nat)
  | danglingQuantifier (index : Nat)
  | missingName (start : Nat)
  | invalidStart (name : String) (found : Char)
  | invalidCharacter (name : String) (found : Char)
  | emptyConstraint (name : String)
  | duplicateVariable (name : String)
  deriving DecidableEq

/-- A pattern together with what is wrong with it. -/
structure Error where
  pattern : String
  fault : Fault
  deriving DecidableEq

def Error.message (e : Error) : String :=
  let p := e.pattern
  match e.fault with
  | .tooLong length max => s!"pattern is {length} bytes long, exceeding the limit of {max}"
  | .loneEscape index => s!"pattern '{p}' ends with a lone escape character at index {index}"
  | .unterminatedVariable start =>
    s!"variable declaration starting at index {start} in pattern '{p}' is never closed"
  | .unexpectedBrace index => s!"pattern '{p}' has an unexpected '\x7d' at index {index}"
  | .unexpectedParenthesis index => s!"pattern '{p}' has an unexpected ')' at index {index}"
  | .unterminatedGroup start => s!"group starting at index {start} in pattern '{p}' is never closed"
  | .emptyGroup start => s!"group starting at index {start} in pattern '{p}' is empty"
  | .danglingQuantifier index =>
    s!"quantifier '?' at index {index} in pattern '{p}' has nothing to apply to"
  | .missingName start =>
    s!"variable declaration at index {start} in pattern '{p}' is missing a name"
  | .invalidStart name found =>
    s!"variable name '{name}' in pattern '{p}' must start with an alphabetic character or " ++
      s!"underscore (found '{found}')"
  | .invalidCharacter name found =>
    s!"variable name '{name}' in pattern '{p}' contains invalid character '{found}'"
  | .emptyConstraint name => s!"variable '{name}' in pattern '{p}' declares an empty constraint"
  | .duplicateVariable name => s!"variable '{name}' is declared more than once in pattern '{p}'"

end PathGlob.Pattern

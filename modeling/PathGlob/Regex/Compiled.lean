-- SUMMARY: Compiling regex source within a size limit.
import PathGlob.Regex.Parse
import PathGlob.Regex.Resolve
import PathGlob.Regex.Search
import PathGlob.Regex.Size

/-!
# Compiled regexes
-/

namespace PathGlob

/-- Why a regex cannot be used. -/
inductive RegexError where
  | malformed
  | tooLarge (limit : Nat)
  | missingSlot (slot variableName : String)
  deriving DecidableEq

def RegexError.message : RegexError → String
  | .malformed => "regex parse error:"
  | .tooLarge limit => s!"Compiled regex exceeds size limit of {limit} bytes."
  | .missingSlot slot name => s!"capture slot '{slot}' for variable '{name}' is missing"

/-- An expression with the source it was compiled from. -/
structure CompiledRegex where
  source : String
  regex : Regex Atom

/-- The expression that some source stands for. -/
def Regex.ofSource? (source : String) (caseInsensitive : Bool := false) : Option (Regex Atom) := do
  let a ← Ast.parse source.toList
  a.resolve { caseInsensitive }

/-- Compiles regex source whose program takes at most `limit` bytes. -/
def CompiledRegex.compile (source : String) (caseInsensitive : Bool := false)
    (limit : Nat := defaultSizeLimit) : Except RegexError CompiledRegex :=
  match Regex.ofSource? source caseInsensitive with
  | none => .error .malformed
  | some r => if r.size ≤ limit then .ok ⟨source, r⟩ else .error (.tooLarge limit)

end PathGlob

-- SUMMARY: The tokens of pattern text and how each is spelled.

/-!
# Tokens

Tokens are the classified units of pattern text. Each has one spelling, so a token's
place in a text follows from the tokens before it.
-/

namespace PathGlob.Pattern

inductive Token where
  | literal (c : Char)
  /-- A character after a backslash, taken literally. -/
  | escaped (c : Char)
  | fullStop
  | wildcard
  | recursiveWildcard
  | variableOpen
  | variableName (name : String)
  | variableSeparator
  /-- The text between a declaration's colon and its closing brace. -/
  | constraint (raw : String)
  | variableClose
  | groupOpen
  | groupClose
  | alternation
  | optional
  deriving DecidableEq, Inhabited

def Token.spelling : Token → List Char
  | .literal c => [c]
  | .escaped c => ['\\', c]
  | .fullStop => ['.']
  | .wildcard => ['*']
  | .recursiveWildcard => ['*', '*']
  | .variableOpen => ['{']
  | .variableName name => name.toList
  | .variableSeparator => [':']
  | .constraint raw => raw.toList
  | .variableClose => ['}']
  | .groupOpen => ['(']
  | .groupClose => [')']
  | .alternation => ['|']
  | .optional => ['?']

/-- The length of a text in UTF-8. -/
def byteLength : List Char → Nat
  | [] => 0
  | c :: cs => c.utf8Size + byteLength cs

@[simp] theorem byteLength_nil : byteLength [] = 0 := rfl

@[simp] theorem byteLength_cons (c : Char) (cs : List Char) :
    byteLength (c :: cs) = c.utf8Size + byteLength cs := rfl

@[simp] theorem byteLength_append (cs ds : List Char) :
    byteLength (cs ++ ds) = byteLength cs + byteLength ds := by
  induction cs with
  | nil => simp
  | cons c cs ih => simp [ih, Nat.add_assoc]

theorem utf8ByteSize_ofList (cs : List Char) : (String.ofList cs).utf8ByteSize = byteLength cs := by
  induction cs with
  | nil => rfl
  | cons c cs ih =>
    have hcons : String.ofList (c :: cs) = String.singleton c ++ String.ofList cs := by
      apply String.toList_injective
      simp
    rw [hcons, String.utf8ByteSize_append, String.utf8ByteSize_singleton, ih, byteLength_cons]

theorem utf8ByteSize_eq (text : String) : text.utf8ByteSize = byteLength text.toList := by
  rw [← utf8ByteSize_ofList, String.ofList_toList]

/-- Something read from a pattern, with the byte offset at which it starts. -/
structure Located (α : Type) where
  index : Nat
  value : α
  deriving DecidableEq

/-- Places tokens one after the other, the first at byte `i`. -/
def locate : Nat → List Token → List (Located Token)
  | _, [] => []
  | i, t :: ts => ⟨i, t⟩ :: locate (i + byteLength t.spelling) ts

end PathGlob.Pattern

-- SUMMARY: The syntax tree of path patterns and the variables a pattern declares.

/-!
# Patterns

A pattern describes the paths it accepts. Juxtaposition binds tighter than
alternation, and groups are kept in the tree.
-/

namespace PathGlob

/-- A variable with the regex its value has to match, if it has one. -/
structure Declaration where
  name : String
  constraint : Option String
  deriving DecidableEq

inductive Pattern where
  /-- The empty text. -/
  | empty
  | literal (c : Char)
  /-- `*`: text within one segment. -/
  | segment
  /-- `**` with the slash after it: any number of directories. -/
  | directories
  /-- `**`: anything on one line. -/
  | anything
  | var (d : Declaration)
  | seq (p q : Pattern)
  | alt (p q : Pattern)
  | group (p : Pattern)
  | optional (p : Pattern)
  deriving DecidableEq, Inhabited

namespace Pattern

/-- The juxtaposition of some patterns, given last one first. -/
def ofItems (items : List Pattern) : Pattern :=
  items.foldl (fun p item => .seq item p) .empty

/-- The declarations of a pattern, in the order of its text. -/
def declarations : Pattern → List Declaration
  | .empty | .literal _ | .segment | .directories | .anything => []
  | .var d => [d]
  | .seq p q | .alt p q => p.declarations ++ q.declarations
  | .group p | .optional p => p.declarations

/-- The number of declarations. -/
def arity : Pattern → Nat
  | .empty | .literal _ | .segment | .directories | .anything => 0
  | .var _ => 1
  | .seq p q | .alt p q => p.arity + q.arity
  | .group p | .optional p => p.arity

theorem length_declarations (p : Pattern) : p.declarations.length = p.arity := by
  induction p with
  | seq p q ihp ihq | alt p q ihp ihq => simp [declarations, arity, ihp, ihq]
  | group p ih | optional p ih => simpa [declarations, arity] using ih
  | _ => rfl

/-- The declared names, repetitions included. -/
def variableNames (p : Pattern) : List String := p.declarations.map Declaration.name

/-- The constrained variables with their constraints. -/
def constraints (p : Pattern) : List (String × String) :=
  p.declarations.filterMap fun d => d.constraint.map (d.name, ·)

end Pattern

end PathGlob

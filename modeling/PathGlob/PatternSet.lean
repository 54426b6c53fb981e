-- SUMMARY: Ordered lists of compiled patterns that classify paths.
import PathGlob.Matcher
import PathGlob.Regex.Set

/-!
# Pattern sets

A set tells which of its patterns match a path, and extracts variables for the first of them. The
patterns are searched for together; only the first one's matcher is run.
-/

namespace PathGlob

structure PatternSet where
  regexes : RegexSet
  matchers : List Matcher
  /-- Every pattern has its expression in the set. -/
  length_eq : regexes.members.length = matchers.length

namespace PatternSet

/-- Compiles some patterns in order, up to the first that fails. -/
def compileAll (options : Options) : List String → Traced CompileError (List Matcher)
  | [] => pure []
  | pattern :: rest => do
    let m ← Matcher.compile pattern options
    let ms ← compileAll options rest
    return m :: ms

/-- Compiles the sources of some matchers together. -/
def join (ms : List Matcher) (options : Options) : Except RegexError PatternSet :=
  match h : RegexSet.compile (ms.map Matcher.source) options.caseInsensitive options.regexLimit with
  | .error e => .error e
  | .ok regexes => .ok {
      regexes
      matchers := ms
      length_eq := by simpa using (congrArg List.length (RegexSet.map_ofSource?_of_compile h)).symm }

/-- Compiles a set. Its program as a whole has to keep to the size limit too. -/
def build (patterns : List String) (options : Options := {}) :
    Traced CompileError PatternSet := do
  Traced.enter .buildSet
  let ms ← compileAll options patterns
  let rejected :=
    CompileError.regex (", ".intercalate patterns) (", ".intercalate (ms.map Matcher.source))
  let s ← Traced.ofExcept ((join ms options).mapError rejected)
  Traced.report (.compiledSet ms.length)
  return s

def length (s : PatternSet) : Nat := s.matchers.length

def isEmpty (s : PatternSet) : Bool := s.matchers.isEmpty

def get? (s : PatternSet) (i : Nat) : Option Matcher := s.matchers[i]?

/-- The matcher of a member. -/
def matcher (s : PatternSet) (i : Fin s.regexes.members.length) : Matcher :=
  s.matchers.get (i.cast s.length_eq)

/-- The indices of the patterns that match a path, in ascending order. -/
def matching (s : PatternSet) (path : String) : List Nat :=
  (s.regexes.matching path.toList).map Fin.val

/-- The first pattern that matches a path, with its variables. -/
def find? {ε : Type} (s : PatternSet) (path : String) : Traced ε (Option (Nat × Params)) :=
  match s.regexes.matching path.toList with
  | [] => pure none
  | i :: _ => do return (← (s.matcher i).matchPath path).params?.map (i.val, ·)

end PatternSet

end PathGlob

-- SUMMARY: Compiled patterns: compiling, binding declarations to groups, matching a path and extracting variables.
import PathGlob.Pattern.Parse
import PathGlob.Pattern.Source
import PathGlob.Regex.Compiled

/-!
# Matchers

A matcher is a pattern compiled to a regex, with the group of each declaration. A match yields
the value of every variable that took part; where a name is declared more than once, the last
declaration that took part supplies it.
-/

namespace PathGlob

/-- Why a pattern cannot be compiled. -/
inductive CompileError where
  | options (e : OptionsError)
  | pattern (e : Pattern.Error)
  /-- A regex derived from a pattern was refused. -/
  | regex (pattern source : String) (e : RegexError)
  deriving DecidableEq

def CompileError.message : CompileError → String
  | .options e => e.message
  | .pattern e => e.message
  | .regex text source e =>
    s!"regex '{source}' derived from pattern '{text}' was rejected: {e.message}"

/-! ## Results -/

/-- Values by variable name, each name once. -/
abbrev Params := List (String × String)

namespace Params

def get? (ps : Params) (name : String) : Option String := List.lookup name ps

/-- Sets a value, in place of an earlier one. -/
def insert (ps : Params) (name value : String) : Params :=
  (name, value) :: ps.filter fun p => p.1 ≠ name

@[simp] theorem get?_nil (name : String) : get? [] name = none := rfl

theorem lookup_filter_ne {name key : String} (h : key ≠ name) (ps : Params) :
    List.lookup key (ps.filter fun p => p.1 ≠ name) = List.lookup key ps := by
  induction ps with
  | nil => rfl
  | cons p ps ih =>
    obtain ⟨n, v⟩ := p
    by_cases hn : n = name
    · have hk : (key == name) = false := by simp [h]
      rw [List.filter_cons_of_neg (by simp [hn]), ih, List.lookup_cons, hn, hk]
    · rw [List.filter_cons_of_pos (by simp [hn]), List.lookup_cons, List.lookup_cons, ih]

@[simp] theorem get?_insert (ps : Params) (name value key : String) :
    (ps.insert name value).get? key = if key = name then some value else ps.get? key := by
  by_cases h : key = name
  · simp [insert, get?, h]
  · have hk : (key == name) = false := by simp [h]
    simp only [insert, get?, List.lookup_cons, hk, h, if_false]
    exact lookup_filter_ne h ps

end Params

/-- What matching a path gives. A match without variables is `matched []`. -/
inductive MatchResult where
  | noMatch
  | matched (params : Params)
  deriving DecidableEq

namespace MatchResult

def isMatch : MatchResult → Bool
  | .noMatch => false
  | .matched _ => true

def params? : MatchResult → Option Params
  | .noMatch => none
  | .matched ps => some ps

def get? (r : MatchResult) (name : String) : Option String := r.params?.bind (·.get? name)

end MatchResult

/-! ## Matchers -/

/-- A declaration's name with the group that captures it. -/
structure Slot where
  name : String
  group : Nat
  deriving DecidableEq

structure Matcher where
  regex : CompiledRegex
  slots : List Slot

namespace Matcher

/-- The regex source. -/
def source (m : Matcher) : String := m.regex.source

/-- Declared names in the order of the pattern, repetitions included. -/
def variableNames (m : Matcher) : List String := m.slots.map Slot.name

def groupCount (m : Matcher) : Nat := m.regex.regex.groupCount

def isMatch (m : Matcher) (path : String) : Bool := m.regex.regex.isMatch path.toList

/-- The variables of some captures in a text. -/
def paramsOf (slots : List Slot) (c : Captures) (text : List Char) : Params :=
  slots.foldl (fun ps slot => match c.group? slot.group with
    | some mark => ps.insert slot.name (.ofList (mark.slice text))
    | none => ps) []

/-- Matches a path and extracts the variables. -/
def run (m : Matcher) (path : String) : MatchResult :=
  match m.regex.regex.find? path.toList with
  | none => .noMatch
  | some c => .matched (paramsOf m.slots c path.toList)

/-- Matches a path, announcing it. -/
def matchPath {ε : Type} (m : Matcher) (path : String) : Traced ε MatchResult := do
  Traced.enter (.matchPath path.utf8ByteSize)
  return m.run path

end Matcher

/-! ## Compiling -/

/-- Finds the group of each declaration, the first of which is the `n`-th. -/
def bindSlots (r : Regex Atom) (n : Nat) : List String → Except RegexError (List Slot)
  | [] => .ok []
  | name :: names =>
    match r.groupNamed? (Pattern.slotName n) with
    | none => .error (.missingSlot (Pattern.slotName n) name)
    | some group => (bindSlots r (n + 1) names).map (⟨name, group⟩ :: ·)

/-- Checks that each constraint is a regex by itself. -/
def checkConstraints (pattern : String) : List (String × String) → Traced CompileError Unit
  | [] => pure ()
  | (name, raw) :: rest =>
    match CompiledRegex.compile raw with
    | .ok _ => checkConstraints pattern rest
    | .error e => do
      Traced.report (.rejectedConstraint name raw)
      Traced.fail (.regex pattern raw e)

/-- The size limit of the regexes derived from patterns. -/
def Options.regexLimit (o : Options) : Nat := (o.sizeLimit.map UInt64.toNat).getD defaultSizeLimit

/-- Compiles a pattern. -/
def Matcher.compile (pattern : String) (options : Options := {}) :
    Traced CompileError Matcher := do
  Traced.enter (.compile pattern.utf8ByteSize)
  Traced.ofExcept (options.validate.mapError .options)
  let p ← (Pattern.parse pattern options).mapError .pattern
  checkConstraints pattern p.constraints
  let rejected := CompileError.regex pattern p.source
  let regex ← Traced.ofExcept <|
    (CompiledRegex.compile p.source options.caseInsensitive options.regexLimit).mapError rejected
  let slots ← Traced.ofExcept ((bindSlots regex.regex 0 p.variableNames).mapError rejected)
  Traced.report (.compiledPattern slots.length regex.source)
  return ⟨regex, slots⟩

/-- Compiles a pattern and matches one path. -/
def matchOnce (path pattern : String) : Traced CompileError MatchResult := do
  (← Matcher.compile pattern).matchPath path

end PathGlob

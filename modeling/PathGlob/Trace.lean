-- SUMMARY: What a computation announces while it runs, and computations that keep that log.

/-!
# Traces

Compiling and matching announce the stages they enter and the decisions they take. A
`Traced` computation keeps what it announced, in order, also when it fails.
-/

namespace PathGlob

/-- A stage, announced on entry. Lengths count UTF-8 bytes. -/
inductive Span where
  | tokenize (patternLength : Nat)
  | parse (patternLength : Nat)
  | compile (patternLength : Nat)
  | lookup (patternLength : Nat)
  | matchPath (pathLength : Nat)
  | buildSet
  deriving DecidableEq

/-- A decision taken within a stage. -/
inductive Event where
  | duplicateVariable (name : String)
  | rejectedConstraint (name constraint : String)
  | compiledPattern (variableCount : Nat) (regex : String)
  | compiledSet (patterns : Nat)
  | evicted (pattern : String)
  deriving DecidableEq

inductive Entry where
  | span (s : Span)
  | event (e : Event)
  deriving DecidableEq

/-! ## Published form -/

/-- A value attached to an entry. -/
inductive Field where
  | text (s : String)
  | number (n : Nat)
  deriving DecidableEq

inductive Level where
  | debug
  | trace
  deriving DecidableEq

namespace Level

def name : Level → String
  | .debug => "DEBUG"
  | .trace => "TRACE"

end Level

namespace Span

def name : Span → String
  | .tokenize _ => "tokenize"
  | .parse _ => "translate_with"
  | .compile _ => "compile_with"
  | .lookup _ => "get_or_compile"
  | .matchPath _ => "match_path"
  | .buildSet => "with_options"

def fields : Span → List (String × Field)
  | .tokenize n | .parse n | .compile n | .lookup n => [("pattern_len", .number n)]
  | .matchPath n => [("path_len", .number n)]
  | .buildSet => []

end Span

namespace Event

def level : Event → Level
  | .evicted _ => .trace
  | _ => .debug

def message : Event → String
  | .duplicateVariable _ => "duplicate variable declared; last match wins"
  | .rejectedConstraint _ _ => "rejected variable constraint"
  | .compiledPattern _ _ => "compiled path pattern"
  | .compiledSet _ => "compiled pattern set"
  | .evicted _ => "evicted compiled matcher"

def fields : Event → List (String × Field)
  | .duplicateVariable name => [("variable", .text name)]
  | .rejectedConstraint name raw => [("variable", .text name), ("constraint", .text raw)]
  | .compiledPattern n regex => [("variables", .number n), ("regex", .text regex)]
  | .compiledSet n => [("patterns", .number n)]
  | .evicted pattern => [("pattern", .text pattern)]

end Event

/-! ## Traced computations -/

/-- The outcome of a computation with what it announced on the way. -/
structure Traced (ε α : Type) where
  log : List Entry
  outcome : Except ε α

namespace Traced

variable {ε ε' α β : Type}

/-- A finished computation that announced nothing. -/
def ofExcept (x : Except ε α) : Traced ε α := ⟨[], x⟩

def fail (e : ε) : Traced ε α := ofExcept (.error e)

def announce (e : Entry) : Traced ε Unit := ⟨[e], .ok ()⟩

def enter (s : Span) : Traced ε Unit := announce (.span s)

def report (e : Event) : Traced ε Unit := announce (.event e)

/-- Runs `f` on the value of `x` and keeps both logs; a failure of `x` ends the run. -/
def andThen (x : Traced ε α) (f : α → Traced ε β) : Traced ε β :=
  match x.outcome with
  | .ok a => ⟨x.log ++ (f a).log, (f a).outcome⟩
  | .error e => ⟨x.log, .error e⟩

instance : Monad (Traced ε) where
  pure a := ofExcept (.ok a)
  bind := andThen

def mapError (f : ε → ε') (x : Traced ε α) : Traced ε' α :=
  ⟨x.log, x.outcome.mapError f⟩

@[simp] theorem log_ofExcept (x : Except ε α) : (ofExcept x).log = [] := rfl
@[simp] theorem outcome_ofExcept (x : Except ε α) : (ofExcept x).outcome = x := rfl
@[simp] theorem log_pure (a : α) : (pure a : Traced ε α).log = [] := rfl
@[simp] theorem outcome_pure (a : α) : (pure a : Traced ε α).outcome = .ok a := rfl
@[simp] theorem log_fail (e : ε) : (fail e : Traced ε α).log = [] := rfl
@[simp] theorem outcome_fail (e : ε) : (fail e : Traced ε α).outcome = .error e := rfl
@[simp] theorem log_enter (s : Span) : (enter s : Traced ε Unit).log = [.span s] := rfl
@[simp] theorem outcome_enter (s : Span) : (enter s : Traced ε Unit).outcome = .ok () := rfl
@[simp] theorem log_report (e : Event) : (report e : Traced ε Unit).log = [.event e] := rfl
@[simp] theorem outcome_report (e : Event) : (report e : Traced ε Unit).outcome = .ok () := rfl
@[simp] theorem log_mapError (f : ε → ε') (x : Traced ε α) : (x.mapError f).log = x.log := rfl
@[simp] theorem outcome_mapError (f : ε → ε') (x : Traced ε α) :
    (x.mapError f).outcome = x.outcome.mapError f := rfl

theorem bind_of_ok {x : Traced ε α} {a : α} (h : x.outcome = .ok a) (f : α → Traced ε β) :
    x >>= f = ⟨x.log ++ (f a).log, (f a).outcome⟩ := by
  simp only [bind, andThen, h]

theorem bind_of_error {x : Traced ε α} {e : ε} (h : x.outcome = .error e)
    (f : α → Traced ε β) : x >>= f = ⟨x.log, .error e⟩ := by
  simp only [bind, andThen, h]

theorem outcome_bind (x : Traced ε α) (f : α → Traced ε β) :
    (x >>= f).outcome = x.outcome.bind fun a => (f a).outcome := by
  cases h : x.outcome with
  | ok a => rw [bind_of_ok h]; rfl
  | error e => rw [bind_of_error h]; rfl

theorem log_bind (x : Traced ε α) (f : α → Traced ε β) :
    (x >>= f).log = x.log ++ match x.outcome with
      | .ok a => (f a).log
      | .error _ => [] := by
  cases h : x.outcome with
  | ok a => rw [bind_of_ok h]
  | error e => rw [bind_of_error h, List.append_nil]

theorem exists_of_bind_eq_ok {x : Traced ε α} {f : α → Traced ε β} {b : β}
    (h : (x >>= f).outcome = .ok b) : ∃ a, x.outcome = .ok a ∧ (f a).outcome = .ok b := by
  cases hx : x.outcome with
  | ok a => exact ⟨a, rfl, by rwa [bind_of_ok hx] at h⟩
  | error e =>
    rw [bind_of_error hx] at h
    cases h

theorem of_mapError_eq_ok {f : ε → ε'} {x : Except ε α} {a : α} (h : x.mapError f = .ok a) :
    x = .ok a := by
  cases x with
  | ok b =>
    cases h
    rfl
  | error e => cases h

end Traced

end PathGlob

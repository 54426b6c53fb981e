-- SUMMARY: A cache of compiled patterns with hit and miss counters.
import PathGlob.Cache.Recent
import PathGlob.Matcher

/-!
# Caches

A cache compiles each pattern on its first use and keeps the matcher while it is among the most
recently used. Patterns that fail to compile are not kept.
-/

namespace PathGlob

/-- A matcher made by a cache. No two that a cache makes have the same serial number. -/
structure Handle where
  serial : Nat
  matcher : Matcher

structure Cache where
  options : Options := {}
  recent : Recent Handle
  hits : Nat := 0
  misses : Nat := 0
  /-- Matchers made so far. -/
  made : Nat := 0

namespace Cache

def defaultCapacity : Nat := 256

/-- A cache with the default options. -/
def ofCapacity (capacity : Nat := defaultCapacity) : Cache := { recent := .ofCapacity capacity }

/-- A cache with valid options. -/
def withOptions (capacity : Nat) (options : Options) : Except OptionsError Cache :=
  options.validate.map fun _ => { options, recent := .ofCapacity capacity }

def capacity (c : Cache) : Nat := c.recent.capacity

def size (c : Cache) : Nat := c.recent.size

def isEmpty (c : Cache) : Bool := c.recent.isEmpty

/-- The matcher of a pattern, compiled if it is not in the cache. -/
def lookup (c : Cache) (pattern : String) : Traced CompileError Handle × Cache :=
  let entered := Entry.span (.lookup pattern.utf8ByteSize)
  match c.recent.touch pattern with
  | (some h, recent) => (⟨[entered], .ok h⟩, { c with recent, hits := c.hits + 1 })
  | (none, recent) =>
    let c := { c with recent, misses := c.misses + 1 }
    let compiled := Matcher.compile pattern c.options
    match compiled.outcome with
    | .error e => (⟨entered :: compiled.log, .error e⟩, c)
    | .ok m =>
      let h : Handle := ⟨c.made, m⟩
      let (evicted, recent) := recent.store pattern h
      let evictions := evicted.toList.map fun key => Entry.event (.evicted key)
      (⟨entered :: compiled.log ++ evictions, .ok h⟩, { c with recent, made := c.made + 1 })

/-- Matches a path with the matcher of a pattern. -/
def matchPath (c : Cache) (path pattern : String) : Traced CompileError MatchResult × Cache :=
  let (found, c) := c.lookup pattern
  (do (← found).matcher.matchPath path, c)

/-- Drops all matchers and keeps the counters. -/
def clear (c : Cache) : Cache := { c with recent := c.recent.clear }

end Cache

end PathGlob

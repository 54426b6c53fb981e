-- SUMMARY: Expressions compiled together, and telling in one search which of them match a text.
import PathGlob.Regex.Compiled

/-!
# Sets of expressions

A set only tells which of its members match. It notes no captures, so it has no choices to make:
each member is followed forwards, from all places at once, to the places at which it can stop.
-/

namespace PathGlob

/-- Adds the places that some places lead to, in a number of rounds or until a round adds none. -/
def spread (next : Nat → Nat) : (rounds places : Nat) → Nat
  | 0, places => places
  | rounds + 1, places =>
    let more := places ||| next places
    if more = places then places else spread next rounds more

/-- The places at which an expression can stop in a text of a given length if it starts at some
places. -/
def Regex.stops (length : Nat) : Regex Site → Nat → Nat
  | .empty, places => places
  | .atom (.step taken), places => ((places &&& taken) <<< 1) &&& everywhere length
  | .atom (.stand held), places => places &&& held
  | .capture _ _ r, places => r.stops length places
  | .cat r s, places => s.stops length (r.stops length places)
  | .alt r s, places => r.stops length places ||| s.stops length places
  | .repetition min max _ r, places =>
    let rounds := match max with
      | none => length + 1
      | some m => m - min
    spread (r.stops length) rounds (min.repeat (r.stops length) places)

/-- Some expressions compiled together. -/
structure RegexSet where
  members : List (Regex Atom)

namespace RegexSet

/-- Compiles regex sources whose program as a whole takes at most `limit` bytes. -/
def compile (sources : List String) (caseInsensitive : Bool := false)
    (limit : Nat := defaultSizeLimit) : Except RegexError RegexSet :=
  match sources.mapM fun source => Regex.ofSource? source caseInsensitive with
  | none => .error .malformed
  | some rs => if Regex.setSize rs ≤ limit then .ok ⟨rs⟩ else .error (.tooLarge limit)

/-- The members that match a text, in ascending order. -/
def matching (s : RegexSet) (text : List Char) : List (Fin s.members.length) :=
  let index := charPlaces text
  (List.finRange s.members.length).filter fun i =>
    ((s.members.get i).map (Atom.site text index)).stops text.length (everywhere text.length) != 0

/-- The members are the expressions that the sources stand for, in order. -/
theorem map_ofSource?_of_compile {sources : List String} {caseInsensitive : Bool} {limit : Nat}
    {s : RegexSet} (h : compile sources caseInsensitive limit = .ok s) :
    (sources.map fun source => Regex.ofSource? source caseInsensitive) = s.members.map some := by
  unfold compile at h
  split at h
  · cases h
  · next hmembers =>
    split at h
    · cases h
      exact Regex.map_eq_map_some_of_mapM hmembers
    · cases h

end RegexSet

end PathGlob

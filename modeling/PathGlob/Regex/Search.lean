-- SUMMARY: Finding the leftmost match of an expression and what its groups captured.
import PathGlob.Regex.Plan

/-!
# Searching

A search takes the leftmost place from which an expression matches and there, at every choice,
the first alternative that can still succeed. Repetitions prefer one more iteration if greedy
and none if lazy. No choice is taken twice at one place: where an iteration that took nothing
leads back to a choice, the next alternative has its turn.
-/

namespace PathGlob

/-- What a group captured: the places where it starts and stops. -/
structure Mark where
  group : Nat
  start : Nat
  stop : Nat
  deriving DecidableEq

/-- A match with the marks of its groups, last one first. -/
structure Captures where
  start : Nat
  stop : Nat
  marks : List Mark
  deriving DecidableEq

namespace Captures

/-- The last mark of a group. Group 0 is the whole match. -/
def group? (c : Captures) (index : Nat) : Option Mark :=
  if index = 0 then some ⟨0, c.start, c.stop⟩
  else c.marks.find? fun m => m.group = index

end Captures

/-- The part of a text between the places of a mark. -/
def Mark.slice (m : Mark) (text : List Char) : List Char :=
  (text.drop m.start).take (m.stop - m.start)

/-! ## Following a plan -/

/-- What is left to do. -/
inductive Task where
  | run (p : Plan)
  /-- Ends a group that started at a place. -/
  | close (group start : Nat)
  /-- Takes another iteration of a loop or leaves it. -/
  | again (number goal : Nat) (greedy : Bool) (body : Plan)

/-- A way to go on: what is left to do, first things first, with the marks so far. -/
structure Course where
  tasks : List Task
  marks : List Mark

/-- What a course comes to at a place. -/
inductive Move where
  | stop (marks : List Mark)
  /-- One way to go on, at the next place. -/
  | advance (c : Course)
  | proceed (c : Course)
  /-- The ways to go on from a choice, in order of preference. -/
  | choose (number : Nat) (cs : List Course)

/-- What can be done next at a place. Ways on that lead nowhere are left out. -/
def Course.next (place : Nat) : Course → Move
  | ⟨[], marks⟩ => .stop marks
  | ⟨.close group start :: tasks, marks⟩ => .proceed ⟨tasks, ⟨group, start, place⟩ :: marks⟩
  | ⟨.again number goal greedy body :: tasks, marks⟩ =>
    let more := if body.live.testBit place then
      [⟨.run body :: .again number goal greedy body :: tasks, marks⟩] else []
    let leave := if goal.testBit place then [⟨tasks, marks⟩] else []
    .choose number (if greedy then more ++ leave else leave ++ more)
  | ⟨.run p :: tasks, marks⟩ =>
    match p with
    | .stay _ => .proceed ⟨tasks, marks⟩
    | .step _ => .advance ⟨tasks, marks⟩
    | .capture group body => .proceed ⟨.run body :: .close group place :: tasks, marks⟩
    | .cat a b => .proceed ⟨.run a :: .run b :: tasks, marks⟩
    | .choice number _ a b =>
      .choose number (([a, b].filter (·.live.testBit place)).map fun p =>
        ⟨.run p :: tasks, marks⟩)
    | .loop number _ goal greedy isOptional body =>
      let again := .again number goal greedy body :: tasks
      .proceed ⟨if isOptional then again else .run body :: again, marks⟩

/-- Follows the first of some courses that does not come to a choice met before at the same place;
`seen` holds the numbers of those. Nothing but such a choice ends a course, so the one that takes a
character is kept and the others are dropped. -/
def follow : (fuel place seen : Nat) → List Course → Nat × List Mark
  | fuel + 1, place, seen, c :: cs =>
    match c.next place with
    | .stop marks => (place, marks)
    | .advance c => follow fuel (place + 1) 0 [c]
    | .proceed c => follow fuel place seen (c :: cs)
    | .choose number cs' =>
      if seen.testBit number then follow fuel place seen cs
      else follow fuel place (seen ||| 1 <<< number) (cs' ++ cs)
  | _, place, _, _ => (place, [])

namespace Regex

/-- The plan for a text in which a match may stop anywhere, with the number of its parts. -/
def planFor (r : Regex Atom) (text : List Char) : Plan × Nat :=
  (r.map (Atom.site text (charPlaces text))).draft text.length 0 (everywhere text.length)

/-- The places at which a match can start. -/
def starts (r : Regex Atom) (text : List Char) : Nat := (r.planFor text).1.live

def isMatch (r : Regex Atom) (text : List Char) : Bool := r.starts text != 0

/-- The leftmost match in a text. At one place every choice is met once and leaves two courses at
most, each of which passes a part at most twice before it comes to a choice again. -/
def find? (r : Regex Atom) (text : List Char) : Option Captures :=
  let (p, size) := r.planFor text
  let fuel := (text.length + 1) * ((2 * size + 2) * (2 * size + 2))
  ((List.range (text.length + 1)).find? p.live.testBit).map fun start =>
    let (stop, marks) := follow fuel start 0 [⟨[.run p], []⟩]
    ⟨start, stop, marks⟩

end Regex

end PathGlob

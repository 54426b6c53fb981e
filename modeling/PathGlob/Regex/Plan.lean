-- SUMMARY: Plans: an expression unrolled for one text, with the places from which each part can still lead to a match.
import PathGlob.Regex.Basic

/-!
# Plans

A place of a text is the number of characters before it. A set of places is a number whose bits
are its members. A plan is an expression with its repetitions unrolled, built for a goal: the
places from which what follows can succeed. Every part notes from which places it can be taken so
that the goal is met. With these notes no character is ever taken in vain.
-/

namespace PathGlob

/-- An atom in a given text: the places from which it takes a step, or at which it holds. -/
inductive Site where
  | step (places : Nat)
  | stand (places : Nat)

def Site.isStand : Site → Bool
  | .step _ => false
  | .stand _ => true

/-- The places of a character. -/
def placesOf (c : Char) : List Char → Nat
  | [] => 0
  | d :: ds => 2 * placesOf c ds + (d == c).toNat

/-- The characters of a text with their places. -/
def charPlaces (text : List Char) : List (Char × Nat) :=
  text.eraseDups.map fun c => (c, placesOf c text)

/-- The places of the members of a set, among characters with their places. -/
def CharSet.places (s : CharSet) (index : List (Char × Nat)) : Nat :=
  index.foldl (fun places e => if s.contains e.1 then places ||| e.2 else places) 0

/-- The places at which an assertion holds, in a text with `before` in front of it. -/
def Look.places (l : Look) (before : Option Char) : List Char → Nat
  | [] => (l.holds before none).toNat
  | c :: cs => 2 * l.places (some c) cs + (l.holds before (some c)).toNat

/-- An atom in a text, given the text's characters with their places. -/
def Atom.site (text : List Char) (index : List (Char × Nat)) : Atom → Site
  | .char s _ => .step (s.places index)
  | .look l => .stand (l.places none text)

/-- All places of a text of a given length. -/
def everywhere (length : Nat) : Nat := 1 <<< (length + 1) - 1

/-- An expression unrolled. Each part knows the places from which it leads to its goal (`live`);
each choice has a number of its own. -/
inductive Plan where
  /-- Goes on without taking a character. -/
  | stay (live : Nat)
  /-- Takes one character. -/
  | step (live : Nat)
  | capture (group : Nat) (body : Plan)
  | cat (a b : Plan)
  /-- One of two, the first preferred. -/
  | choice (number live : Nat) (a b : Plan)
  /-- A choice, after each iteration, between another one and the goal. A loop that `isOptional`
  has that choice before its first iteration too. -/
  | loop (number live goal : Nat) (greedy isOptional : Bool) (body : Plan)

/-- The places from which a plan leads to its goal. -/
def Plan.live : Plan → Nat
  | .stay live | .step live | .choice _ live _ _ | .loop _ live _ _ _ _ => live
  | .capture _ body => body.live
  | .cat a _ => a.live

/-- A plan still without a goal: given the first free number and the goal, it takes as many numbers
as it has parts and returns the next free one. -/
abbrev Draft := (number goal : Nat) → Plan × Nat

namespace Draft

/-- Goes on at some places without taking a character. -/
def stay (places : Nat) : Draft := fun number goal => (.stay (places &&& goal), number + 1)

/-- Takes one character from some places. -/
def step (places : Nat) : Draft := fun number goal =>
  (.step (places &&& (goal >>> 1)), number + 1)

def capture (group : Nat) (a : Draft) : Draft := fun number goal =>
  let (p, next) := a (number + 1) goal
  (.capture group p, next)

def seq (a b : Draft) : Draft := fun number goal =>
  let (q, next) := b (number + 1) goal
  let (p, next) := a next q.live
  (.cat p q, next)

/-- Either draft, the first preferred. -/
def either (a b : Draft) : Draft := fun number goal =>
  let (p, next) := a (number + 1) goal
  let (q, next) := b next goal
  (.choice number (p.live ||| q.live) p q, next)

/-- A draft `n` times, then another. -/
def times (a : Draft) (n : Nat) (rest : Draft) : Draft := fun number goal =>
  n.repeat (fun (q, number) =>
    let (p, next) := a (number + 1) q.live
    (.cat p q, next)) (rest number goal)

/-- A draft or nothing, the former preferred if `greedy`. -/
def optional (length : Nat) (greedy : Bool) (a : Draft) : Draft :=
  let nothing := stay (everywhere length)
  if greedy then either a nothing else either nothing a

/-- A draft at most `n` times. Giving up leads to the goal whatever has been taken. -/
def upTo (length : Nat) (greedy : Bool) (a : Draft) (n : Nat) : Draft := fun number goal =>
  n.repeat (fun (q, number) =>
    let (p, next) := a (number + 1) q.live
    let more := Plan.cat p q
    let stop := Plan.stay (everywhere length &&& goal)
    let (first, second) := if greedy then (more, stop) else (stop, more)
    (.choice number (more.live ||| stop.live) first second, next + 1))
    (stay (everywhere length) number goal)

/-- Extends the places from which an iteration can go on until they stay the same. -/
def settle (body : Nat → Plan × Nat) (goal : Nat) : (rounds reach : Nat) → Plan × Nat
  | 0, reach => body reach
  | rounds + 1, reach =>
    let (p, next) := body reach
    let reach' := goal ||| p.live
    if reach' = reach then (p, next) else settle body goal rounds reach'

/-- A draft again and again. Each round of settling adds a place, so there are at most as many
rounds as places. -/
def loop (length : Nat) (greedy isOptional : Bool) (body : Draft) : Draft := fun number goal =>
  let (p, next) := settle (body (number + 1)) goal (length + 1) goal
  (.loop number (if isOptional then goal ||| p.live else p.live) goal greedy isOptional p, next)

/-- A draft from `min` to `max` times. If it may take nothing, any number of times means once or
more, or not at all, so that it is entered even if to no avail. -/
def repetition (length min : Nat) (max : Option Nat) (greedy isNullable : Bool) (a : Draft) :
    Draft :=
  match min, max with
  | 0, none =>
    if isNullable then optional length greedy (loop length greedy false a)
    else loop length greedy true a
  | n + 1, none => times a n (loop length greedy false a)
  | n, some m => times a n (upTo length greedy a (m - n))

end Draft

namespace Regex

/-- The draft of an expression for a text of a given length. -/
def draft (length : Nat) : Regex Site → Draft
  | .empty => .stay (everywhere length)
  | .atom (.step places) => .step places
  | .atom (.stand places) => .stay places
  | .capture index _ r => .capture index (r.draft length)
  | .cat r s => .seq (r.draft length) (s.draft length)
  | .alt r s => .either (r.draft length) (s.draft length)
  | .repetition min max greedy r =>
    .repetition length min max greedy (r.isNullable Site.isStand) (r.draft length)

end Regex

end PathGlob

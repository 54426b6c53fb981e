-- SUMMARY: Building regular expressions in normal form: flat sequences and alternatives, joined sets, shared beginnings taken out.
import PathGlob.Regex.Basic

/-!
# Normal form

Sequences and alternatives are flat: they lean to the right and no member is one of their
kind. Single characters next to each other make one piece of a sequence. Alternatives that are
all single characters, or all other sets, are one set; what all of a number of alternatives
begin with is taken once, before the choice. The order of preference is that of the normal
form: taking a shared beginning once gives up preferring the first alternative over a longer
beginning.
-/

namespace PathGlob.Regex

/-! ## Sets -/

/-- One character of a set. How a set is written counts only if it has two or more members. -/
def ofSet (s : CharSet) (ascii : Bool := false) : Regex Atom :=
  let s := s.scalars
  .atom (.char s (ascii && !s.isTiny))

def ofChar (c : Char) : Regex Atom := .atom (.char (.singleton c) false)

/-- The expression that nothing matches. -/
def never : Regex Atom := .atom (.char .empty false)

def set? : Regex Atom → Option CharSet
  | .atom (.char s _) => some s
  | _ => none

def isSingleChar (r : Regex Atom) : Bool := r.set?.any CharSet.isSingle

/-! ## Sequences -/

/-- The members of a sequence. -/
def parts {α : Type} : Regex α → List (Regex α)
  | .empty => []
  | .cat r s => r :: s.parts
  | r => [r]

def ofParts {α : Type} : List (Regex α) → Regex α
  | [] => .empty
  | [r] => r
  | r :: rs => .cat r (ofParts rs)

/-- One expression after the other. -/
def append {α : Type} : Regex α → Regex α → Regex α
  | .empty, s => s
  | .cat r r', s => .cat r (r'.append s)
  | r, .empty => r
  | r, s => .cat r s

/-- The pieces of a sequence: single characters next to each other taken together, any other
member by itself. -/
def pieces (r : Regex Atom) : List (List (Regex Atom)) :=
  r.parts.splitBy fun a b => a.isSingleChar && b.isSingleChar

/-- The sequence of some pieces. -/
def ofPieces (ps : List (List (Regex Atom))) : Regex Atom := ofParts ps.flatten

/-! ## Alternatives -/

def branches {α : Type} : Regex α → List (Regex α)
  | .alt r s => r :: s.branches
  | r => [r]

def ofBranches : List (Regex Atom) → Regex Atom
  | [] => never
  | [r] => r
  | r :: rs => .alt r (ofBranches rs)

/-- The set that some alternatives amount to, if all are single characters or all are other
sets. -/
def joined? (rs : List (Regex Atom)) : Option CharSet :=
  if rs.all isSingleChar || !rs.any isSingleChar then (rs.mapM set?).map .unions else none

theorem map_eq_map_some_of_mapM {α β : Type} {f : α → Option β} {as : List α} {bs : List β}
    (h : as.mapM f = some bs) : as.map f = bs.map some := by
  induction as generalizing bs with
  | nil =>
    cases h
    rfl
  | cons a as ih =>
    rw [List.mapM_cons] at h
    obtain ⟨b, hb, h⟩ := Option.bind_eq_some_iff.1 h
    obtain ⟨bs', hbs, h⟩ := Option.bind_eq_some_iff.1 h
    cases h
    rw [List.map_cons, List.map_cons, hb, ih hbs]

/-- Two or more alternatives as one set or as a choice. -/
def choice (rs : List (Regex Atom)) : Regex Atom :=
  match joined? rs with
  | some s => ofSet s
  | none => ofBranches rs

/-- What two lists begin with. -/
def commonPrefix {α : Type} [DecidableEq α] : List α → List α → List α
  | a :: as, b :: bs => if a = b then a :: commonPrefix as bs else []
  | _, _ => []

/-- The pieces that all of some sequences begin with. -/
def sharedPieces : List (List (List (Regex Atom))) → List (List (Regex Atom))
  | [] => []
  | ps :: pss => pss.foldl commonPrefix ps

/-- The alternatives of a number of expressions. Shared pieces are looked for only if every
alternative has two or more. -/
def alternation (rs : List (Regex Atom)) : Regex Atom :=
  match rs with
  | [r] => r
  | rs =>
    let rs := rs.flatMap branches
    let pss := rs.map pieces
    let shared := if pss.all fun ps => 1 < ps.length then sharedPieces pss else []
    if shared.isEmpty then choice rs
    else
      let rests := pss.map fun ps => ofPieces (ps.drop shared.length)
      (ofPieces shared).append (choice (rests.flatMap branches))

/-! ## Repetitions -/

/-- Whether an expression takes no character, so that repeating it adds nothing. -/
def isStill : Regex Atom → Bool
  | .empty | .atom (.look _) => true
  | .atom (.char _ _) => false
  | .capture _ _ r | .repetition _ _ _ r => r.isStill
  | .cat r s | .alt r s => r.isStill && s.isStill

/-- The repetition of an expression. Nothing is left of an expression repeated no times, its
captures included, and one that takes no character is taken at most once. -/
def repeated (min : Nat) (max : Option Nat) (greedy : Bool) (r : Regex Atom) : Regex Atom :=
  let (min, max) := if r.isStill then (Nat.min min 1, some ((max.getD 1).min 1)) else (min, max)
  if min = 0 ∧ max = some 0 then .empty
  else if min = 1 ∧ max = some 1 then r
  else .repetition min max greedy r

end PathGlob.Regex

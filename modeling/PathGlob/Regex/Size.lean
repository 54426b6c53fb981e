-- SUMMARY: The size of the programs that an expression compiles to, in bytes, without building them.
import PathGlob.Regex.Normal

/-!
# Compiled size

An expression compiles to two programs, one that reads the bytes of a text forwards and notes
captures, and one that reads them backwards. The larger one counts. A repeated expression is
compiled once for each time it may be taken, so sizes multiply; they are computed before anything
is unrolled.
-/

namespace PathGlob

/-- The bytes that one instruction takes. -/
def instructionSize : Nat := 32

/-- What each byte range that an instruction tells apart takes besides. -/
def rangeSize : Nat := 8

/-- What each way out of a choice takes besides. -/
def exitSize : Nat := 4

/-- The largest program that is accepted where no limit is given. -/
def defaultSizeLimit : Nat := 10 * 1024 * 1024

/-- What kind of program an expression is compiled to. -/
structure ProgramKind where
  forwards : Bool
  captures : Bool

/-! ## Bytes of characters -/

/-- A range of bytes. -/
abbrev ByteRange := Nat × Nat

/-- The sequences of byte ranges that cover the numbers from `lo` to `hi`, written with `more`
bytes of six bits after the first, to which `mark` is added. -/
def byteSequences (mark : Nat) : (more lo hi : Nat) → List (List ByteRange)
  | 0, lo, hi => [[(mark + lo, mark + hi)]]
  | more + 1, lo, hi =>
    let unit := 64 ^ (more + 1)
    let a := lo / unit
    let b := hi / unit
    let lead (d : Nat) (rest : List (List ByteRange)) := rest.map ((mark + d, mark + d) :: ·)
    if a = b then lead a (byteSequences 0x80 more (lo % unit) (hi % unit))
    else
      let first := lo % unit ≠ 0
      let last := hi % unit ≠ unit - 1
      let a' := if first then a + 1 else a
      let b' := if last then b - 1 else b
      (if first then lead a (byteSequences 0x80 more (lo % unit) (unit - 1)) else []) ++
        (if a' ≤ b' then [(mark + a', mark + b') :: List.replicate (more + 1) (0x80, 0xBF)]
          else []) ++
        (if last then lead b (byteSequences 0x80 more 0 (hi % unit)) else [])

/-- The code points of each UTF-8 length: the mark of the first byte, the number of bytes after it,
the first and the last code point. Surrogates have no encoding. -/
def encodedRanges : List (Nat × Nat × Nat × Nat) :=
  [(0, 0, 0, 0x7F), (0xC0, 1, 0x80, 0x7FF), (0xE0, 2, 0x800, 0xD7FF), (0xE0, 2, 0xE000, 0xFFFF),
    (0xF0, 3, 0x10000, 0x10FFFF)]

/-- The UTF-8 sequences that cover the code points from `a` to `b`. -/
def encodings (a b : Nat) : List (List ByteRange) :=
  encodedRanges.flatMap fun (mark, more, first, last) =>
    let lo := max a first
    let hi := min b last
    if lo ≤ hi then byteSequences mark more lo hi else []

namespace CharSet

/-- The UTF-8 sequences that cover a set, in ascending order. -/
def encodings (s : CharSet) : List (List ByteRange) :=
  s.ranges.flatMap fun r => PathGlob.encodings r.1 r.2

def isAscii (s : CharSet) : Bool := s.ranges.all fun r => r.2 < 0x80

end CharSet

/-- The number of different beginnings of some sequences in ascending order, complete ones
included. -/
def beginnings (seqs : List (List ByteRange)) : Nat :=
  (seqs.foldl (fun (n, last) seq =>
    (n + seq.length - (Regex.commonPrefix last seq).length, seq)) (0, [])).1

/-! ## Sets and words -/

/-- A single character is one instruction a byte, any other ASCII set one instruction and a place
to go on from. Other sets share what their sequences begin with. -/
def CharSet.size (kind : ProgramKind) (s : CharSet) : Nat :=
  let seqs := s.encodings
  if s.isSingle then instructionSize * seqs.flatten.length
  else if s.isAscii then 2 * instructionSize + rangeSize * seqs.length
  else
    let parts := beginnings seqs
    if kind.forwards then
      instructionSize * (2 + parts - seqs.length) + rangeSize * parts
    else instructionSize * (2 + parts) + exitSize * seqs.length

/-- The size of a tree that tells some words apart, in order of preference. Every inner node is a
choice between ending there and going on; words after one that ends there go on by themselves. -/
def wordTreeSize : (depth : Nat) → List (List ByteRange) → Nat
  | 0, _ => 0
  | depth + 1, words =>
    let runs := words.splitBy fun v w => v.isEmpty == w.isEmpty
    instructionSize + (runs.map fun run =>
      let heads := (run.filterMap List.head?).eraseDups
      if heads.isEmpty then exitSize * run.length
      else exitSize + instructionSize + (if heads.length = 1 then 0 else rangeSize * heads.length) +
        (heads.map fun h =>
          let tails := (run.filter fun w => w.head? = some h).map List.tail
          if tails.all List.isEmpty then 0 else wordTreeSize depth tails).sum).sum

namespace Regex

/-- The bytes of an expression that is a word of one or more characters. -/
def word? (r : Regex Atom) : Option (List ByteRange) :=
  let sets := r.parts.filterMap set?
  if r.parts.all isSingleChar && !r.parts.isEmpty then
    some (sets.flatMap fun s => s.encodings.flatten)
  else none

/-- The bytes of all branches of an alternative if they are words. -/
def words? (kind : ProgramKind) (r : Regex Atom) : Option (List (List ByteRange)) :=
  (r.branches.mapM word?).map fun words =>
    if kind.forwards then words else words.map List.reverse

/-! ## Programs -/

/-- The size of an expression within a program. A choice that is the rest of another one counts
with it, which is what `inChoice` is for. -/
def bodySize (kind : ProgramKind) (inChoice : Bool) : Regex Atom → Nat
  | .empty | .atom (.look _) => instructionSize
  | .atom (.char s _) => s.size kind
  | .capture _ _ r => r.bodySize kind false + (if kind.captures then 2 * instructionSize else 0)
  | .cat r s => r.bodySize kind false + s.bodySize kind false
  | .alt r s =>
    match if inChoice then none else words? kind (.alt r s) with
    | some words =>
      instructionSize + wordTreeSize ((words.map List.length).foldl max 0 + 1) words
    | none =>
      r.bodySize kind false + s.bodySize kind true + exitSize +
        (if inChoice then 0 else 2 * instructionSize + exitSize)
  | .repetition min none _ r =>
    let again := instructionSize + 2 * exitSize
    let body := r.bodySize kind false
    if min = 0 then body + again + (if r.isNullable Atom.isLook then again + instructionSize else 0)
    else min * body + again
  | .repetition min (some max) _ r =>
    let optional := instructionSize + 2 * exitSize
    max * r.bodySize kind false +
      (if min = max then 0 else (max - min) * optional + instructionSize)

/-- The size of the program of one kind for an expression, up to where it is entered. -/
def matchSize (kind : ProgramKind) (r : Regex Atom) : Nat :=
  r.bodySize kind false + (if kind.captures then 3 else 1) * instructionSize

/-- The size of the program of one kind for some expressions at once. -/
def programSize (kind : ProgramKind) : List (Regex Atom) → Nat
  | [] => 2 * instructionSize
  | [r] => instructionSize + r.matchSize kind
  | rs => rs.foldl (fun n r => n + exitSize + r.matchSize kind) (3 * instructionSize)

/-- The size of an expression: that of the larger of its programs. -/
def size (r : Regex Atom) : Nat :=
  max (programSize ⟨true, true⟩ [r]) (programSize ⟨false, false⟩ [r])

/-- The size of some expressions compiled together to tell which of them match. -/
def setSize (rs : List (Regex Atom)) : Nat :=
  max (programSize ⟨true, false⟩ rs) (programSize ⟨false, false⟩ rs)

end Regex

end PathGlob

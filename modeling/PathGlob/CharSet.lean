-- SUMMARY: Sets of characters as sorted code point ranges: membership, union, complement and the operations built from them.

/-!
# Sets of characters

A set of characters is a list of closed code point ranges in ascending order, with
a gap between any two neighbours. Every operation keeps that form, so the number
of ranges measures a set.
-/

namespace PathGlob

/-- Ranges in ascending order from `low` on, each with at least one code point
between it and the next. -/
def Separated : Nat → List (Nat × Nat) → Prop
  | _, [] => True
  | low, (a, b) :: rest => low ≤ a ∧ a ≤ b ∧ Separated (b + 2) rest

theorem Separated.mono {m n : Nat} (h : m ≤ n) :
    ∀ {rs : List (Nat × Nat)}, Separated n rs → Separated m rs
  | [], _ => trivial
  | (_, _) :: _, ⟨ha, hab, hr⟩ => ⟨Nat.le_trans h ha, hab, hr⟩

/-- A set of characters. -/
structure CharSet where
  ranges : List (Nat × Nat)
  separated : Separated 0 ranges
  deriving DecidableEq

namespace CharSet

/-- The largest code point. -/
def maxCode : Nat := 0x10FFFF

/-! ## Membership -/

/-- Whether a code point lies in one of some ranges. -/
def covers (rs : List (Nat × Nat)) (n : Nat) : Bool :=
  rs.any fun r => r.1 ≤ n && n ≤ r.2

def contains (s : CharSet) (c : Char) : Bool := covers s.ranges c.toNat

instance : Membership Char CharSet := ⟨fun s c => s.contains c = true⟩

theorem mem_iff {s : CharSet} {c : Char} : c ∈ s ↔ s.contains c = true := Iff.rfl

instance (c : Char) (s : CharSet) : Decidable (c ∈ s) :=
  inferInstanceAs (Decidable (s.contains c = true))

@[simp] theorem covers_nil (n : Nat) : covers [] n = false := rfl

@[simp] theorem covers_cons (a b : Nat) (rs : List (Nat × Nat)) (n : Nat) :
    covers ((a, b) :: rs) n = ((a ≤ n && n ≤ b) || covers rs n) := by
  simp [covers]

theorem covers_eq_false_of_lt {low n : Nat} :
    ∀ {rs : List (Nat × Nat)}, Separated low rs → n < low → covers rs n = false
  | [], _, _ => rfl
  | (a, b) :: rest, ⟨ha, hab, hr⟩, hn => by
    have hrest : covers rest n = false := covers_eq_false_of_lt hr (by omega)
    simp [hrest]
    omega

/-! ## Union -/

/-- Adds the range from `a` to `b`, joining it with the ranges it touches. -/
def insertRange (a b : Nat) : List (Nat × Nat) → List (Nat × Nat)
  | [] => [(a, b)]
  | (c, d) :: rest =>
    if b + 1 < c then (a, b) :: (c, d) :: rest
    else if d + 1 < a then (c, d) :: insertRange a b rest
    else insertRange (min a c) (max b d) rest

theorem insertRange_separated {low : Nat} :
    ∀ {rs : List (Nat × Nat)} {a b : Nat}, low ≤ a → a ≤ b → Separated low rs →
      Separated low (insertRange a b rs)
  | [], _, _, hl, hab, _ => ⟨hl, hab, trivial⟩
  | (c, d) :: rest, a, b, hl, hab, ⟨hc, hcd, hr⟩ => by
    unfold insertRange
    split
    · exact ⟨hl, hab, by omega, hcd, hr⟩
    · split
      · exact ⟨hc, hcd, insertRange_separated (by omega) hab hr⟩
      · exact insertRange_separated (by omega) (by omega) (hr.mono (by omega))

theorem covers_insertRange :
    ∀ {rs : List (Nat × Nat)} {a b : Nat} (n : Nat), a ≤ b → (∀ r ∈ rs, r.1 ≤ r.2) →
      covers (insertRange a b rs) n = ((a ≤ n && n ≤ b) || covers rs n)
  | [], _, _, _, _, _ => by simp [insertRange]
  | (c, d) :: rest, a, b, n, hab, hrs => by
    have hcd : c ≤ d := hrs (c, d) (by simp)
    have hrest : ∀ r ∈ rest, r.1 ≤ r.2 := fun r hr => hrs r (by simp [hr])
    unfold insertRange
    split
    · simp
    · split
      · rw [covers_cons, covers_cons, covers_insertRange n hab hrest]
        cases covers rest n <;> simp [Bool.or_comm]
      · rw [covers_cons, covers_insertRange n (by omega) hrest, ← Bool.or_assoc]
        congr 1
        rw [Bool.eq_iff_iff]
        simp
        omega

theorem Separated.bounds {low : Nat} :
    ∀ {rs : List (Nat × Nat)}, Separated low rs → ∀ r ∈ rs, r.1 ≤ r.2
  | (_, _) :: _, ⟨_, hab, hr⟩, r, hm => by
    rcases List.mem_cons.1 hm with rfl | hm
    · exact hab
    · exact Separated.bounds hr r hm

def empty : CharSet := ⟨[], trivial⟩

/-- Adds the code points from `a` to `b`, none if `b < a`. -/
def insert (a b : Nat) (s : CharSet) : CharSet :=
  if h : a ≤ b then
    ⟨insertRange a b s.ranges, insertRange_separated (Nat.zero_le a) h s.separated⟩
  else s

/-- The set of the code points in some ranges, which may come in any order and overlap. -/
def ofRanges (rs : List (Nat × Nat)) : CharSet :=
  rs.foldr (fun r s => s.insert r.1 r.2) empty

def union (s t : CharSet) : CharSet :=
  s.ranges.foldr (fun r u => u.insert r.1 r.2) t

theorem covers_insert (a b : Nat) (s : CharSet) (n : Nat) :
    covers (s.insert a b).ranges n = ((a ≤ n && n ≤ b) || covers s.ranges n) := by
  unfold insert
  split
  next h => exact covers_insertRange n h (Separated.bounds s.separated)
  next h =>
    have : (decide (a ≤ n) && decide (n ≤ b)) = false := by simp; omega
    rw [this, Bool.false_or]

theorem covers_foldr_insert (rs : List (Nat × Nat)) (t : CharSet) (n : Nat) :
    covers (rs.foldr (fun r u => u.insert r.1 r.2) t).ranges n =
      (covers rs n || covers t.ranges n) := by
  induction rs with
  | nil => simp
  | cons r rs ih =>
    obtain ⟨a, b⟩ := r
    simp [covers_insert, ih, Bool.or_assoc]

@[simp] theorem contains_empty (c : Char) : empty.contains c = false := rfl

@[simp] theorem contains_ofRanges (rs : List (Nat × Nat)) (c : Char) :
    (ofRanges rs).contains c = covers rs c.toNat := by
  simp [contains, ofRanges, covers_foldr_insert, empty]

@[simp] theorem contains_union (s t : CharSet) (c : Char) :
    (s.union t).contains c = (s.contains c || t.contains c) :=
  covers_foldr_insert s.ranges t c.toNat

def singleton (c : Char) : CharSet := empty.insert c.toNat c.toNat

def ofList (cs : List Char) : CharSet := ofRanges (cs.map fun c => (c.toNat, c.toNat))

theorem contains_singleton (c d : Char) : (singleton c).contains d = (d == c) := by
  rw [Bool.eq_iff_iff]
  simp [contains, singleton, covers_insert, empty]
  exact ⟨fun h => Char.toNat_inj.1 (by omega), fun h => by simp [h]⟩

/-! ## Complement -/

/-- The ranges between some ranges, from `next` up to the largest code point. -/
def gaps (next : Nat) : List (Nat × Nat) → List (Nat × Nat)
  | [] => if next ≤ maxCode then [(next, maxCode)] else []
  | (a, b) :: rest => if next < a then (next, a - 1) :: gaps (b + 1) rest else gaps (b + 1) rest

theorem gaps_separated :
    ∀ {rs : List (Nat × Nat)} {next : Nat}, Separated next rs → Separated next (gaps next rs)
  | [], next, _ => by
    unfold gaps
    split
    next h => exact ⟨Nat.le_refl _, h, trivial⟩
    next => trivial
  | (a, b) :: rest, next, ⟨ha, hab, hr⟩ => by
    have hg := gaps_separated (hr.mono (Nat.le_succ (b + 1)))
    unfold gaps
    split
    · exact ⟨Nat.le_refl _, by omega, hg.mono (by omega)⟩
    · exact hg.mono (by omega)

theorem covers_gaps {n : Nat} (hn : n ≤ maxCode) :
    ∀ {rs : List (Nat × Nat)} {next : Nat}, Separated next rs → next ≤ n →
      covers (gaps next rs) n = !covers rs n
  | [], next, _, hle => by
    unfold gaps
    rw [if_pos (Nat.le_trans hle hn)]
    simp [hle, hn]
  | (a, b) :: rest, next, ⟨ha, hab, hr⟩, hle => by
    have hr' : Separated (b + 1) rest := hr.mono (Nat.le_succ (b + 1))
    have hg : covers (gaps next ((a, b) :: rest)) n =
        ((next ≤ n && n < a) || covers (gaps (b + 1) rest) n) := by
      rw [gaps]
      split
      next h =>
        rw [covers_cons]
        congr 2
        rw [decide_eq_decide]
        omega
      next h =>
        have : (decide (next ≤ n) && decide (n < a)) = false := by simp; omega
        rw [this, Bool.false_or]
    rw [hg, covers_cons]
    by_cases hb : b + 1 ≤ n
    · rw [covers_gaps hn hr' hb]
      have h1 : decide (n < a) = false := by simp; omega
      have h2 : decide (n ≤ b) = false := by simp; omega
      simp [h1, h2]
    · rw [covers_eq_false_of_lt (gaps_separated hr') (by omega),
        covers_eq_false_of_lt hr' (by omega), Bool.or_false, Bool.or_false, Bool.eq_iff_iff]
      simp
      omega

/-- The characters outside a set. -/
def complement (s : CharSet) : CharSet := ⟨gaps 0 s.ranges, gaps_separated s.separated⟩

theorem toNat_le_maxCode (c : Char) : c.toNat ≤ maxCode := by
  have h := c.valid
  simp only [UInt32.isValidChar, Nat.isValidChar] at h
  show c.val.toNat ≤ 0x10FFFF
  omega

@[simp] theorem contains_complement (s : CharSet) (c : Char) :
    s.complement.contains c = !s.contains c :=
  covers_gaps (toNat_le_maxCode c) s.separated (Nat.zero_le _)

/-! ## Intersection and differences -/

def inter (s t : CharSet) : CharSet := (s.complement.union t.complement).complement

def diff (s t : CharSet) : CharSet := (s.complement.union t).complement

def symmDiff (s t : CharSet) : CharSet := (s.diff t).union (t.diff s)

@[simp] theorem contains_inter (s t : CharSet) (c : Char) :
    (s.inter t).contains c = (s.contains c && t.contains c) := by
  simp [inter]

@[simp] theorem contains_diff (s t : CharSet) (c : Char) :
    (s.diff t).contains c = (s.contains c && !t.contains c) := by
  simp [diff]

@[simp] theorem contains_symmDiff (s t : CharSet) (c : Char) :
    (s.symmDiff t).contains c = xor (s.contains c) (t.contains c) := by
  cases h : s.contains c <;> cases h' : t.contains c <;> simp [symmDiff, h, h']

def unions (ss : List CharSet) : CharSet := ss.foldr union empty

theorem contains_unions (ss : List CharSet) (c : Char) :
    (unions ss).contains c = ss.any (·.contains c) := by
  induction ss with
  | nil => rfl
  | cons s ss ih => simp [unions, ← ih]

/-- Every character. -/
def all : CharSet := empty.complement

/-- The characters from `a` to `b`. -/
def range (a b : Char) : CharSet := empty.insert a.toNat b.toNat

/-- The surrogates, code points that are no characters. -/
def surrogates : CharSet := empty.insert 0xD800 0xDFFF

/-- A set without surrogates, so that sets of the same characters are equal. -/
def scalars (s : CharSet) : CharSet := s.diff surrogates

/-- Whether a set has at most one member. -/
def isTiny (s : CharSet) : Bool :=
  match s.ranges with
  | [] => true
  | [(a, b)] => a == b
  | _ => false

/-- Whether a set has just one member. -/
def isSingle (s : CharSet) : Bool := s.isTiny && !s.ranges.isEmpty

theorem not_covers_surrogates (c : Char) : covers surrogates.ranges c.toNat = false := by
  have h := c.valid
  simp only [UInt32.isValidChar, Nat.isValidChar] at h
  have : c.val.toNat = c.toNat := rfl
  simp [surrogates, covers_insert, empty]
  omega

@[simp] theorem contains_scalars (s : CharSet) (c : Char) :
    s.scalars.contains c = s.contains c := by
  rw [scalars, contains_diff]
  simp [contains, not_covers_surrogates]

end CharSet

end PathGlob

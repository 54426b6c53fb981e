-- SUMMARY: Folding a set adds just the characters that fold to what one of its members folds to.
import PathGlob.Unicode.CaseFolding

/-!
# Characters that are equal up to case

The table of folding is checked once: no code point is moved by two runs, and none is moved to a
place that a run moves again. Everything else about folding follows for any table of that kind.
-/

namespace PathGlob.Unicode

/-- Whether two characters have the same case variants. -/
def EqualUpToCase (c d : Char) : Prop := fold c.toNat = fold d.toNat

/-! ## Runs -/

namespace FoldRun

variable {r s : FoldRun} {n : Nat}

theorem mem_pairs_of_covers (h : r.covers n = true) :
    (n, r.target + (n - r.first)) ∈ r.pairs := by
  simp only [covers, Bool.and_eq_true, decide_eq_true_eq, beq_iff_eq] at h
  obtain ⟨⟨hfirst, hlast⟩, hstep⟩ := h
  have hmul : r.step * ((n - r.first) / r.step) = n - r.first :=
    Nat.mul_div_cancel' (Nat.dvd_of_mod_eq_zero hstep)
  refine List.mem_map.2 ⟨(n - r.first) / r.step, ?_, ?_⟩
  · rw [List.mem_range, Nat.lt_succ_iff]
    exact Nat.div_le_div_right (by omega)
  · rw [hmul, Nat.add_sub_cancel' hfirst]

theorem covers_of_mem_pairs (hr : r.first ≤ r.last) {p : Nat × Nat} (h : p ∈ r.pairs) :
    r.covers p.1 = true ∧ p.2 = r.target + (p.1 - r.first) := by
  obtain ⟨i, hi, rfl⟩ := List.mem_map.1 h
  rw [List.mem_range, Nat.lt_succ_iff] at hi
  have hle : r.step * i ≤ r.last - r.first :=
    Nat.le_trans (Nat.mul_le_mul_left r.step hi) (Nat.mul_div_le _ _)
  simp [covers]
  omega

/-- The places that a run folds to, as a run that stays where it is. -/
def image (r : FoldRun) : FoldRun := ⟨r.target, r.target + (r.last - r.first), r.step, r.target⟩

theorem covers_image (h : r.covers n = true) :
    r.image.covers (r.target + (n - r.first)) = true := by
  simp only [covers, Bool.and_eq_true, decide_eq_true_eq, beq_iff_eq] at h
  simp [image, covers, h.2]
  omega

/-- Whether two runs are seen to have no code point in common: they do not overlap, or one takes
the even code points and the other the odd ones. -/
def isApart (r s : FoldRun) : Bool :=
  Nat.blt r.last s.first || Nat.blt s.last r.first ||
    (s.step == 2 && (r.step == 2 || r.first == r.last) && (r.first + s.first) % 2 == 1)

theorem not_covers_of_isApart (h : r.isApart s = true) (hr : r.covers n = true) :
    s.covers n = false := by
  rw [Bool.eq_false_iff]
  intro hs
  simp only [covers, Bool.and_eq_true, decide_eq_true_eq, beq_iff_eq] at hr hs
  simp only [isApart, Bool.or_eq_true, Bool.and_eq_true, Nat.blt_eq, beq_iff_eq] at h
  rcases h with (h | h) | ⟨⟨hstep, h | h⟩, hodd⟩
  · omega
  · omega
  · rw [h] at hr
    rw [hstep] at hs
    omega
  · rw [hstep] at hs
    omega

end FoldRun

/-! ## The table -/

/-- Whether each run is apart from the ones after it. -/
def areApart : List FoldRun → Bool
  | [] => true
  | r :: rs => rs.all r.isApart && areApart rs

theorem pairwise_of_areApart {rs : List FoldRun} (h : areApart rs = true) :
    rs.Pairwise fun r s => r.isApart s = true := by
  induction rs with
  | nil => exact .nil
  | cons r rs ih =>
    rw [areApart, Bool.and_eq_true, List.all_eq_true] at h
    exact .cons h.1 (ih h.2)

theorem first_le_last_foldRuns : ∀ r ∈ foldRuns, r.first ≤ r.last := by decide +kernel

theorem areApart_foldRuns : areApart foldRuns = true := by decide +kernel

theorem areApart_image_foldRuns : (foldRuns.all fun r => foldRuns.all r.image.isApart) = true := by
  decide +kernel

theorem mem_foldPairs_iff {m n : Nat} :
    (m, n) ∈ foldPairs ↔ ∃ r ∈ foldRuns, r.covers m = true ∧ n = r.target + (m - r.first) := by
  rw [foldPairs, List.mem_flatMap]
  constructor
  · rintro ⟨r, hr, hp⟩
    exact ⟨r, hr, FoldRun.covers_of_mem_pairs (first_le_last_foldRuns r hr) hp⟩
  · rintro ⟨r, hr, hcovers, rfl⟩
    exact ⟨r, hr, FoldRun.mem_pairs_of_covers hcovers⟩

theorem fold_of_covers {r : FoldRun} (hr : r ∈ foldRuns) {n : Nat} (hn : r.covers n = true) :
    fold n = r.target + (n - r.first) := by
  obtain ⟨before, after, hruns⟩ := List.append_of_mem hr
  have hfind : foldRuns.find? (·.covers n) = some r := by
    refine List.find?_eq_some_iff_append.2 ⟨hn, before, after, hruns, fun s hs => ?_⟩
    have hpairwise := pairwise_of_areApart areApart_foldRuns
    rw [hruns] at hpairwise
    have hapart := (List.pairwise_append.1 hpairwise).2.2 s hs r List.mem_cons_self
    rw [Bool.not_eq_true', Bool.eq_false_iff]
    intro hcovers
    rw [FoldRun.not_covers_of_isApart hapart hcovers] at hn
    cases hn
  rw [fold, hfind]

theorem fold_eq_self {n : Nat} (h : ∀ r ∈ foldRuns, r.covers n = false) : fold n = n := by
  have hfind : foldRuns.find? (·.covers n) = none :=
    List.find?_eq_none.2 fun r hr => by rw [h r hr]; exact Bool.false_ne_true
  rw [fold, hfind]

theorem fold_of_mem_foldPairs {m n : Nat} (h : (m, n) ∈ foldPairs) :
    fold m = n ∧ fold n = n := by
  obtain ⟨r, hr, hcovers, rfl⟩ := mem_foldPairs_iff.1 h
  refine ⟨fold_of_covers hr hcovers, fold_eq_self fun s hs => ?_⟩
  have hapart := List.all_eq_true.1 (List.all_eq_true.1 areApart_image_foldRuns r hr) s hs
  exact FoldRun.not_covers_of_isApart hapart (FoldRun.covers_image hcovers)

/-- Folding leaves a code point alone, or the table has it. -/
theorem fold_cases (n : Nat) : fold n = n ∨ (n, fold n) ∈ foldPairs := by
  cases hfind : foldRuns.find? (·.covers n) with
  | none => exact .inl (by rw [fold, hfind])
  | some r =>
    have hr := List.mem_of_find?_eq_some hfind
    have hcovers : r.covers n = true := (List.find?_eq_some_iff_append.1 hfind).1
    exact .inr (mem_foldPairs_iff.2 ⟨r, hr, hcovers, fold_of_covers hr hcovers⟩)

/-! ## Characters without case -/

/-- Whether a code point is its only case variant. -/
def isCaseless (n : Nat) : Bool := foldRuns.all fun r => !r.covers n && !r.image.covers n

theorem eq_of_fold_eq {m n : Nat} (hn : isCaseless n = true) (h : fold m = fold n) : m = n := by
  have hruns (r : FoldRun) (hr : r ∈ foldRuns) :
      r.covers n = false ∧ r.image.covers n = false := by
    simpa using List.all_eq_true.1 hn r hr
  rw [fold_eq_self fun r hr => (hruns r hr).1] at h
  rcases fold_cases m with hm | hm
  · exact hm.symm.trans h
  · obtain ⟨r, hr, hcovers, htarget⟩ := mem_foldPairs_iff.1 hm
    have himage := FoldRun.covers_image hcovers
    rw [← htarget, h, (hruns r hr).2] at himage
    cases himage

theorem EqualUpToCase.eq_iff {c d : Char} (hd : isCaseless d.toNat = true) :
    EqualUpToCase c d ↔ c = d :=
  ⟨fun h => Char.toNat_inj.1 (eq_of_fold_eq hd h), fun h => h ▸ rfl⟩

theorem isCaseless_slash : isCaseless ('/').toNat = true := by decide +kernel

theorem isCaseless_lineFeed : isCaseless ('\n').toNat = true := by decide +kernel

end PathGlob.Unicode

/-! ## Sets -/

namespace PathGlob.CharSet

open PathGlob.Unicode

theorem covers_map_iff {α : Type} {as : List α} {f : α → Nat} {n : Nat} :
    covers (as.map fun a => (f a, f a)) n = true ↔ ∃ a ∈ as, f a = n := by
  simp only [covers, List.any_map, List.any_eq_true, Function.comp, Bool.and_eq_true,
    decide_eq_true_eq]
  exact exists_congr fun a => and_congr_right fun _ => ⟨fun h => by omega, fun h => by omega⟩

theorem covers_union (s t : CharSet) (n : Nat) :
    covers (s.union t).ranges n = (covers s.ranges n || covers t.ranges n) :=
  covers_foldr_insert s.ranges t n

theorem covers_ofRanges (rs : List (Nat × Nat)) (n : Nat) :
    covers (ofRanges rs).ranges n = covers rs n := by
  rw [ofRanges, covers_foldr_insert, empty, covers_nil, Bool.or_false]

/-- What the members of a set fold to, if it is not just themselves. -/
def images (s : CharSet) : CharSet :=
  .ofRanges ((foldPairs.filter fun p => covers s.ranges p.1 || covers s.ranges p.2).map fun p =>
    (p.2, p.2))

theorem covers_images {s : CharSet} {n : Nat} :
    covers s.images.ranges n = true ↔
      ∃ m, (m, n) ∈ foldPairs ∧ (covers s.ranges m = true ∨ covers s.ranges n = true) := by
  rw [images, covers_ofRanges, covers_map_iff]
  simp only [List.mem_filter, Bool.or_eq_true, Prod.exists, and_assoc]
  constructor
  · rintro ⟨m, _, hpair, hs, rfl⟩
    exact ⟨m, hpair, hs⟩
  · rintro ⟨m, hpair, hs⟩
    exact ⟨m, n, hpair, hs, rfl⟩

theorem covers_foldCase_iff {s : CharSet} {n : Nat} :
    covers s.foldCase.ranges n = true ↔ covers s.ranges n = true ∨ covers s.images.ranges n = true ∨
      ∃ k, (n, k) ∈ foldPairs ∧ covers s.images.ranges k = true := by
  show covers (s.union (s.images.union (.ofRanges _))).ranges n = true ↔ _
  rw [covers_union, covers_union, covers_ofRanges, Bool.or_eq_true, Bool.or_eq_true, covers_map_iff]
  simp only [List.mem_filter, Prod.exists, and_assoc]
  refine or_congr_right (or_congr_right ⟨?_, ?_⟩)
  · rintro ⟨_, k, hpair, hk, rfl⟩
    exact ⟨k, hpair, hk⟩
  · rintro ⟨k, hpair, hk⟩
    exact ⟨n, k, hpair, hk, rfl⟩

/-- Folding a set adds the code points that fold to what one of the set folds to. -/
theorem covers_foldCase {s : CharSet} {n : Nat} :
    covers s.foldCase.ranges n = true ↔ ∃ m, covers s.ranges m = true ∧ fold m = fold n := by
  have himage {k : Nat} (h : covers s.images.ranges k = true) :
      ∃ m, covers s.ranges m = true ∧ fold m = fold k := by
    obtain ⟨m, hpair, hs | hs⟩ := covers_images.1 h
    · obtain ⟨hm, hk⟩ := fold_of_mem_foldPairs hpair
      exact ⟨m, hs, hm.trans hk.symm⟩
    · exact ⟨k, hs, rfl⟩
  rw [covers_foldCase_iff]
  constructor
  · rintro (hs | h | ⟨k, hpair, h⟩)
    · exact ⟨n, hs, rfl⟩
    · exact himage h
    · obtain ⟨hn, hk⟩ := fold_of_mem_foldPairs hpair
      obtain ⟨m, hs, hm⟩ := himage h
      exact ⟨m, hs, hm.trans (hk.trans hn.symm)⟩
  · -- Either `m` is what both fold to, or folding moves it there.
    rintro ⟨m, hs, hm⟩
    rcases fold_cases n with hn | hn
    · rw [hn] at hm
      rcases fold_cases m with hm' | hm'
      · exact .inl (by rwa [← hm, hm'])
      · rw [hm] at hm'
        exact .inr (.inl (covers_images.2 ⟨m, hm', .inl hs⟩))
    · refine .inr (.inr ⟨_, hn, covers_images.2 ?_⟩)
      rcases fold_cases m with hm' | hm'
      · rw [← hm, hm']
        rw [← hm, hm'] at hn
        exact ⟨n, hn, .inr hs⟩
      · rw [hm] at hm'
        exact ⟨m, hm', .inl hs⟩

theorem mem_foldCase_singleton {c d : Char} : d ∈ (singleton c).foldCase ↔ EqualUpToCase d c := by
  have hcovers (m : Nat) : covers (singleton c).ranges m = true ↔ m = c.toNat := by
    simp [singleton, covers_insert, empty]
    omega
  rw [mem_iff, contains, covers_foldCase]
  simp only [hcovers, exists_eq_left]
  exact eq_comm

end PathGlob.CharSet

-- SUMMARY: Following an expression forwards gives the places at which it stops, so a set finds the members that match by themselves.
import Mathlib.Data.List.FinRange
import PathGlob.Proofs.Regex.Drafting
import PathGlob.Regex.Set

/-!
# Where expressions stop

`Tracks` ties a function on places to the passage it follows forwards: one lemma for each way to
build an expression, and from those `Regex.tracks_stops`. A single search drafts a plan from the end
of the text and a set follows its members from all places; `RegexSet.mem_matching_iff` is that both
find the same matches.
-/

namespace PathGlob

/-- Whether a passage leads to a place from one of some places. -/
def Passage.LeadsFrom (T : Passage) (places j : Nat) : Prop :=
  ∃ i ms, places.testBit i = true ∧ T i j ms

/-- Whether a function takes places of a text to where a passage leads from them. -/
structure Tracks (length : Nat) (f : Nat → Nat) (T : Passage) : Prop where
  isForward : T.IsForward
  testBit_iff : ∀ places, Subplaces places (everywhere length) → ∀ j,
    (f places).testBit j = true ↔ j ≤ length ∧ T.LeadsFrom places j

namespace Tracks

variable {length places : Nat} {f g : Nat → Nat} {T U : Passage}

theorem subplaces (h : Tracks length f T) (hplaces : Subplaces places (everywhere length)) :
    Subplaces (f places) (everywhere length) :=
  fun j hj => (testBit_everywhere length j).2 ((h.testBit_iff places hplaces j).1 hj).1

theorem stay (length : Nat) : Tracks length id .stay := by
  refine ⟨.stay, fun places hplaces j => ?_⟩
  constructor
  · intro hj
    exact ⟨(testBit_everywhere length j).1 (hplaces j hj), j, [], hj, rfl, rfl⟩
  · rintro ⟨-, i, _, hi, rfl, rfl⟩
    exact hi

theorem site (length : Nat) (s : Site) :
    Tracks length (Regex.stops length (.atom s)) fun i j ms => s.Leads i j ∧ ms = [] := by
  refine ⟨fun i j ms h => Site.le_of_leads h.1, fun places hplaces j => ?_⟩
  cases s with
  | step taken =>
    show (((places &&& taken) <<< 1) &&& everywhere length).testBit j = true ↔ _
    simp only [Nat.testBit_and, Nat.testBit_shiftLeft, Bool.and_eq_true, decide_eq_true_eq,
      testBit_everywhere]
    constructor
    · rintro ⟨⟨hpos, hi, htaken⟩, hj⟩
      exact ⟨hj, j - 1, [], hi, ⟨htaken, by omega⟩, rfl⟩
    · rintro ⟨hj, i, _, hi, ⟨htaken, rfl⟩, -⟩
      exact ⟨⟨by omega, hi, htaken⟩, hj⟩
  | stand held =>
    show (places &&& held).testBit j = true ↔ _
    rw [Nat.testBit_and, Bool.and_eq_true]
    constructor
    · rintro ⟨hj, hheld⟩
      exact ⟨(testBit_everywhere length j).1 (hplaces j hj), j, [], hj, ⟨hheld, rfl⟩, rfl⟩
    · rintro ⟨-, i, _, hi, ⟨hheld, rfl⟩, -⟩
      exact ⟨hi, hheld⟩

theorem mark (h : Tracks length f T) (group : Nat) : Tracks length f (T.mark group) := by
  refine ⟨h.isForward.mark group, fun places hplaces j => ?_⟩
  rw [h.testBit_iff places hplaces]
  refine and_congr_right fun _ => ?_
  constructor
  · rintro ⟨i, ms, hi, hT⟩
    exact ⟨i, _, hi, ms, hT, rfl⟩
  · rintro ⟨i, _, hi, ms, hT, rfl⟩
    exact ⟨i, ms, hi, hT⟩

theorem seq (hf : Tracks length f T) (hg : Tracks length g U) :
    Tracks length (fun places => g (f places)) (T.seq U) := by
  refine ⟨hf.isForward.seq hg.isForward, fun places hplaces k => ?_⟩
  rw [hg.testBit_iff _ (hf.subplaces hplaces)]
  refine and_congr_right fun hk => ?_
  constructor
  · rintro ⟨j, second, hj, hU⟩
    obtain ⟨-, i, first, hi, hT⟩ := (hf.testBit_iff places hplaces j).1 hj
    exact ⟨i, _, hi, j, first, second, hT, hU, rfl⟩
  · rintro ⟨i, _, hi, j, first, second, hT, hU, rfl⟩
    have hj : j ≤ length := Nat.le_trans (hg.isForward j k second hU) hk
    exact ⟨j, second, (hf.testBit_iff places hplaces j).2 ⟨hj, i, first, hi, hT⟩, hU⟩

theorem either (hf : Tracks length f T) (hg : Tracks length g U) :
    Tracks length (fun places => f places ||| g places) (T.either U) := by
  refine ⟨hf.isForward.either hg.isForward, fun places hplaces j => ?_⟩
  rw [Nat.testBit_or, Bool.or_eq_true, hf.testBit_iff places hplaces, hg.testBit_iff places hplaces,
    ← and_or_left]
  refine and_congr_right fun _ => ?_
  constructor
  · rintro (⟨i, ms, hi, hT⟩ | ⟨i, ms, hi, hU⟩)
    · exact ⟨i, ms, hi, .inl hT⟩
    · exact ⟨i, ms, hi, .inr hU⟩
  · rintro ⟨i, ms, hi, hT | hU⟩
    · exact .inl ⟨i, ms, hi, hT⟩
    · exact .inr ⟨i, ms, hi, hU⟩

theorem times (h : Tracks length f T) (n : Nat) : Tracks length (n.repeat f) (T.times n) := by
  induction n with
  | zero => exact stay length
  | succ n ih =>
    rw [Passage.times_add n (n := 1), Passage.times_one]
    exact ih.seq h

/-! ## Spreading -/

section

variable (h : Tracks length f T) (hplaces : Subplaces places (everywhere length))
include h hplaces

theorem more_subplaces : Subplaces (places ||| f places) (everywhere length) := by
  intro j hj
  rw [Nat.testBit_or, Bool.or_eq_true] at hj
  exact hj.elim (hplaces j) (h.subplaces hplaces j)

/-- Where nothing is added, no number of times leads further. -/
theorem testBit_of_times (hfix : places ||| f places = places) {n i j : Nat} {ms : List Mark}
    (hi : places.testBit i = true) (ht : T.times n i j ms) (hj : j ≤ length) :
    places.testBit j = true := by
  induction n generalizing i ms with
  | zero => exact ht.1 ▸ hi
  | succ n ih =>
    obtain ⟨k, first, second, hT, ht, -⟩ := ht
    have hk : k ≤ length := Nat.le_trans (h.isForward.times n k j second ht) hj
    refine ih ?_ ht
    rw [← hfix, Nat.testBit_or, Bool.or_eq_true]
    exact .inr ((h.testBit_iff places hplaces k).2 ⟨hk, i, first, hi, hT⟩)

/-- One round takes the first time of all that are due. -/
theorem leadsFrom_more (n j : Nat) (hj : j ≤ length) :
    (T.times n).LeadsFrom (places ||| f places) j ↔
      (T.times n).LeadsFrom places j ∨ (T.times (n + 1)).LeadsFrom places j := by
  constructor
  · rintro ⟨i, ms, hi, ht⟩
    rw [Nat.testBit_or, Bool.or_eq_true] at hi
    rcases hi with hi | hi
    · exact .inl ⟨i, ms, hi, ht⟩
    · obtain ⟨-, k, first, hk, hT⟩ := (h.testBit_iff places hplaces i).1 hi
      exact .inr ⟨k, _, hk, i, first, ms, hT, ht, rfl⟩
  · rintro (⟨i, ms, hi, ht⟩ | ⟨i, _, hi, k, first, second, hT, ht, rfl⟩)
    · exact ⟨i, ms, by simp [hi], ht⟩
    · have hk : k ≤ length := Nat.le_trans (h.isForward.times n k j second ht) hj
      refine ⟨k, second, ?_, ht⟩
      rw [Nat.testBit_or, Bool.or_eq_true]
      exact .inr ((h.testBit_iff places hplaces k).2 ⟨hk, i, first, hi, hT⟩)

end

/-- Spreading for some rounds takes a passage up to as many times. -/
theorem testBit_spread (h : Tracks length f T) (hplaces : Subplaces places (everywhere length))
    (rounds j : Nat) : (spread f rounds places).testBit j = true ↔
      j ≤ length ∧ ∃ n ≤ rounds, (T.times n).LeadsFrom places j := by
  induction rounds generalizing places with
  | zero =>
    refine ((stay length).testBit_iff places hplaces j).trans (and_congr_right fun _ => ?_)
    constructor
    · intro hstay
      exact ⟨0, Nat.le_refl 0, hstay⟩
    · rintro ⟨n, hn, ht⟩
      obtain rfl := Nat.le_zero.1 hn
      exact ht
  | succ rounds ih =>
    unfold spread
    dsimp only
    split
    · next hfix =>
      constructor
      · intro hj
        obtain ⟨hle, hstay⟩ := ((stay length).testBit_iff places hplaces j).1 hj
        exact ⟨hle, 0, Nat.zero_le _, hstay⟩
      · rintro ⟨hj, n, -, i, ms, hi, ht⟩
        exact h.testBit_of_times hplaces hfix hi ht hj
    · rw [ih (h.more_subplaces hplaces)]
      refine and_congr_right fun hj => ?_
      simp only [h.leadsFrom_more hplaces _ j hj]
      constructor
      · rintro ⟨n, hn, ht | ht⟩
        · exact ⟨n, Nat.le_succ_of_le hn, ht⟩
        · exact ⟨n + 1, Nat.succ_le_succ hn, ht⟩
      · rintro ⟨n, hn, ht⟩
        cases n with
        | zero => exact ⟨0, Nat.zero_le _, .inl ht⟩
        | succ n => exact ⟨n, Nat.le_of_succ_le_succ hn, .inr ht⟩

/-- Every round but the last adds a place, so as many rounds as places take a passage any number of
times. -/
theorem testBit_spread_of_lacking (h : Tracks length f T)
    (hplaces : Subplaces places (everywhere length)) {rounds : Nat}
    (hrounds : lacking (length + 1) places ≤ rounds) {n i j : Nat} {ms : List Mark}
    (hi : places.testBit i = true) (ht : T.times n i j ms) (hj : j ≤ length) :
    (spread f rounds places).testBit j = true := by
  induction rounds generalizing places n i ms with
  | zero =>
    show places.testBit j = true
    by_contra hout
    have hlt := hplaces.lacking_lt (Nat.lt_succ_of_le hj) (by simpa using hout)
      ((testBit_everywhere length j).2 hj)
    exact absurd (Nat.lt_of_lt_of_le hlt hrounds) (Nat.not_lt_zero _)
  | succ rounds ih =>
    unfold spread
    dsimp only
    split
    · next hfix => exact h.testBit_of_times hplaces hfix hi ht hj
    · next hgrows =>
      have hmore := h.more_subplaces hplaces
      refine ih hmore ?_ (by simp [hi]) ht
      obtain ⟨k, hk⟩ := Nat.exists_testBit_ne_of_ne hgrows
      have hold : places.testBit k = false := by
        by_contra hold
        simp [hold] at hk
      have hnew : (places ||| f places).testBit k = true := by simpa [hold] using hk
      have hsub : Subplaces places (places ||| f places) := fun i hi => by simp [hi]
      have hlt := hsub.lacking_lt (Nat.lt_succ_of_le ((testBit_everywhere length k).1 (hmore k hnew)))
        hold hnew
      exact Nat.le_of_lt_succ (Nat.lt_of_lt_of_le hlt hrounds)

theorem upTo (h : Tracks length f T) (n : Nat) :
    Tracks length (spread f n) (T.repeated 0 (some n)) := by
  refine ⟨h.isForward.repeated 0 (some n), fun places hplaces j => ?_⟩
  rw [h.testBit_spread hplaces]
  refine and_congr_right fun _ => ?_
  constructor
  · rintro ⟨m, hm, i, ms, hi, ht⟩
    exact ⟨i, ms, hi, m, Nat.zero_le m, by rintro _ ⟨⟩; exact .inr hm, ht⟩
  · rintro ⟨i, ms, hi, m, -, hm, ht⟩
    exact ⟨m, by have := hm n rfl; omega, i, ms, hi, ht⟩

theorem anyTimes (h : Tracks length f T) :
    Tracks length (spread f (length + 1)) (T.repeated 0 none) := by
  refine ⟨h.isForward.repeated 0 none, fun places hplaces j => ?_⟩
  constructor
  · intro hj
    obtain ⟨hle, n, -, i, ms, hi, ht⟩ := (h.testBit_spread hplaces _ j).1 hj
    exact ⟨hle, i, ms, hi, n, Nat.zero_le n, nofun, ht⟩
  · rintro ⟨hj, i, ms, hi, n, -, -, ht⟩
    exact h.testBit_spread_of_lacking hplaces (lacking_le _ _) hi ht hj

end Tracks

/-! ## Expressions -/

namespace Regex

theorem tracks_stops (length : Nat) (r : Regex Site) :
    Tracks length (r.stops length) (r.passage Site.Leads) := by
  induction r with
  | empty => exact .stay length
  | atom s => exact .site length s
  | capture index name r ih => exact ih.mark index
  | cat r s ihr ihs => exact ihr.seq ihs
  | alt r s ihr ihs => exact ihr.either ihs
  | repetition min max greedy r ih =>
    -- The times that are due come first, then those that are allowed besides.
    have hdue := Passage.repeated_add (T := r.passage Site.Leads) (n := 0) min max
    rw [Nat.add_zero] at hdue
    rw [passage, hdue]
    cases max with
    | none => exact (ih.times min).seq ih.anyTimes
    | some m => exact (ih.times min).seq (ih.upTo (m - min))

/-- Somewhere an expression stops exactly if it matches. -/
theorem stops_ne_zero_iff (r : Regex Atom) (text : List Char) :
    ((r.map (Atom.site text (charPlaces text))).stops text.length (everywhere text.length) != 0) =
      r.isMatch text := by
  have htracks := (tracks_stops text.length (r.map (Atom.site text (charPlaces text)))).testBit_iff
    (everywhere text.length) fun _ h => h
  rw [passage_sites] at htracks
  rw [Bool.eq_iff_iff, isMatch_iff, bne_iff_ne]
  constructor
  · intro h
    obtain ⟨j, hj⟩ := Nat.exists_testBit_ne_of_ne h
    obtain ⟨hle, i, ms, -, hi⟩ := (htracks j).1 (by simpa using hj)
    exact ⟨i, j, ms, hi, hle⟩
  · rintro ⟨i, j, ms, h, hj⟩ hzero
    have hi : i ≤ text.length :=
      Nat.le_trans (isForward_passage (fun _ _ _ => Atom.le_of_leads) r i j ms h) hj
    have hstop := (htracks j).2 ⟨hj, i, ms, (testBit_everywhere _ i).2 hi, h⟩
    simp [hzero] at hstop

end Regex

namespace RegexSet

variable (s : RegexSet) (text : List Char)

/-- A set finds the members that match by themselves. -/
theorem mem_matching_iff (i : Fin s.members.length) :
    i ∈ s.matching text ↔ (s.members.get i).isMatch text = true := by
  rw [matching, List.mem_filter, Regex.stops_ne_zero_iff]
  exact and_iff_right (List.mem_finRange i)

theorem matching_ascending : (s.matching text).Pairwise (· < ·) :=
  (List.pairwise_lt_finRange _).sublist List.filter_sublist

end RegexSet

end PathGlob

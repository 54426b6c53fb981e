-- SUMMARY: The plan drafted for a goal has the passages of its expression into that goal, and knows where they start.
import PathGlob.Proofs.Regex.Passage

/-!
# Drafting plans

`Plan.Aimed` says of every part of a plan that it leads to where the next part can go on, and that
nothing it notes as live is a dead end. `Draft.Realizes` ties a draft to the passage it unrolls:
one lemma for each way to build a draft, and from those the draft of any expression.
-/

namespace PathGlob

/-- Whether a set of places lies in another one. -/
def Subplaces (s t : Nat) : Prop := ∀ i, s.testBit i = true → t.testBit i = true

theorem testBit_everywhere (length i : Nat) :
    (everywhere length).testBit i = true ↔ i ≤ length := by
  rw [everywhere, Nat.one_shiftLeft, Nat.testBit_two_pow_sub_one, decide_eq_true_eq]
  omega

/-- How many of the first `n` numbers a set lacks. -/
def lacking (n s : Nat) : Nat := (List.range n).countP fun i => !s.testBit i

theorem lacking_le (n s : Nat) : lacking n s ≤ n := by
  simpa [lacking] using List.countP_le_length (p := fun i => !s.testBit i) (l := List.range n)

theorem Subplaces.lacking_le {s t : Nat} (h : Subplaces s t) (n : Nat) :
    lacking n t ≤ lacking n s := by
  refine List.countP_mono_left fun i _ hi => ?_
  have := h i
  grind

theorem Subplaces.lacking_lt {n s t i : Nat} (h : Subplaces s t) (hi : i < n)
    (hs : s.testBit i = false) (ht : t.testBit i = true) : lacking n t < lacking n s := by
  induction n with
  | zero => omega
  | succ n ih =>
    have hstep (u : Nat) : lacking (n + 1) u = lacking n u + (!u.testBit n).toNat := by
      rw [lacking, List.range_succ, List.countP_append, List.countP_singleton]
      cases u.testBit n <;> rfl
    rw [hstep, hstep]
    by_cases hn : i = n
    · subst hn
      have := h.lacking_le i
      simp only [hs, ht, Bool.not_true, Bool.not_false, Bool.toNat_true, Bool.toNat_false]
      omega
    · have := ih (by omega)
      have : (!t.testBit n).toNat ≤ (!s.testBit n).toNat := by
        have := h n
        cases hsn : s.testBit n <;> simp_all [Bool.toNat_le]
      omega

/-! ## Plans -/

namespace Plan

/-- The passages of a plan. -/
def passage : Plan → Passage
  | .stay live => fun i j ms => (live.testBit i = true ∧ j = i) ∧ ms = []
  | .step live => fun i j ms => (live.testBit i = true ∧ j = i + 1) ∧ ms = []
  | .capture group body => .mark group body.passage
  | .cat a b => .seq a.passage b.passage
  | .choice _ _ a b => .either a.passage b.passage
  | .loop _ _ goal _ isOptional body =>
    .into goal (.repeated (if isOptional then 0 else 1) none body.passage)

theorem isForward_passage (p : Plan) : p.passage.IsForward := by
  induction p with
  | stay live =>
    rintro i j ms ⟨⟨-, rfl⟩, -⟩
    exact Nat.le_refl _
  | step live =>
    rintro i j ms ⟨⟨-, rfl⟩, -⟩
    exact Nat.le_succ i
  | capture group body ih => exact ih.mark group
  | cat a b iha ihb => exact iha.seq ihb
  | choice number live a b iha ihb => exact iha.either ihb
  | loop number live goal greedy isOptional body ih =>
    exact fun i j ms h => ih.repeated _ none i j ms h.1

/-- Every part leads to where the next one is live, and a loop is left at last from wherever its
body is entered. -/
def Aimed (goal : Nat) : Plan → Prop
  | .stay live => Subplaces live goal
  | .step live => ∀ i, live.testBit i = true → goal.testBit (i + 1) = true
  | .capture _ body => body.Aimed goal
  | .cat a b => b.Aimed goal ∧ a.Aimed b.live
  | .choice _ live a b => live = a.live ||| b.live ∧ a.Aimed goal ∧ b.Aimed goal
  | .loop _ live goal' _ isOptional body =>
    goal' = goal ∧ live = (if isOptional then goal ||| body.live else body.live) ∧
      body.Aimed (goal ||| body.live) ∧
        ∀ i, body.live.testBit i = true → body.passage.Reaches goal i

variable {p : Plan} {goal : Nat}

theorem Aimed.goal_of_passage (h : p.Aimed goal) {i j : Nat} {ms : List Mark}
    (hp : p.passage i j ms) : goal.testBit j = true := by
  induction p generalizing goal i j ms with
  | stay live => exact hp.1.2 ▸ h i hp.1.1
  | step live => exact hp.1.2 ▸ h i hp.1.1
  | capture group body ih =>
    obtain ⟨inner, hb, -⟩ := hp
    exact ih h hb
  | cat a b iha ihb =>
    obtain ⟨k, _, _, -, hb, -⟩ := hp
    exact ihb h.1 hb
  | choice number live a b iha ihb =>
    rcases hp with ha | hb
    · exact iha h.2.1 ha
    · exact ihb h.2.2 hb
  | loop number live goal' greedy isOptional body ih => exact h.1 ▸ hp.2

theorem live_of_passage (h : p.Aimed goal) {i j : Nat} {ms : List Mark}
    (hp : p.passage i j ms) : p.live.testBit i = true := by
  induction p generalizing goal i j ms with
  | stay live => exact hp.1.1
  | step live => exact hp.1.1
  | capture group body ih =>
    obtain ⟨inner, hb, -⟩ := hp
    exact ih h hb
  | cat a b iha ihb =>
    obtain ⟨k, _, _, ha, -, -⟩ := hp
    exact iha h.2 ha
  | choice number live a b iha ihb =>
    obtain ⟨rfl, ha, hb⟩ := h
    rw [Plan.live, Nat.testBit_or, Bool.or_eq_true]
    rcases hp with hp | hp
    · exact .inl (iha ha hp)
    · exact .inr (ihb hb hp)
  | loop number live goal' greedy isOptional body ih =>
    obtain ⟨rfl, rfl, hbody, -⟩ := h
    obtain ⟨⟨n, hn, -, ht⟩, hj⟩ := hp
    rw [Plan.live]
    cases n with
    | zero =>
      obtain ⟨rfl, -⟩ := ht
      cases isOptional with
      | true => simp [hj]
      | false => simp at hn
    | succ n =>
      obtain ⟨k, _, _, hb, -, -⟩ := ht
      have := ih hbody hb
      cases isOptional <;> simp [this]

theorem exists_passage_of_live (h : p.Aimed goal) (i : Nat) (hlive : p.live.testBit i = true) :
    ∃ j ms, p.passage i j ms := by
  -- A plan is made from its end, so the goal of a part is where the next part is live.
  induction p generalizing goal i with
  | stay live => exact ⟨i, [], ⟨hlive, rfl⟩, rfl⟩
  | step live => exact ⟨i + 1, [], ⟨hlive, rfl⟩, rfl⟩
  | capture group body ih =>
    obtain ⟨j, ms, hb⟩ := ih h i hlive
    exact ⟨j, _, ms, hb, rfl⟩
  | cat a b iha ihb =>
    obtain ⟨j, first, ha⟩ := iha h.2 i hlive
    obtain ⟨k, second, hb⟩ := ihb h.1 j (h.2.goal_of_passage ha)
    exact ⟨k, _, j, first, second, ha, hb, rfl⟩
  | choice number live a b iha ihb =>
    obtain ⟨rfl, ha, hb⟩ := h
    rw [Plan.live, Nat.testBit_or, Bool.or_eq_true] at hlive
    rcases hlive with hlive | hlive
    · obtain ⟨j, ms, hp⟩ := iha ha i hlive
      exact ⟨j, ms, .inl hp⟩
    · obtain ⟨j, ms, hp⟩ := ihb hb i hlive
      exact ⟨j, ms, .inr hp⟩
  | loop number live goal' greedy isOptional body ih =>
    obtain ⟨rfl, rfl, hbody, hleave⟩ := h
    rw [Plan.live] at hlive
    by_cases hb : body.live.testBit i = true
    · -- One iteration leads on; from there the loop is left at last.
      obtain ⟨k, first, hp⟩ := ih hbody i hb
      have hk := hbody.goal_of_passage hp
      rw [Nat.testBit_or, Bool.or_eq_true] at hk
      have hrest : body.passage.Reaches goal' k := by
        rcases hk with hk | hk
        · exact ⟨k, 0, [], ⟨rfl, rfl⟩, hk⟩
        · exact hleave k hk
      obtain ⟨j, n, second, ht, hj⟩ := hrest
      refine ⟨j, second ++ first, ⟨n + 1, ?_, nofun, k, first, second, hp, ht, rfl⟩, hj⟩
      split <;> omega
    · cases isOptional with
      | false => exact absurd hlive (by simpa using hb)
      | true =>
        have hi : goal'.testBit i = true := by simpa [hb] using hlive
        exact ⟨i, [], ⟨0, by simp, nofun, rfl, rfl⟩, hi⟩

/-- A plan is live at a place exactly if some passage starts there. -/
theorem Aimed.live_iff (h : p.Aimed goal) (i : Nat) :
    p.live.testBit i = true ↔ ∃ j ms, p.passage i j ms :=
  ⟨exists_passage_of_live h i, fun ⟨_, _, hp⟩ => live_of_passage h hp⟩

/-- Whether a plan, for a goal, has the passages of `T` into the goal. -/
structure Fulfils (goal : Nat) (p : Plan) (T : Passage) : Prop where
  aimed : p.Aimed goal
  passage : p.passage = T.into goal

variable {a b : Plan} {T U : Passage}

theorem Fulfils.live_iff (h : p.Fulfils goal T) (i : Nat) :
    p.live.testBit i = true ↔ ∃ j ms, T i j ms ∧ goal.testBit j = true := by
  rw [h.aimed.live_iff, h.passage]
  rfl

/-- Nothing is live beyond the end of the text. -/
theorem Fulfils.subplaces {length : Nat} (h : p.Fulfils goal T) (hT : T.IsForward)
    (hgoal : Subplaces goal (everywhere length)) : Subplaces p.live (everywhere length) := by
  intro i hi
  obtain ⟨j, ms, hp, hj⟩ := (h.live_iff i).1 hi
  have hle := (testBit_everywhere length j).1 (hgoal j hj)
  exact (testBit_everywhere length i).2 (Nat.le_trans (hT i j ms hp) hle)

theorem Fulfils.capture (h : p.Fulfils goal T) (group : Nat) :
    (Plan.capture group p).Fulfils goal (T.mark group) := by
  refine ⟨h.aimed, ?_⟩
  rw [Plan.passage, h.passage]
  ext i j ms
  constructor
  · rintro ⟨inner, ⟨hT, hj⟩, rfl⟩
    exact ⟨⟨inner, hT, rfl⟩, hj⟩
  · rintro ⟨⟨inner, hT, rfl⟩, hj⟩
    exact ⟨inner, ⟨hT, hj⟩, rfl⟩

theorem Fulfils.cat (ha : a.Fulfils b.live T) (hb : b.Fulfils goal U) :
    (Plan.cat a b).Fulfils goal (T.seq U) := by
  refine ⟨⟨hb.aimed, ha.aimed⟩, ?_⟩
  rw [Plan.passage, ha.passage, hb.passage]
  ext i k ms
  constructor
  · rintro ⟨j, first, second, ⟨hT, -⟩, ⟨hU, hk⟩, rfl⟩
    exact ⟨⟨j, first, second, hT, hU, rfl⟩, hk⟩
  · rintro ⟨⟨j, first, second, hT, hU, rfl⟩, hk⟩
    exact ⟨j, first, second, ⟨hT, (hb.live_iff j).2 ⟨k, second, hU, hk⟩⟩, ⟨hU, hk⟩, rfl⟩

theorem Fulfils.choice (ha : a.Fulfils goal T) (hb : b.Fulfils goal U) (number : Nat) :
    (Plan.choice number (a.live ||| b.live) a b).Fulfils goal (T.either U) := by
  refine ⟨⟨rfl, ha.aimed, hb.aimed⟩, ?_⟩
  rw [Plan.passage, ha.passage, hb.passage]
  ext i j ms
  exact or_and_right.symm

/-- A loop whose body leads to where another iteration or the goal can follow, and from where the
goal can be reached at last. -/
theorem Fulfils.loop (h : p.Fulfils (goal ||| p.live) T)
    (hleave : ∀ i, p.live.testBit i = true → T.Reaches goal i)
    (number : Nat) (greedy isOptional : Bool) :
    (Plan.loop number (if isOptional then goal ||| p.live else p.live) goal greedy isOptional
      p).Fulfils goal (T.repeated (if isOptional then 0 else 1) none) := by
  -- Iterations of `T` that end in the goal never leave what the body leads to.
  have htimes (n : Nat) : (p.passage.times n).into goal = (T.times n).into goal := by
    induction n with
    | zero => rfl
    | succ n ih =>
      ext i k ms
      constructor
      · rintro ⟨⟨j, first, second, hp, ht, rfl⟩, hk⟩
        rw [h.passage] at hp
        have ht' : (T.times n).into goal j k second := ih ▸ ⟨ht, hk⟩
        exact ⟨⟨j, first, second, hp.1, ht'.1, rfl⟩, hk⟩
      · rintro ⟨⟨j, first, second, hT, ht, rfl⟩, hk⟩
        have ht' : (p.passage.times n).into goal j k second := ih ▸ ⟨ht, hk⟩
        have hreach : (goal ||| p.live).testBit j = true := by
          rw [Nat.testBit_or, Bool.or_eq_true]
          cases n with
          | zero => exact .inl (ht.1 ▸ hk)
          | succ n =>
            obtain ⟨l, _, _, hp, -, -⟩ := ht'.1
            exact .inr (live_of_passage h.aimed hp)
        exact ⟨⟨j, first, second, by rw [h.passage]; exact ⟨hT, hreach⟩, ht'.1, rfl⟩, hk⟩
  have hiff (n i j : Nat) (ms : List Mark) (hj : goal.testBit j = true) :
      p.passage.times n i j ms ↔ T.times n i j ms := by
    have := congrFun (congrFun (congrFun (htimes n) i) j) ms
    simpa [Passage.into, hj] using this
  refine ⟨⟨rfl, rfl, h.aimed, fun i hi => ?_⟩, ?_⟩
  · obtain ⟨j, n, ms, ht, hj⟩ := hleave i hi
    exact ⟨j, n, ms, (hiff n i j ms hj).2 ht, hj⟩
  · rw [Plan.passage]
    ext i j ms
    refine and_congr_left fun hj => exists_congr fun n => ?_
    rw [hiff n i j ms hj]

end Plan

/-! ## Drafts -/

namespace Draft

/-- Whether a draft, for whatever goal, is a plan for the passages of `T` into that goal. -/
structure Realizes (length : Nat) (d : Draft) (T : Passage) : Prop where
  isForward : T.IsForward
  fulfils : ∀ number goal, Subplaces goal (everywhere length) →
    (d number goal).1.Fulfils goal T

variable {length number goal : Nat} {a b : Draft} {T U : Passage}

theorem Realizes.subplaces (h : a.Realizes length T)
    (hgoal : Subplaces goal (everywhere length)) :
    Subplaces (a number goal).1.live (everywhere length) :=
  (h.fulfils number goal hgoal).subplaces h.isForward hgoal

theorem fulfils_stay (hgoal : Subplaces goal (everywhere length)) :
    (Plan.stay (everywhere length &&& goal)).Fulfils goal .stay := by
  constructor
  · intro i hi
    rw [Nat.testBit_and, Bool.and_eq_true] at hi
    exact hi.2
  · ext i j ms
    show ((everywhere length &&& goal).testBit i = true ∧ j = i) ∧ ms = [] ↔ (j = i ∧ ms = []) ∧ _
    rw [Nat.testBit_and, Bool.and_eq_true]
    constructor
    · rintro ⟨⟨⟨-, hi⟩, rfl⟩, rfl⟩
      exact ⟨⟨rfl, rfl⟩, hi⟩
    · rintro ⟨⟨rfl, rfl⟩, hi⟩
      exact ⟨⟨⟨hgoal _ hi, hi⟩, rfl⟩, rfl⟩

theorem realizes_stay (length : Nat) : (stay (everywhere length)).Realizes length .stay :=
  ⟨.stay, fun _ _ hgoal => fulfils_stay hgoal⟩

theorem realizes_site (length : Nat) (s : Site) :
    (Regex.draft length (.atom s)).Realizes length fun i j ms => s.Leads i j ∧ ms = [] := by
  refine ⟨fun i j ms h => Site.le_of_leads h.1, fun number goal _ => ?_⟩
  cases s with
  | step places =>
    have hbit (i : Nat) : (places &&& (goal >>> 1)).testBit i = true ↔
        places.testBit i = true ∧ goal.testBit (i + 1) = true := by
      rw [Nat.testBit_and, Bool.and_eq_true, Nat.testBit_shiftRight, Nat.add_comm 1 i]
    refine ⟨fun i hi => ((hbit i).1 hi).2, ?_⟩
    ext i j ms
    show ((places &&& (goal >>> 1)).testBit i = true ∧ j = i + 1) ∧ ms = [] ↔ _
    rw [hbit]
    constructor
    · rintro ⟨⟨⟨hi, hj⟩, rfl⟩, rfl⟩
      exact ⟨⟨⟨hi, rfl⟩, rfl⟩, hj⟩
    · rintro ⟨⟨⟨hi, rfl⟩, rfl⟩, hj⟩
      exact ⟨⟨⟨hi, hj⟩, rfl⟩, rfl⟩
  | stand places =>
    have hbit (i : Nat) : (places &&& goal).testBit i = true ↔
        places.testBit i = true ∧ goal.testBit i = true := by
      rw [Nat.testBit_and, Bool.and_eq_true]
    refine ⟨fun i hi => ((hbit i).1 hi).2, ?_⟩
    ext i j ms
    show ((places &&& goal).testBit i = true ∧ j = i) ∧ ms = [] ↔ _
    rw [hbit]
    constructor
    · rintro ⟨⟨⟨hi, hj⟩, rfl⟩, rfl⟩
      exact ⟨⟨⟨hi, rfl⟩, rfl⟩, hj⟩
    · rintro ⟨⟨⟨hi, rfl⟩, rfl⟩, hj⟩
      exact ⟨⟨⟨hi, hj⟩, rfl⟩, rfl⟩

theorem Realizes.capture (h : a.Realizes length T) (group : Nat) :
    (capture group a).Realizes length (T.mark group) :=
  ⟨h.isForward.mark group, fun number _ hgoal => (h.fulfils (number + 1) _ hgoal).capture group⟩

theorem Realizes.seq (ha : a.Realizes length T) (hb : b.Realizes length U) :
    (seq a b).Realizes length (T.seq U) :=
  ⟨ha.isForward.seq hb.isForward, fun _ _ hgoal =>
    (ha.fulfils _ _ (hb.subplaces hgoal)).cat (hb.fulfils _ _ hgoal)⟩

theorem Realizes.either (ha : a.Realizes length T) (hb : b.Realizes length U) :
    (either a b).Realizes length (T.either U) :=
  ⟨ha.isForward.either hb.isForward, fun _ _ hgoal =>
    (ha.fulfils _ _ hgoal).choice (hb.fulfils _ _ hgoal) _⟩

theorem Realizes.times (ha : a.Realizes length T) (hb : b.Realizes length U) (n : Nat) :
    (times a n b).Realizes length ((T.times n).seq U) := by
  refine ⟨(ha.isForward.times n).seq hb.isForward, fun number goal hgoal => ?_⟩
  induction n with
  | zero =>
    rw [Passage.times_zero, Passage.stay_seq]
    exact hb.fulfils number goal hgoal
  | succ n ih =>
    -- The iterations made so far are what the next one in front of them has to reach.
    have hlive := ih.subplaces ((ha.isForward.times n).seq hb.isForward) hgoal
    rw [Passage.times_succ, Passage.seq_assoc]
    exact (ha.fulfils _ _ hlive).cat ih

theorem Realizes.optional (h : a.Realizes length T) (greedy : Bool) :
    (optional length greedy a).Realizes length (T.either .stay) := by
  cases greedy with
  | true => exact h.either (realizes_stay length)
  | false =>
    have := (realizes_stay length).either h
    rwa [Passage.either_comm] at this

theorem Realizes.upTo (h : a.Realizes length T) (greedy : Bool) (n : Nat) :
    (upTo length greedy a n).Realizes length (T.repeated 0 (some n)) := by
  have hforward := h.isForward.repeated 0 (some n)
  refine ⟨hforward, fun number goal hgoal => ?_⟩
  induction n with
  | zero =>
    rw [Passage.repeated_zero_zero]
    exact (realizes_stay length).fulfils number goal hgoal
  | succ n ih =>
    have ih := ih (h.isForward.repeated 0 (some n))
    have hlive := ih.subplaces (h.isForward.repeated 0 (some n)) hgoal
    have hmore := (h.fulfils ((Draft.upTo length greedy a n number goal).2 + 1) _ hlive).cat ih
    have hstop := fulfils_stay hgoal
    rw [Passage.repeated_zero_succ]
    cases greedy with
    | true => exact hmore.choice hstop _
    | false =>
      have := hstop.choice hmore (Draft.upTo length false a n number goal).2
      rw [Passage.either_comm, Nat.or_comm] at this
      exact this

/-- Places from which iterations of a body lead to the goal, on the way to all of them. -/
structure Settling (length goal : Nat) (body : Nat → Plan × Nat) (T : Passage) (reach : Nat) :
    Prop where
  within : Subplaces reach (everywhere length)
  grows : Subplaces reach (goal ||| (body reach).1.live)
  reaches : ∀ i, reach.testBit i = true → T.Reaches goal i

section

variable {body : Nat → Plan × Nat} {reach : Nat}

theorem Settling.start (hgoal : Subplaces goal (everywhere length)) :
    Settling length goal body T goal where
  within := hgoal
  grows i hi := by simp [hi]
  reaches i hi := ⟨i, 0, [], ⟨rfl, rfl⟩, hi⟩

variable (hT : T.IsForward) (hgoal : Subplaces goal (everywhere length))
  (hbody : ∀ reach, Subplaces reach (everywhere length) → (body reach).1.Fulfils reach T)
include hbody

theorem Settling.reaches_live (h : Settling length goal body T reach) (i : Nat)
    (hi : (body reach).1.live.testBit i = true) : T.Reaches goal i := by
  obtain ⟨k, first, hk, hreach⟩ := ((hbody reach h.within).live_iff i).1 hi
  obtain ⟨j, n, second, hn, hj⟩ := h.reaches k hreach
  exact ⟨j, n + 1, _, ⟨k, first, second, hk, hn, rfl⟩, hj⟩

include hT hgoal

theorem Settling.next (h : Settling length goal body T reach) :
    Settling length goal body T (goal ||| (body reach).1.live) := by
  have hwithin : Subplaces (goal ||| (body reach).1.live) (everywhere length) := by
    intro i hi
    rw [Nat.testBit_or, Bool.or_eq_true] at hi
    exact hi.elim (hgoal i) ((hbody reach h.within).subplaces hT h.within i)
  refine ⟨hwithin, fun i hi => ?_, fun i hi => ?_⟩
  -- A body that leads to more places is live at more places.
  · rw [Nat.testBit_or, Bool.or_eq_true] at hi ⊢
    refine hi.imp_right fun hi => ?_
    obtain ⟨j, ms, hj, hreach⟩ := ((hbody _ h.within).live_iff i).1 hi
    exact ((hbody _ hwithin).live_iff i).2 ⟨j, ms, hj, h.grows j hreach⟩
  · rw [Nat.testBit_or, Bool.or_eq_true] at hi
    exact hi.elim (fun hi => ⟨i, 0, [], ⟨rfl, rfl⟩, hi⟩) (h.reaches_live hbody i)

theorem Settling.lacking_lt (h : Settling length goal body T reach)
    (hne : goal ||| (body reach).1.live ≠ reach) :
    lacking (length + 1) (goal ||| (body reach).1.live) < lacking (length + 1) reach := by
  obtain ⟨i, hi⟩ := Nat.exists_testBit_ne_of_ne hne
  cases hs : reach.testBit i with
  | true => exact absurd (h.grows i hs) (by simpa [hs] using hi)
  | false =>
    have ht : (goal ||| (body reach).1.live).testBit i = true := by
      rw [hs] at hi
      simpa only [Bool.not_eq_false] using hi
    have := (testBit_everywhere length i).1 ((h.next hT hgoal hbody).within i ht)
    exact h.grows.lacking_lt (by omega) hs ht

/-- Settling stops at a body that leads to where it starts or to the goal. -/
theorem Settling.exists_reach (h : Settling length goal body T reach) {rounds : Nat}
    (hrounds : lacking (length + 1) reach ≤ rounds) :
    ∃ reach', Settling length goal body T reach' ∧ settle body goal rounds reach = body reach' ∧
      goal ||| (body reach').1.live = reach' := by
  -- Every round that changes the places adds one, and there are no more than the text has.
  induction rounds generalizing reach with
  | zero =>
    by_cases heq : goal ||| (body reach).1.live = reach
    · exact ⟨reach, h, rfl, heq⟩
    · have := h.lacking_lt hT hgoal hbody heq
      omega
  | succ rounds ih =>
    by_cases heq : goal ||| (body reach).1.live = reach
    · exact ⟨reach, h, if_pos heq, heq⟩
    · have hsettle : settle body goal (rounds + 1) reach =
          settle body goal rounds (goal ||| (body reach).1.live) := if_neg heq
      have := h.lacking_lt hT hgoal hbody heq
      rw [hsettle]
      exact ih (h.next hT hgoal hbody) (by omega)

end

/-- Settling stops at a body, whichever that is. -/
theorem settle_of_body {body : Nat → Plan × Nat} {P : Plan × Nat → Prop}
    (h : ∀ reach, P (body reach)) (goal rounds reach : Nat) :
    P (settle body goal rounds reach) := by
  induction rounds generalizing reach with
  | zero => exact h reach
  | succ rounds ih =>
    by_cases heq : goal ||| (body reach).1.live = reach
    · have hsettle : settle body goal (rounds + 1) reach = body reach := if_pos heq
      rw [hsettle]
      exact h reach
    · have hsettle : settle body goal (rounds + 1) reach =
          settle body goal rounds (goal ||| (body reach).1.live) := if_neg heq
      rw [hsettle]
      exact ih _

/-- The body of a drafted loop. -/
theorem Realizes.exists_body (h : a.Realizes length T)
    (hgoal : Subplaces goal (everywhere length)) (number : Nat) (greedy isOptional : Bool) :
    ∃ reach, Subplaces reach (everywhere length) ∧
      goal ||| (a (number + 1) reach).1.live = reach ∧
      (∀ i, (a (number + 1) reach).1.live.testBit i = true → T.Reaches goal i) ∧
      (loop length greedy isOptional a number goal).1 =
        .loop number (if isOptional then goal ||| (a (number + 1) reach).1.live
          else (a (number + 1) reach).1.live) goal greedy isOptional (a (number + 1) reach).1 := by
  have hbody (reach : Nat) (hreach : Subplaces reach (everywhere length)) :=
    h.fulfils (number + 1) reach hreach
  obtain ⟨reach, hreach, hsettle, heq⟩ := (Settling.start hgoal).exists_reach h.isForward hgoal
    hbody (lacking_le (length + 1) goal)
  refine ⟨reach, hreach.within, heq, hreach.reaches_live hbody, ?_⟩
  unfold Draft.loop
  rw [hsettle]

theorem Realizes.loop (h : a.Realizes length T) (greedy isOptional : Bool) :
    (loop length greedy isOptional a).Realizes length
      (T.repeated (if isOptional then 0 else 1) none) := by
  refine ⟨h.isForward.repeated _ _, fun number goal hgoal => ?_⟩
  obtain ⟨reach, hwithin, heq, hreaches, hloop⟩ := h.exists_body hgoal number greedy isOptional
  have hbody : (a (number + 1) reach).1.Fulfils (goal ||| (a (number + 1) reach).1.live) T := by
    rw [heq]
    exact h.fulfils (number + 1) reach hwithin
  rw [hloop]
  exact hbody.loop hreaches number greedy isOptional

theorem Realizes.repetition (h : a.Realizes length T) (min : Nat) (max : Option Nat)
    (greedy isNullable : Bool) :
    (repetition length min max greedy isNullable a).Realizes length (T.repeated min max) := by
  unfold Draft.repetition
  split
  · cases isNullable with
    | true =>
      have := (h.loop greedy false).optional greedy
      rw [Passage.either_comm] at this
      rw [Passage.repeated_none_zero]
      exact this
    | false => exact h.loop greedy true
  · next n =>
    rw [Passage.repeated_add n (n := 1)]
    exact h.times (h.loop greedy false) n
  · next m =>
    have hdue := Passage.repeated_add (T := T) (n := 0) min (some m)
    rw [Nat.add_zero] at hdue
    rw [hdue]
    exact h.times (h.upTo greedy (m - min)) min

end Draft

/-! ## Expressions -/

namespace Regex

theorem realizes_draft (length : Nat) (r : Regex Site) :
    (r.draft length).Realizes length (r.passage Site.Leads) := by
  induction r with
  | empty => exact Draft.realizes_stay length
  | atom s => exact Draft.realizes_site length s
  | capture index name r ih => exact ih.capture index
  | cat r s ihr ihs => exact ihr.seq ihs
  | alt r s ihr ihs => exact ihr.either ihs
  | repetition min max greedy r ih => exact ih.repetition min max greedy _

/-- The plan for a text has the passages of the expression that stop in the text. -/
theorem fulfils_planFor (r : Regex Atom) (text : List Char) :
    (r.planFor text).1.Fulfils (everywhere text.length) (r.passageIn text) := by
  rw [← passage_sites]
  exact (realizes_draft text.length _).fulfils 0 _ fun _ h => h

theorem testBit_starts (r : Regex Atom) (text : List Char) (i : Nat) :
    (r.starts text).testBit i = true ↔ ∃ j ms, r.passageIn text i j ms ∧ j ≤ text.length := by
  rw [starts, (r.fulfils_planFor text).live_iff]
  simp only [testBit_everywhere]

/-- A text matches if the expression leads from somewhere in it to somewhere in it. -/
theorem isMatch_iff (r : Regex Atom) (text : List Char) :
    r.isMatch text = true ↔ ∃ i j ms, r.passageIn text i j ms ∧ j ≤ text.length := by
  simp only [← testBit_starts, isMatch, bne_iff_ne]
  constructor
  · intro h
    obtain ⟨i, hi⟩ := Nat.exists_testBit_ne_of_ne h
    exact ⟨i, by simpa using hi⟩
  · rintro ⟨i, hi⟩ h
    simp [h] at hi

/-- A search fails exactly where nothing matches. -/
theorem isSome_find? (r : Regex Atom) (text : List Char) :
    (r.find? text).isSome = r.isMatch text := by
  rw [Bool.eq_iff_iff, find?, Option.isSome_map, List.find?_isSome, isMatch_iff]
  simp only [List.mem_range]
  show (∃ i, i < text.length + 1 ∧ (r.starts text).testBit i = true) ↔ _
  simp only [testBit_starts]
  constructor
  · rintro ⟨i, -, h⟩
    exact ⟨i, h⟩
  · rintro ⟨i, j, ms, h, hj⟩
    have := isForward_passage (fun _ _ _ => Atom.le_of_leads) r i j ms h
    exact ⟨i, by omega, j, ms, h, hj⟩

end Regex

end PathGlob

-- SUMMARY: Following first alternatives through a drafted plan takes the first of its expression's ways to the goal.
import PathGlob.Proofs.Regex.Courses
import PathGlob.Proofs.Regex.Ways

/-!
# First alternatives

At every choice a plan knows which alternatives can still lead to the goal, so the first of those
is the way to go. `Plan.Prefers` says that this is the first way of the expression that ends in the
goal: one lemma for each way to build a draft, as for `Draft.Realizes`.
-/

namespace PathGlob

/-! ## Steps -/

namespace Course

/-- Whether a course goes on, by its first alternative, at another place as another course. -/
def First (i : Nat) (c : Course) (j : Nat) (d : Course) : Prop :=
  match c.next i with
  | .advance d' => j = i + 1 ∧ d = d'
  | .proceed d' => j = i ∧ d = d'
  | .choose _ (d' :: _) => j = i ∧ d = d'
  | _ => False

/-- Whether first alternatives lead from one place and course to another. -/
inductive Descends : Nat → Course → Nat → Course → Prop
  | refl (i : Nat) (c : Course) : Descends i c i c
  | step {i j k : Nat} {c d e : Course} : First i c j d → Descends j d k e → Descends i c k e

variable {i j k : Nat} {c d e : Course} {ts : List Task} {ms : List Mark}

theorem Descends.trans (h : Descends i c j d) (h' : Descends j d k e) : Descends i c k e := by
  induction h with
  | refl _ _ => exact h'
  | step hfirst _ ih => exact .step hfirst (ih h')

theorem First.descends (h : First i c j d) : Descends i c j d := .step h (.refl j d)

theorem next_choice (i number live : Nat) (a b : Plan) (ts : List Task) (ms : List Mark) :
    Course.next i ⟨.run (.choice number live a b) :: ts, ms⟩ =
      .choose number (([a, b].filter (·.live.testBit i)).map fun p => ⟨.run p :: ts, ms⟩) := rfl

theorem first_left {number live : Nat} {a b : Plan} (ha : a.live.testBit i = true) :
    First i ⟨.run (.choice number live a b) :: ts, ms⟩ i ⟨.run a :: ts, ms⟩ := by
  rw [First, next_choice]
  simp [ha]

theorem first_right {number live : Nat} {a b : Plan} (ha : a.live.testBit i = false)
    (hb : b.live.testBit i = true) :
    First i ⟨.run (.choice number live a b) :: ts, ms⟩ i ⟨.run b :: ts, ms⟩ := by
  rw [First, next_choice]
  simp [ha, hb]

variable {number goal : Nat} {greedy : Bool} {body : Plan}

/-- A loop goes on if that is preferred or the only way. -/
theorem first_more (hbody : body.live.testBit i = true)
    (hgoal : greedy = true ∨ goal.testBit i = false) :
    First i ⟨.again number goal greedy body :: ts, ms⟩ i
      ⟨.run body :: .again number goal greedy body :: ts, ms⟩ := by
  unfold First Course.next
  cases greedy with
  | true =>
    dsimp only
    rw [if_pos hbody, if_pos rfl]
    exact ⟨rfl, rfl⟩
  | false =>
    have hgoal := hgoal.resolve_left nofun
    dsimp only
    rw [if_pos hbody, if_neg Bool.false_ne_true, if_neg (by simp [hgoal])]
    exact ⟨rfl, rfl⟩

theorem first_leave (hgoal : goal.testBit i = true)
    (hbody : greedy = false ∨ body.live.testBit i = false) :
    First i ⟨.again number goal greedy body :: ts, ms⟩ i ⟨ts, ms⟩ := by
  unfold First Course.next
  cases greedy with
  | false =>
    dsimp only
    rw [if_pos hgoal, if_neg Bool.false_ne_true]
    exact ⟨rfl, rfl⟩
  | true =>
    have hbody := hbody.resolve_left nofun
    dsimp only
    rw [if_pos hgoal, if_pos rfl, if_neg (by simp [hbody])]
    exact ⟨rfl, rfl⟩

end Course

/-! ## First ways -/

namespace Ways

/-- The first way from a place into a set of places. -/
def firstInto (goal : Nat) (T : Ways) (i : Nat) : Option (Nat × List Mark) :=
  (T i).find? fun e => goal.testBit e.1

variable {length goal i : Nat} {T U : Ways}

theorem find?_flatMap_of_isSome {α β : Type} {l : List α} {f : α → List β} {P : β → Bool}
    {Q : α → Bool} (h : ∀ a ∈ l, Q a = ((f a).find? P).isSome) :
    (l.flatMap f).find? P = (l.find? Q).bind fun a => (f a).find? P := by
  induction l with
  | nil => rfl
  | cons a l ih =>
    have ih := ih fun b hb => h b (List.mem_cons_of_mem a hb)
    have ha := h a List.mem_cons_self
    rw [List.flatMap_cons, List.find?_append, List.find?_cons, ih]
    cases hf : (f a).find? P with
    | none =>
      rw [hf] at ha
      rw [ha]
      rfl
    | some b =>
      rw [hf] at ha
      rw [ha]
      exact hf.symm

/-- A first part that ends where the second can go on is the first part of a first way. -/
theorem firstInto_seq {q : Nat} (h : ∀ e ∈ T i, q.testBit e.1 = (U.firstInto goal e.1).isSome) :
    (seq T U).firstInto goal i = (T.firstInto q i).bind fun e =>
      (U.firstInto goal e.1).map fun e' => (e'.1, e'.2 ++ e.2) := by
  have hmap (e : Nat × List Mark) :
      ((U e.1).map fun e' => (e'.1, e'.2 ++ e.2)).find? (fun e => goal.testBit e.1) =
        (U.firstInto goal e.1).map fun e' => (e'.1, e'.2 ++ e.2) := List.find?_map
  rw [firstInto, seq, find?_flatMap_of_isSome (Q := fun e => q.testBit e.1)]
  · simp only [hmap]
    rfl
  · intro e he
    rw [hmap, Option.isSome_map]
    exact h e he

theorem firstInto_either : (either T U).firstInto goal i =
    (T.firstInto goal i).or (U.firstInto goal i) := List.find?_append

theorem firstInto_stay :
    stay.firstInto goal i = if goal.testBit i then some (i, []) else none := by
  rw [firstInto, stay, List.find?_cons]
  cases goal.testBit i <;> rfl

theorem firstInto_mark (group : Nat) : (mark group T).firstInto goal i =
    (T.firstInto goal i).map fun e => (e.1, ⟨group, i, e.1⟩ :: e.2) := List.find?_map

theorem testBit_of_firstInto {e : Nat × List Mark} (h : T.firstInto goal i = some e) :
    goal.testBit e.1 = true := by
  have hfound := List.find?_some h
  exact hfound

theorem mem_of_firstInto {e : Nat × List Mark} (h : T.firstInto goal i = some e) : e ∈ T i :=
  List.mem_of_find?_eq_some h

end Ways

/-! ## Plans -/

namespace Plan

open Course (Descends)

/-- Whether following first alternatives through a plan takes the first way of `T` into a goal,
and the plan knows from which places there is one. -/
structure Prefers (length goal : Nat) (p : Plan) (T : Ways) : Prop where
  live : ∀ i, i ≤ length → p.live.testBit i = (T.firstInto goal i).isSome
  descends : ∀ i, i ≤ length → ∀ e, T.firstInto goal i = some e → ∀ ts ms,
    Descends i ⟨.run p :: ts, ms⟩ e.1 ⟨ts, e.2 ++ ms⟩

variable {length goal number : Nat} {a b p : Plan} {T U : Ways}

theorem Prefers.capture (h : p.Prefers length goal T) (group : Nat) :
    (Plan.capture group p).Prefers length goal (T.mark group) := by
  refine ⟨fun i hi => ?_, fun i hi e he ts ms => ?_⟩
  · rw [Ways.firstInto_mark, Option.isSome_map]
    exact h.live i hi
  · rw [Ways.firstInto_mark] at he
    obtain ⟨f, hf, rfl⟩ := Option.map_eq_some_iff.1 he
    have hbody := h.descends i hi f hf (.close group i :: ts) ms
    exact .step ⟨rfl, rfl⟩ (hbody.trans (.step ⟨rfl, rfl⟩ (.refl _ _)))

/-- A part is live where it has a way to where the next part has one. -/
theorem Prefers.live_seq {q i : Nat} (ha : a.Prefers length q T) (hi : i ≤ length)
    (h : ∀ e ∈ T i, q.testBit e.1 = (U.firstInto goal e.1).isSome) :
    a.live.testBit i = ((T.seq U).firstInto goal i).isSome := by
  rw [Ways.firstInto_seq h, ha.live i hi]
  cases hfirst : T.firstInto q i with
  | none => rfl
  | some e =>
    rw [Option.bind_some, Option.isSome_map, ← h e (Ways.mem_of_firstInto hfirst),
      Ways.testBit_of_firstInto hfirst]
    rfl

/-- The first way of a sequence leads over the first ways of its parts. -/
theorem Prefers.descends_seq {q i : Nat} (ha : a.Prefers length q T) (hi : i ≤ length)
    (h : ∀ e ∈ T i, q.testBit e.1 = (U.firstInto goal e.1).isSome) {e : Nat × List Mark}
    (he : (T.seq U).firstInto goal i = some e) (t : Task) (ts : List Task) (ms : List Mark)
    (hthen : ∀ f ∈ T i, ∀ g, U.firstInto goal f.1 = some g → ∀ ms,
      Descends f.1 ⟨t :: ts, ms⟩ g.1 ⟨ts, g.2 ++ ms⟩) :
    Descends i ⟨.run a :: t :: ts, ms⟩ e.1 ⟨ts, e.2 ++ ms⟩ := by
  rw [Ways.firstInto_seq h] at he
  obtain ⟨f, hf, he⟩ := Option.bind_eq_some_iff.1 he
  obtain ⟨g, hg, rfl⟩ := Option.map_eq_some_iff.1 he
  have hfirst := ha.descends i hi f hf (t :: ts) ms
  rw [List.append_assoc]
  exact hfirst.trans (hthen f (Ways.mem_of_firstInto hf) g hg (f.2 ++ ms))

theorem Prefers.cat (hT : T.Forward length) (ha : a.Prefers length b.live T)
    (hb : b.Prefers length goal U) : (Plan.cat a b).Prefers length goal (T.seq U) := by
  have hnext (i : Nat) (hi : i ≤ length) (e : Nat × List Mark) (he : e ∈ T i) :
      b.live.testBit e.1 = (U.firstInto goal e.1).isSome := hb.live e.1 (hT i hi e he).2
  refine ⟨fun i hi => ha.live_seq hi (hnext i hi), fun i hi e he ts ms => ?_⟩
  refine .step ⟨rfl, rfl⟩ (ha.descends_seq hi (hnext i hi) he (.run b) ts ms ?_)
  exact fun f hf g hg ms => hb.descends f.1 (hT i hi f hf).2 g hg ts ms

theorem Prefers.choice (ha : a.Prefers length goal T) (hb : b.Prefers length goal U)
    (number : Nat) :
    (Plan.choice number (a.live ||| b.live) a b).Prefers length goal (T.either U) := by
  refine ⟨fun i hi => ?_, fun i hi e he ts ms => ?_⟩
  · rw [Plan.live, Nat.testBit_or, ha.live i hi, hb.live i hi, Ways.firstInto_either,
      Option.isSome_or]
  -- The second part has its turn where the first has no way to the goal.
  · rw [Ways.firstInto_either] at he
    have hla := ha.live i hi
    cases hfirst : T.firstInto goal i with
    | some f =>
      rw [hfirst] at he hla
      cases he
      exact .step (Course.first_left hla) (ha.descends i hi e hfirst ts ms)
    | none =>
      rw [hfirst] at he hla
      have hlb := hb.live i hi
      rw [show U.firstInto goal i = some e from he] at hlb
      exact .step (Course.first_right hla hlb) (hb.descends i hi e he ts ms)

/-- A part without parts, which goes on by `k` places from some of them. -/
theorem prefers_leaf {k : Nat} {c : Nat → Bool}
    (hT : ∀ i, T i = if c i then [(i + k, [])] else [])
    (hlive : ∀ i, p.live.testBit i = (c i && goal.testBit (i + k)))
    (hfirst : ∀ i ts ms, Course.First i ⟨.run p :: ts, ms⟩ (i + k) ⟨ts, ms⟩) :
    p.Prefers length goal T := by
  have hway (i : Nat) :
      T.firstInto goal i = if c i && goal.testBit (i + k) then some (i + k, []) else none := by
    rw [Ways.firstInto, hT]
    cases c i <;> cases hgoal : goal.testBit (i + k) <;> simp [hgoal]
  refine ⟨fun i _ => ?_, fun i _ e he ts ms => ?_⟩
  · rw [hlive, hway]
    cases c i && goal.testBit (i + k) <;> rfl
  · rw [hway] at he
    split at he
    · cases he
      exact (hfirst i ts ms).descends
    · cases he

theorem prefers_stay (hgoal : Subplaces goal (everywhere length)) :
    (Plan.stay (everywhere length &&& goal)).Prefers length goal .stay := by
  refine prefers_leaf (k := 0) (c := fun _ => true) (fun i => rfl) (fun i => ?_)
    fun i ts ms => ⟨rfl, rfl⟩
  rw [Plan.live, Nat.testBit_and, Bool.true_and, Nat.add_zero, Bool.and_eq_right_iff_imp]
  exact hgoal i

/-! ## Loops -/

/-- A loop goes first where its first way goes: into its body again or out of the loop. -/
theorem first_again {body : Plan} {greedy : Bool} {i : Nat} {e : Nat × List Mark}
    (hlive : body.live.testBit i = (T.firstInto goal i).isSome)
    (he : (Ways.prefer greedy T .stay).firstInto goal i = some e) (number : Nat) (ts : List Task)
    (ms : List Mark) :
    T.firstInto goal i = some e ∧
        Course.First i ⟨.again number goal greedy body :: ts, ms⟩ i
          ⟨.run body :: .again number goal greedy body :: ts, ms⟩ ∨
      e = (i, []) ∧ Course.First i ⟨.again number goal greedy body :: ts, ms⟩ i ⟨ts, ms⟩ := by
  cases greedy with
  | true =>
    rw [Ways.prefer, if_pos rfl, Ways.firstInto_either, Ways.firstInto_stay] at he
    cases hfirst : T.firstInto goal i with
    | some f =>
      rw [hfirst] at he hlive
      exact .inl ⟨he, Course.first_more hlive (.inl rfl)⟩
    | none =>
      rw [hfirst] at he hlive
      obtain ⟨hgoal, rfl⟩ : goal.testBit i = true ∧ (i, []) = e := by simpa using he
      exact .inr ⟨rfl, Course.first_leave hgoal (.inr hlive)⟩
  | false =>
    rw [Ways.prefer, if_neg Bool.false_ne_true, Ways.firstInto_either, Ways.firstInto_stay] at he
    cases hgoal : goal.testBit i with
    | true =>
      rw [hgoal] at he
      cases he
      exact .inr ⟨rfl, Course.first_leave hgoal (.inl rfl)⟩
    | false =>
      rw [hgoal] at he
      have he : T.firstInto goal i = some e := he
      rw [he] at hlive
      exact .inl ⟨he, Course.first_more hlive (.inr hgoal)⟩

section

variable {body : Plan} (hT : T.Forward length) (hc : T.Consuming length) (greedy : Bool)
include hT hc

theorem upTo_length_eq {i : Nat} (hi : i ≤ length) : T.upTo greedy length i =
    (Ways.prefer greedy (T.seq (T.upTo greedy length)) .stay) i :=
  Ways.upTo_eq_of_le hT hc greedy hi (Nat.sub_le _ _) (by omega : length - i ≤ length + 1)

theorem firstInto_upTo {i : Nat} (hi : i ≤ length) : (T.upTo greedy length).firstInto goal i =
    (Ways.prefer greedy (T.seq (T.upTo greedy length)) .stay).firstInto goal i := by
  rw [Ways.firstInto, upTo_length_eq hT hc greedy hi]
  rfl

variable (hbody : body.Prefers length (goal ||| body.live) T)
include hbody

/-- Induction on the characters ahead: each iteration takes some. -/
theorem Prefers.again_live (i : Nat) (hi : i ≤ length) :
    (goal ||| body.live).testBit i = ((T.upTo greedy length).firstInto goal i).isSome := by
  induction h : length - i using Nat.strongRecOn generalizing i with
  | _ n ih =>
    -- An iteration from here leads on to where the loop is known to be live.
    have hnext (e : Nat × List Mark) (he : e ∈ T i) : (goal ||| body.live).testBit e.1 =
        ((T.upTo greedy length).firstInto goal e.1).isSome := by
      have := hT i hi e he
      have := hc i hi e he
      exact ih (length - e.1) (by omega) e.1 (by omega) rfl
    have hmore := hbody.live_seq hi hnext
    have hstay : goal.testBit i = (Ways.stay.firstInto goal i).isSome := by
      rw [Ways.firstInto_stay]
      cases goal.testBit i <;> rfl
    rw [firstInto_upTo hT hc greedy hi, Nat.testBit_or, hstay, hmore]
    cases greedy with
    | true => rw [Ways.prefer, if_pos rfl, Ways.firstInto_either, Option.isSome_or, Bool.or_comm]
    | false => rw [Ways.prefer, if_neg Bool.false_ne_true, Ways.firstInto_either, Option.isSome_or]

/-- Each iteration goes on from where the one before it ended, with fewer characters ahead. -/
theorem Prefers.again_descends (number i : Nat) (hi : i ≤ length) (e : Nat × List Mark)
    (he : (T.upTo greedy length).firstInto goal i = some e) (ts : List Task) (ms : List Mark) :
    Descends i ⟨.again number goal greedy body :: ts, ms⟩ e.1 ⟨ts, e.2 ++ ms⟩ := by
  induction h : length - i using Nat.strongRecOn generalizing i e ms with
  | _ n ih =>
    have hnext (f : Nat × List Mark) (hf : f ∈ T i) :=
      hbody.again_live hT hc greedy f.1 (hT i hi f hf).2
    rw [firstInto_upTo hT hc greedy hi] at he
    rcases first_again (hbody.live_seq hi hnext) he number ts ms with ⟨he, hfirst⟩ | ⟨rfl, hfirst⟩
    · refine .step hfirst (hbody.descends_seq hi hnext he _ ts ms fun f hf g hg ms => ?_)
      have := hT i hi f hf
      have := hc i hi f hf
      exact ih (length - f.1) (by omega) f.1 (by omega) g hg ms rfl
    · exact hfirst.descends

end

end Plan

/-! ## Drafts -/

namespace Draft

/-- Whether a draft, for whatever goal, is a plan that takes the first way of `T` into that goal. -/
structure Orders (length : Nat) (d : Draft) (T : Ways) : Prop where
  realizes : ∃ P, d.Realizes length P
  forward : T.Forward length
  prefers : ∀ number goal, Subplaces goal (everywhere length) →
    (d number goal).1.Prefers length goal T

variable {length number goal : Nat} {a b : Draft} {T U : Ways}

theorem Orders.subplaces (h : a.Orders length T) (hgoal : Subplaces goal (everywhere length)) :
    Subplaces (a number goal).1.live (everywhere length) := by
  obtain ⟨P, hP⟩ := h.realizes
  exact hP.subplaces hgoal

theorem orders_stay (length : Nat) : (stay (everywhere length)).Orders length .stay :=
  ⟨⟨_, realizes_stay length⟩, .stay, fun _ _ hgoal => Plan.prefers_stay hgoal⟩

theorem orders_site (s : Site) (h : s.ways.Forward length) :
    (Regex.draft length (.atom s)).Orders length s.ways := by
  refine ⟨⟨_, realizes_site length s⟩, h, fun number goal _ => ?_⟩
  cases s with
  | step places =>
    refine Plan.prefers_leaf (k := 1) (c := places.testBit) (fun i => rfl) (fun i => ?_)
      fun i ts ms => ⟨rfl, rfl⟩
    show (places &&& (goal >>> 1)).testBit i = _
    rw [Nat.testBit_and, Nat.testBit_shiftRight, Nat.add_comm 1 i]
  | stand places =>
    refine Plan.prefers_leaf (k := 0) (c := places.testBit) (fun i => rfl) (fun i => ?_)
      fun i ts ms => ⟨rfl, rfl⟩
    exact Nat.testBit_and places goal i

theorem Orders.capture (h : a.Orders length T) (group : Nat) :
    (capture group a).Orders length (T.mark group) := by
  obtain ⟨P, hP⟩ := h.realizes
  exact ⟨⟨_, hP.capture group⟩, h.forward.mark group, fun number _ hgoal =>
    (h.prefers (number + 1) _ hgoal).capture group⟩

theorem Orders.seq (ha : a.Orders length T) (hb : b.Orders length U) :
    (seq a b).Orders length (T.seq U) := by
  obtain ⟨P, hP⟩ := ha.realizes
  obtain ⟨Q, hQ⟩ := hb.realizes
  exact ⟨⟨_, hP.seq hQ⟩, ha.forward.seq hb.forward, fun _ _ hgoal =>
    (ha.prefers _ _ (hb.subplaces hgoal)).cat ha.forward (hb.prefers _ _ hgoal)⟩

theorem Orders.either (ha : a.Orders length T) (hb : b.Orders length U) :
    (either a b).Orders length (T.either U) := by
  obtain ⟨P, hP⟩ := ha.realizes
  obtain ⟨Q, hQ⟩ := hb.realizes
  exact ⟨⟨_, hP.either hQ⟩, ha.forward.either hb.forward, fun _ _ hgoal =>
    (ha.prefers _ _ hgoal).choice (hb.prefers _ _ hgoal) _⟩

theorem Orders.times (ha : a.Orders length T) (hb : b.Orders length U) (n : Nat) :
    (times a n b).Orders length ((T.times n).seq U) := by
  obtain ⟨P, hP⟩ := ha.realizes
  obtain ⟨Q, hQ⟩ := hb.realizes
  have hrealizes (n : Nat) := hP.times hQ n
  refine ⟨⟨_, hrealizes n⟩, (ha.forward.times n).seq hb.forward, fun number goal hgoal => ?_⟩
  induction n with
  | zero =>
    rw [Ways.times, Ways.stay_seq]
    exact hb.prefers number goal hgoal
  | succ n ih =>
    have hlive : Subplaces (Draft.times a n b number goal).1.live _ :=
      (hrealizes n).subplaces hgoal
    rw [Ways.times, Ways.seq_assoc]
    exact (ha.prefers _ _ hlive).cat ha.forward ih

theorem Orders.upTo (h : a.Orders length T) (greedy : Bool) (n : Nat) :
    (upTo length greedy a n).Orders length (T.upTo greedy n) := by
  obtain ⟨P, hP⟩ := h.realizes
  have hrealizes (n : Nat) := hP.upTo greedy n
  refine ⟨⟨_, hrealizes n⟩, h.forward.upTo greedy n, fun number goal hgoal => ?_⟩
  induction n with
  | zero => exact (orders_stay length).prefers number goal hgoal
  | succ n ih =>
    have hlive : Subplaces (Draft.upTo length greedy a n number goal).1.live _ :=
      (hrealizes n).subplaces hgoal
    have hmore := (h.prefers ((Draft.upTo length greedy a n number goal).2 + 1) _ hlive).cat
      h.forward ih
    have hstop := Plan.prefers_stay hgoal
    cases greedy with
    | true => exact hmore.choice hstop _
    | false =>
      have := hstop.choice hmore (Draft.upTo length false a n number goal).2
      rw [Nat.or_comm] at this
      exact this

theorem Orders.loop (h : a.Orders length T) (hc : T.Consuming length) (greedy isOptional : Bool) :
    (loop length greedy isOptional a).Orders length
      (if isOptional then T.upTo greedy length else T.seq (T.upTo greedy length)) := by
  obtain ⟨P, hP⟩ := h.realizes
  have hforward := h.forward.upTo greedy length
  refine ⟨⟨_, hP.loop greedy isOptional⟩, ?_, fun number goal hgoal => ?_⟩
  · cases isOptional with
    | true => exact hforward
    | false => exact h.forward.seq hforward
  -- The drafted body leads to where another iteration or the goal can follow.
  · obtain ⟨reach, hwithin, heq, -, hloop⟩ := hP.exists_body hgoal number greedy isOptional
    have hbody : (a (number + 1) reach).1.Prefers length
        (goal ||| (a (number + 1) reach).1.live) T := by
      rw [heq]
      exact h.prefers (number + 1) reach hwithin
    rw [hloop]
    generalize (a (number + 1) reach).1 = body at hbody
    have hlive := hbody.again_live h.forward hc greedy
    have hagain := hbody.again_descends h.forward hc greedy number
    cases isOptional with
    | true => exact ⟨hlive, fun i hi e he ts ms => .step ⟨rfl, rfl⟩ (hagain i hi e he ts ms)⟩
    | false =>
      have hnext (i : Nat) (hi : i ≤ length) (e : Nat × List Mark) (he : e ∈ T i) :=
        hlive e.1 (h.forward i hi e he).2
      refine ⟨fun i hi => hbody.live_seq hi (hnext i hi), fun i hi e he ts ms => ?_⟩
      refine .step ⟨rfl, rfl⟩ (hbody.descends_seq hi (hnext i hi) he _ ts ms ?_)
      exact fun f hf g hg ms => hagain f.1 (h.forward i hi f hf).2 g hg ts ms

theorem Orders.repetition (h : a.Orders length T) (min : Nat) (max : Option Nat)
    (greedy isNullable : Bool) (hc : max = none → T.Consuming length ∧ isNullable = false) :
    (repetition length min max greedy isNullable a).Orders length
      (T.repeated length min max greedy) := by
  unfold Draft.repetition Ways.repeated
  split
  · have hconsuming := (hc rfl).1
    obtain rfl := (hc rfl).2
    rw [Ways.times, Ways.stay_seq]
    exact h.loop hconsuming greedy true
  · next n =>
    rw [Ways.times_succ', Ways.seq_assoc]
    exact h.times (h.loop (hc rfl).1 greedy false) n
  · next m => exact h.times (h.upTo greedy (m - min)) min

end Draft

/-! ## Expressions -/

theorem Site.consuming_ways (length : Nat) {s : Site} (h : s.isStand = false) :
    s.ways.Consuming length := by
  cases s with
  | stand places => cases h
  | step places =>
    intro i _ e he
    change e ∈ if places.testBit i then [(i + 1, [])] else [] at he
    split at he
    · rw [List.mem_singleton.1 he]
      exact Nat.lt_succ_self i
    · cases he

theorem Regex.orders_draft {α : Type} {length : Nat} {f : α → Site}
    (hf : ∀ a, (f a).ways.Forward length) {r : Regex α}
    (hr : r.isBrisk (fun a => (f a).isStand) = true) :
    ((r.map f).draft length).Orders length (r.ways length fun a => (f a).ways) := by
  induction r with
  | empty => exact Draft.orders_stay length
  | atom a => exact Draft.orders_site (f a) (hf a)
  | capture index name r ih => exact (ih hr).capture index
  | cat r s ihr ihs =>
    rw [isBrisk, Bool.and_eq_true] at hr
    exact (ihr hr.1).seq (ihs hr.2)
  | alt r s ihr ihs =>
    rw [isBrisk, Bool.and_eq_true] at hr
    exact (ihr hr.1).either (ihs hr.2)
  | repetition min max greedy r ih =>
    rw [isBrisk, Bool.and_eq_true] at hr
    refine (ih hr.1).repetition min max greedy _ fun hmax => ?_
    have hnullable : r.isNullable (fun a => (f a).isStand) = false := by
      simpa [hmax] using hr.2
    exact ⟨consuming_ways hf (fun a => Site.consuming_ways length) hnullable,
      (isNullable_map f _ r).trans hnullable⟩

end PathGlob

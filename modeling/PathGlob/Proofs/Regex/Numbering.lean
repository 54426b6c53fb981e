-- SUMMARY: The choices of a drafted plan have numbers of their own, and its parts are counted by the numbers it takes.
import Mathlib.Data.List.Nodup
import PathGlob.Proofs.Regex.Choices

/-!
# Numbers and weights

A draft takes consecutive numbers, so no two choices of a plan share one. Steps at one place lower
the weight of a course, which is bounded by the numbers that the plan took.
-/

namespace PathGlob

namespace Plan

/-- The numbers of the choices of a plan. -/
def numbers : Plan → List Nat
  | .stay _ | .step _ => []
  | .capture _ body => body.numbers
  | .cat a b => a.numbers ++ b.numbers
  | .choice number _ a b => number :: (a.numbers ++ b.numbers)
  | .loop number _ _ _ _ body => number :: body.numbers

/-- A bound on the steps at one place through a plan, loops left at once. -/
def weight : Plan → Nat
  | .stay _ | .step _ => 1
  | .capture _ body => body.weight + 2
  | .cat a b | .choice _ _ a b => a.weight + b.weight + 1
  | .loop _ _ _ _ _ body => body.weight + 2

/-- The choices of a plan in front of some tasks: the number of each with what is left to do
there. -/
def choices (ts : List Task) : Plan → List (Nat × List Task)
  | .stay _ | .step _ => []
  | .capture group body => body.choices (.close group 0 :: ts)
  | .cat a b => a.choices (.run b :: ts) ++ b.choices ts
  | .choice number live a b =>
    (number, .run (.choice number live a b) :: ts) :: (a.choices ts ++ b.choices ts)
  | .loop number _ goal greedy _ body =>
    (number, .again number goal greedy body :: ts) ::
      body.choices (.again number goal greedy body :: ts)

theorem map_fst_choices (p : Plan) (ts : List Task) :
    (p.choices ts).map Prod.fst = p.numbers := by
  induction p generalizing ts with
  | stay _ | step _ => rfl
  | capture group body ih => exact ih _
  | cat a b iha ihb => simp only [choices, numbers, List.map_append, iha, ihb]
  | choice number live a b iha ihb =>
    simp only [choices, numbers, List.map_cons, List.map_append, iha, ihb]
  | loop number live goal greedy isOptional body ih =>
    simp only [choices, numbers, List.map_cons, ih]

/-- Whether a plan took the numbers from `lo` to below `hi`. -/
structure Numbered (lo hi : Nat) (p : Plan) : Prop where
  le : lo ≤ hi
  bounds : ∀ n ∈ p.numbers, lo ≤ n ∧ n < hi
  nodup : p.numbers.Nodup
  weight : p.weight + 2 * lo ≤ 2 * hi

variable {lo mid hi : Nat} {p q : Plan}

theorem Numbered.leaf (h : p.numbers = []) (hw : p.weight = 1) : p.Numbered lo (lo + 1) where
  le := Nat.le_succ lo
  bounds n hn := by rw [h] at hn; cases hn
  nodup := h ▸ .nil
  weight := by omega

theorem Numbered.capture (h : p.Numbered (lo + 1) hi) (group : Nat) :
    (Plan.capture group p).Numbered lo hi where
  le := Nat.le_of_succ_le h.le
  bounds n hn := by
    have := h.bounds n hn
    omega
  nodup := h.nodup
  weight := by
    have := h.weight
    simp only [Plan.weight]
    omega

theorem Numbered.append {mid' : Nat} (hp : p.Numbered lo mid) (hq : q.Numbered mid' hi)
    (hmid : mid ≤ mid') :
    (p.numbers ++ q.numbers).Nodup ∧ ∀ n ∈ p.numbers ++ q.numbers, lo ≤ n ∧ n < hi := by
  have := hp.le
  have := hq.le
  refine ⟨List.nodup_append.2 ⟨hp.nodup, hq.nodup, fun n hn m hm => ?_⟩, fun n hn => ?_⟩
  · have := hp.bounds n hn
    have := hq.bounds m hm
    omega
  · rcases List.mem_append.1 hn with hn | hn
    · have := hp.bounds n hn
      omega
    · have := hq.bounds n hn
      omega

/-- A sequence takes a number in front of its parts or between them, the second part first. -/
theorem Numbered.cat {lo' mid' : Nat} (hq : q.Numbered lo' mid) (hp : p.Numbered mid' hi)
    (hlo : lo ≤ lo') (hmid : mid ≤ mid') (hgap : lo + mid < lo' + mid') :
    (Plan.cat p q).Numbered lo hi where
  -- `q` is numbered below `p`, as drafts are made from the back of an expression.
  le := by
    have := hp.le
    have := hq.le
    omega
  bounds n hn := by
    have := (hq.append hp hmid).2 n (List.mem_append.2 (List.mem_append.1 hn).symm)
    omega
  nodup := List.perm_append_comm.nodup_iff.1 (hq.append hp hmid).1
  weight := by
    have := hp.weight
    have := hq.weight
    simp only [Plan.weight]
    omega

/-- An iteration in front of what follows it, with the number between them left free. -/
theorem Numbered.iteration (hq : q.Numbered lo mid) (hp : p.Numbered (mid + 1) hi) :
    (Plan.cat p q).Numbered lo hi ∧ (lo ≤ mid ∧ mid < hi) ∧ mid ∉ (Plan.cat p q).numbers := by
  have := hp.le
  have := hq.le
  refine ⟨hq.cat hp (Nat.le_refl lo) (Nat.le_succ mid) (Nat.lt_succ_self _), by omega, ?_⟩
  intro hmem
  rcases List.mem_append.1 hmem with hmem | hmem
  · have := hp.bounds mid hmem
    omega
  · have := hq.bounds mid hmem
    omega

theorem Numbered.choice (hp : p.Numbered (lo + 1) mid) (hq : q.Numbered mid hi) (live : Nat) :
    (Plan.choice lo live p q).Numbered lo hi where
  le := by
    have := hp.le
    have := hq.le
    omega
  bounds n hn := by
    have := hp.le
    have := hq.le
    rcases List.mem_cons.1 hn with rfl | hn
    · omega
    · have := (hp.append hq (Nat.le_refl mid)).2 n hn
      omega
  nodup := by
    refine List.nodup_cons.2 ⟨fun hmem => ?_, (hp.append hq (Nat.le_refl mid)).1⟩
    have := (hp.append hq (Nat.le_refl mid)).2 lo hmem
    omega
  weight := by
    have := hp.weight
    have := hq.weight
    simp only [Plan.weight]
    omega

/-- A choice between a plan and going on takes any number that the plan left free. -/
theorem Numbered.choice_stay (h : p.Numbered lo hi) {n : Nat} (hn : lo ≤ n ∧ n < hi)
    (hfree : n ∉ p.numbers) (live places : Nat) :
    (Plan.choice n live p (.stay places)).Numbered lo (hi + 1) ∧
      (Plan.choice n live (.stay places) p).Numbered lo (hi + 1) := by
  have hbounds : ∀ m ∈ n :: p.numbers, lo ≤ m ∧ m < hi + 1 := by
    intro m hm
    rcases List.mem_cons.1 hm with rfl | hm
    · omega
    · have := h.bounds m hm
      omega
  have hnodup := List.nodup_cons.2 ⟨hfree, h.nodup⟩
  have hle := h.le
  have hweight := h.weight
  refine ⟨⟨by omega, ?_, ?_, ?_⟩, ⟨by omega, hbounds, hnodup, ?_⟩⟩
  · simpa [numbers] using hbounds
  · simpa [numbers] using hnodup
  · simp only [Plan.weight]
    omega
  · simp only [Plan.weight]
    omega

theorem Numbered.loop (h : p.Numbered (lo + 1) hi) (live goal : Nat) (greedy isOptional : Bool) :
    (Plan.loop lo live goal greedy isOptional p).Numbered lo hi where
  le := Nat.le_of_succ_le h.le
  bounds n hn := by
    have := h.le
    rcases List.mem_cons.1 hn with rfl | hn
    · omega
    · have := h.bounds n hn
      omega
  nodup := by
    refine List.nodup_cons.2 ⟨fun hmem => ?_, h.nodup⟩
    have := h.bounds lo hmem
    omega
  weight := by
    have := h.weight
    simp only [Plan.weight]
    omega

end Plan

/-! ## Drafts -/

namespace Draft

/-- Whether the plans of a draft take the numbers that the draft says. -/
def Numbers (d : Draft) : Prop :=
  ∀ number goal, (d number goal).1.Numbered number (d number goal).2

variable {a b : Draft}

theorem numbers_stay (places : Nat) : (stay places).Numbers := fun _ _ => .leaf rfl rfl

theorem numbers_step (places : Nat) : (step places).Numbers := fun _ _ => .leaf rfl rfl

theorem Numbers.capture (h : a.Numbers) (group : Nat) : (capture group a).Numbers :=
  fun number goal => (h (number + 1) goal).capture group

theorem Numbers.seq (ha : a.Numbers) (hb : b.Numbers) : (seq a b).Numbers :=
  fun _ _ => .cat (hb _ _) (ha _ _) (Nat.le_succ _) (Nat.le_refl _) (by omega)

theorem Numbers.either (ha : a.Numbers) (hb : b.Numbers) : (either a b).Numbers :=
  fun _ _ => .choice (ha _ _) (hb _ _) _

theorem Numbers.times (ha : a.Numbers) (hb : b.Numbers) (n : Nat) : (times a n b).Numbers := by
  intro number goal
  induction n with
  | zero => exact hb number goal
  | succ n ih => exact (ih.iteration (ha _ _)).1

theorem Numbers.optional (h : a.Numbers) (length : Nat) (greedy : Bool) :
    (optional length greedy a).Numbers := by
  cases greedy with
  | true => exact h.either (numbers_stay _)
  | false => exact (numbers_stay _).either h

theorem Numbers.upTo (h : a.Numbers) (length : Nat) (greedy : Bool) (n : Nat) :
    (upTo length greedy a n).Numbers := by
  -- The choice takes the number that the iteration before it left between its two parts.
  intro number goal
  induction n with
  | zero => exact .leaf rfl rfl
  | succ n ih =>
    obtain ⟨hmore, hbetween, hfree⟩ :=
      ih.iteration (h _ (Draft.upTo length greedy a n number goal).1.live)
    cases greedy with
    | true => exact (hmore.choice_stay hbetween hfree _ _).1
    | false => exact (hmore.choice_stay hbetween hfree _ _).2

theorem Numbers.loop (h : a.Numbers) (length : Nat) (greedy isOptional : Bool) :
    (loop length greedy isOptional a).Numbers := fun number goal =>
  (settle_of_body (P := fun r => r.1.Numbered (number + 1) r.2) (h (number + 1)) goal (length + 1)
    goal).loop _ _ _ _

theorem Numbers.repetition (h : a.Numbers) (length min : Nat) (max : Option Nat)
    (greedy isNullable : Bool) : (repetition length min max greedy isNullable a).Numbers := by
  unfold Draft.repetition
  split
  · cases isNullable with
    | true => exact (h.loop length greedy false).optional length greedy
    | false => exact h.loop length greedy true
  · exact h.times (h.loop length greedy false) _
  · exact h.times (h.upTo length greedy _) _

end Draft

theorem Regex.numbers_draft (length : Nat) (r : Regex Site) : (r.draft length).Numbers := by
  induction r with
  | empty => exact Draft.numbers_stay _
  | atom s =>
    cases s with
    | step places => exact Draft.numbers_step places
    | stand places => exact Draft.numbers_stay places
  | capture index name r ih => exact ih.capture index
  | cat r s ihr ihs => exact ihr.seq ihs
  | alt r s ihr ihs => exact ihr.either ihs
  | repetition min max greedy r ih => exact ih.repetition length min max greedy _

end PathGlob

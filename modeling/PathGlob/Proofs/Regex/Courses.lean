-- SUMMARY: What a course can do next, and what every step of it preserves.
import PathGlob.Proofs.Regex.Drafting

/-!
# Courses

`Course.Goes` says once what a course can do next. From it follow the invariants of a search: where
a course still leads, that what is left of it can be done, which choices lie ahead of it and how
long it can be.
-/

namespace PathGlob

/-! ## Tasks -/

namespace Task

/-- The passages of a task. -/
def passage : Task → Passage
  | .run p => p.passage
  | .close group start => fun i j ms => j = i ∧ ms = [⟨group, start, i⟩]
  | .again _ goal _ body => .into goal (.repeated 0 none body.passage)

theorem isForward_passage (t : Task) : t.passage.IsForward := by
  cases t with
  | run p => exact p.isForward_passage
  | close group start =>
    rintro i j ms ⟨rfl, -⟩
    exact Nat.le_refl _
  | again number goal greedy body =>
    exact fun i j ms h => body.isForward_passage.repeated 0 none i j ms h.1

/-- A task without the place where its group started. -/
def erase : Task → Task
  | .run p => .run p
  | .close group _ => .close group 0
  | .again number goal greedy body => .again number goal greedy body

end Task

/-- The places from which some tasks lead to a goal. -/
def entry (goal : Nat) : List Task → Nat
  | [] => goal
  | .run p :: _ => p.live
  | .close _ _ :: ts => entry goal ts
  | .again _ goal' _ body :: _ => goal' ||| body.live

/-- Whether every task leads to where the next one can go on. -/
def AimedTasks (goal : Nat) : List Task → Prop
  | [] => True
  | .run p :: ts => p.Aimed (entry goal ts) ∧ AimedTasks goal ts
  | .close _ _ :: ts => AimedTasks goal ts
  | .again _ goal' _ body :: ts =>
    goal' = entry goal ts ∧ body.Aimed (goal' ||| body.live) ∧
      (∀ i, body.live.testBit i = true → body.passage.Reaches goal' i) ∧ AimedTasks goal ts

namespace Course

/-- The passages of a course, with the marks that it has left so far. -/
def passage (c : Course) : Passage := fun i j ms =>
  ∃ ahead, Passage.seqOf (c.tasks.map Task.passage) i j ahead ∧ ms = ahead ++ c.marks

/-! ## Steps -/

/-- Whether a course can go on, from one place, at another place as another course. -/
inductive Goes (i : Nat) : Course → Nat → Course → Prop
  | stay {live ts ms} : Goes i ⟨.run (.stay live) :: ts, ms⟩ i ⟨ts, ms⟩
  | step {live ts ms} : Goes i ⟨.run (.step live) :: ts, ms⟩ (i + 1) ⟨ts, ms⟩
  | capture {group body ts ms} :
      Goes i ⟨.run (.capture group body) :: ts, ms⟩ i ⟨.run body :: .close group i :: ts, ms⟩
  | cat {a b ts ms} : Goes i ⟨.run (.cat a b) :: ts, ms⟩ i ⟨.run a :: .run b :: ts, ms⟩
  | left {number live a b ts ms} : a.live.testBit i = true →
      Goes i ⟨.run (.choice number live a b) :: ts, ms⟩ i ⟨.run a :: ts, ms⟩
  | right {number live a b ts ms} : b.live.testBit i = true →
      Goes i ⟨.run (.choice number live a b) :: ts, ms⟩ i ⟨.run b :: ts, ms⟩
  | loop {number live goal greedy body ts ms} :
      Goes i ⟨.run (.loop number live goal greedy true body) :: ts, ms⟩ i
        ⟨.again number goal greedy body :: ts, ms⟩
  | enter {number live goal greedy body ts ms} :
      Goes i ⟨.run (.loop number live goal greedy false body) :: ts, ms⟩ i
        ⟨.run body :: .again number goal greedy body :: ts, ms⟩
  | more {number goal greedy body ts ms} : body.live.testBit i = true →
      Goes i ⟨.again number goal greedy body :: ts, ms⟩ i
        ⟨.run body :: .again number goal greedy body :: ts, ms⟩
  | leave {number goal greedy body ts ms} : goal.testBit i = true →
      Goes i ⟨.again number goal greedy body :: ts, ms⟩ i ⟨ts, ms⟩
  | close {group start ts ms} :
      Goes i ⟨.close group start :: ts, ms⟩ i ⟨ts, ⟨group, start, i⟩ :: ms⟩

/-- The number of the choice that comes next, if one does. -/
def choice? : List Task → Option Nat
  | .run (.choice number _ _ _) :: _ => some number
  | .again number _ _ _ :: _ => some number
  | _ => none

/-- What each answer of `next` says of a course. -/
def Comes (i : Nat) (c : Course) : Move → Prop
  | .stop marks => c = ⟨[], marks⟩
  | .advance c' => choice? c.tasks = none ∧ ∀ j d, Goes i c j d ↔ j = i + 1 ∧ d = c'
  | .proceed c' => choice? c.tasks = none ∧ ∀ j d, Goes i c j d ↔ j = i ∧ d = c'
  | .choose number cs =>
    choice? c.tasks = some number ∧ cs.length ≤ 2 ∧ ∀ j d, Goes i c j d ↔ j = i ∧ d ∈ cs

theorem comes_again (i number goal : Nat) (greedy : Bool) (body : Plan) (ts : List Task)
    (ms : List Mark) :
    let c : Course := ⟨.again number goal greedy body :: ts, ms⟩
    c.Comes i (c.next i) := by
  -- The greed of the loop orders its two ways on; what they are does not depend on it.
  have hiff (j : Nat) (d : Course) (cs : List Course)
      (hcs : d ∈ cs ↔ (body.live.testBit i = true ∧
          d = ⟨.run body :: .again number goal greedy body :: ts, ms⟩) ∨
        goal.testBit i = true ∧ d = ⟨ts, ms⟩) :
      Goes i ⟨.again number goal greedy body :: ts, ms⟩ j d ↔ j = i ∧ d ∈ cs := by
    rw [hcs]
    constructor
    · rintro (_ | _)
      · exact ⟨rfl, .inl ⟨‹_›, rfl⟩⟩
      · exact ⟨rfl, .inr ⟨‹_›, rfl⟩⟩
    · rintro ⟨rfl, ⟨h, rfl⟩ | ⟨h, rfl⟩⟩
      · exact .more h
      · exact .leave h
  refine ⟨rfl, ?_, fun j d => hiff j d _ ?_⟩
  · cases body.live.testBit i <;> cases goal.testBit i <;> cases greedy <;> simp
  · cases body.live.testBit i <;> cases goal.testBit i <;> cases greedy <;> simp [or_comm]

theorem comes_choice (i number live : Nat) (a b : Plan) (ts : List Task) (ms : List Mark) :
    let c : Course := ⟨.run (.choice number live a b) :: ts, ms⟩
    c.Comes i (c.next i) := by
  refine ⟨rfl, ?_, fun j d => ⟨?_, ?_⟩⟩
  · rw [List.length_map]
    exact List.length_filter_le _ [a, b]
  · rintro (_ | _) <;> exact ⟨rfl, List.mem_map_of_mem (by simpa using ‹_›)⟩
  · rintro ⟨rfl, hd⟩
    obtain ⟨p, hp, rfl⟩ := List.mem_map.1 hd
    obtain ⟨hp, hlive⟩ := List.mem_filter.1 hp
    simp only [List.mem_cons, List.not_mem_nil, or_false] at hp
    rcases hp with rfl | rfl
    · exact .left hlive
    · exact .right hlive

theorem comes_next (i : Nat) (c : Course) : c.Comes i (c.next i) := by
  have hadvance {c d : Course} (hc : choice? c.tasks = none) {j : Nat} (h : Goes i c j d)
      (huniq : ∀ k e, Goes i c k e → k = j ∧ e = d) :
      choice? c.tasks = none ∧ ∀ k e, Goes i c k e ↔ k = j ∧ e = d := by
    refine ⟨hc, fun k e => ⟨huniq k e, ?_⟩⟩
    rintro ⟨rfl, rfl⟩
    exact h
  obtain ⟨ts, ms⟩ := c
  cases ts with
  | nil => rfl
  | cons t ts =>
    cases t with
    | close group start => exact hadvance rfl .close (by rintro k e ⟨⟩; exact ⟨rfl, rfl⟩)
    | again number goal greedy body => exact comes_again i number goal greedy body ts ms
    | run p =>
      cases p with
      | stay live => exact hadvance rfl .stay (by rintro k e ⟨⟩; exact ⟨rfl, rfl⟩)
      | step live => exact hadvance rfl .step (by rintro k e ⟨⟩; exact ⟨rfl, rfl⟩)
      | capture group body => exact hadvance rfl .capture (by rintro k e ⟨⟩; exact ⟨rfl, rfl⟩)
      | cat a b => exact hadvance rfl .cat (by rintro k e ⟨⟩; exact ⟨rfl, rfl⟩)
      | choice number live a b => exact comes_choice i number live a b ts ms
      | loop number live goal greedy isOptional body =>
        cases isOptional with
        | true => exact hadvance rfl .loop (by rintro k e ⟨⟩; exact ⟨rfl, rfl⟩)
        | false => exact hadvance rfl .enter (by rintro k e ⟨⟩; exact ⟨rfl, rfl⟩)

/-! ## Where a course leads -/

variable {goal i j : Nat} {c d : Course}

theorem Goes.aimed (h : Goes i c j d) (ha : AimedTasks goal c.tasks) :
    AimedTasks goal d.tasks := by
  cases h with
  | stay | step => exact ha.2
  | capture | close => exact ha
  | cat => exact ⟨ha.1.2, ha.1.1, ha.2⟩
  | left _ => exact ⟨ha.1.2.1, ha.2⟩
  | right _ => exact ⟨ha.1.2.2, ha.2⟩
  | loop =>
    obtain ⟨⟨rfl, rfl, hbody, hreaches⟩, hts⟩ := ha
    exact ⟨rfl, hbody, hreaches, hts⟩
  | enter =>
    obtain ⟨⟨rfl, rfl, hbody, hreaches⟩, hts⟩ := ha
    exact ⟨hbody, rfl, hbody, hreaches, hts⟩
  | more _ => exact ⟨ha.2.1, ha⟩
  | leave _ => exact ha.2.2.2

theorem Goes.entry (h : Goes i c j d) (ha : AimedTasks goal c.tasks)
    (hi : (entry goal c.tasks).testBit i = true) :
    (PathGlob.entry goal d.tasks).testBit j = true := by
  cases h with
  | stay | step => exact ha.1 i hi
  | capture | cat | close => exact hi
  | left h | right h | more h => exact h
  | loop =>
    obtain ⟨⟨rfl, rfl, -, -⟩, -⟩ := ha
    exact hi
  | enter =>
    obtain ⟨⟨rfl, rfl, -, -⟩, -⟩ := ha
    exact hi
  | leave h => exact ha.1 ▸ h

/-- A course leads nowhere that it did not lead to before. -/
theorem Goes.passage (h : Goes i c j d) (hi : (PathGlob.entry goal c.tasks).testBit i = true)
    {k : Nat} {ms : List Mark} (hd : d.passage j k ms) : c.passage i k ms := by
  obtain ⟨ahead, hd, rfl⟩ := hd
  -- Each case puts what the step did in front of what is left to do.
  cases h with
  | stay => exact ⟨ahead, ⟨i, [], ahead, ⟨⟨hi, rfl⟩, rfl⟩, hd, by simp⟩, rfl⟩
  | step => exact ⟨ahead, ⟨i + 1, [], ahead, ⟨⟨hi, rfl⟩, rfl⟩, hd, by simp⟩, rfl⟩
  | capture =>
    obtain ⟨l, first, _, hbody, ⟨_, _, last, ⟨rfl, rfl⟩, hts, rfl⟩, rfl⟩ := hd
    exact ⟨_, ⟨_, _, last, ⟨first, hbody, rfl⟩, hts, rfl⟩, by simp⟩
  | cat =>
    obtain ⟨l, first, _, ha, ⟨m, second, last, hb, hts, rfl⟩, rfl⟩ := hd
    exact ⟨_, ⟨m, _, last, ⟨l, first, second, ha, hb, rfl⟩, hts, rfl⟩, by simp⟩
  | left _ =>
    obtain ⟨l, first, last, ha, hts, rfl⟩ := hd
    exact ⟨_, ⟨l, first, last, .inl ha, hts, rfl⟩, rfl⟩
  | right _ =>
    obtain ⟨l, first, last, hb, hts, rfl⟩ := hd
    exact ⟨_, ⟨l, first, last, .inr hb, hts, rfl⟩, rfl⟩
  | loop => exact ⟨ahead, hd, rfl⟩
  | enter =>
    obtain ⟨l, first, _, hbody, ⟨m, second, last, ⟨⟨n, -, -, hn⟩, hm⟩, hts, rfl⟩, rfl⟩ := hd
    refine ⟨_, ⟨m, second ++ first, last, ⟨⟨n + 1, ?_, nofun, l, first, second, hbody, hn, rfl⟩,
      hm⟩, hts, rfl⟩, by simp⟩
    exact Nat.le_add_left 1 n
  | more _ =>
    obtain ⟨l, first, _, hbody, ⟨m, second, last, ⟨⟨n, -, -, hn⟩, hm⟩, hts, rfl⟩, rfl⟩ := hd
    exact ⟨_, ⟨m, second ++ first, last, ⟨⟨n + 1, Nat.zero_le _, nofun, l, first, second, hbody,
      hn, rfl⟩, hm⟩, hts, rfl⟩, by simp⟩
  | leave hgoal => exact ⟨ahead, ⟨i, [], ahead, ⟨⟨0, Nat.le_refl 0, nofun, rfl, rfl⟩, hgoal⟩, hd,
      by simp⟩, rfl⟩
  | close =>
    exact ⟨ahead ++ [_], ⟨i, _, ahead, ⟨rfl, rfl⟩, hd, rfl⟩, by simp⟩

/-- Something can be done from where a course is entered. -/
theorem exists_passage {ts : List Task} (ha : AimedTasks goal ts)
    (hi : (PathGlob.entry goal ts).testBit i = true) :
    ∃ k ms, Passage.seqOf (ts.map Task.passage) i k ms ∧ goal.testBit k = true := by
  induction ts generalizing i with
  | nil => exact ⟨i, [], ⟨rfl, rfl⟩, hi⟩
  | cons t ts ih =>
    -- It is enough to do the first task so that the second can be entered where it ends.
    have hthen {j : Nat} {first : List Mark} (ha : AimedTasks goal ts)
        (ht : t.passage i j first) (hj : (PathGlob.entry goal ts).testBit j = true) :
        ∃ k ms, Passage.seqOf ((t :: ts).map Task.passage) i k ms ∧ goal.testBit k = true := by
      obtain ⟨k, last, hts, hk⟩ := ih ha hj
      exact ⟨k, _, ⟨j, first, last, ht, hts, rfl⟩, hk⟩
    cases t with
    | run p =>
      obtain ⟨j, first, hp⟩ := (ha.1.live_iff i).1 hi
      exact hthen ha.2 hp (ha.1.goal_of_passage hp)
    | close group start => exact hthen ha ⟨rfl, rfl⟩ hi
    | again number goal' greedy body =>
      obtain ⟨rfl, hbody, hreaches, hts⟩ := ha
      rw [PathGlob.entry, Nat.testBit_or, Bool.or_eq_true] at hi
      -- The loop is left here, or after the rounds that its body needs to reach the goal.
      have hleave : body.passage.Reaches (PathGlob.entry goal ts) i :=
        hi.elim (fun hi => ⟨i, 0, [], ⟨rfl, rfl⟩, hi⟩) (hreaches i)
      obtain ⟨j, n, first, hn, hj⟩ := hleave
      exact hthen hts ⟨⟨n, Nat.zero_le n, nofun, hn⟩, hj⟩ hj

end Course

end PathGlob

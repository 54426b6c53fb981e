-- SUMMARY: How the sequences of a plan nest makes no difference to a search.
import PathGlob.Proofs.Regex.Renaming
import PathGlob.Regex.Normal

/-!
# Nesting

A search takes a sequence apart before it comes to the first of its parts. So courses that are left
with the same parts find the same.
-/

namespace PathGlob

/-! ## Parts -/

/-- The parts that a plan is a sequence of. Staying is no part. -/
def Plan.parts : Plan → List Plan
  | .stay _ => []
  | .cat a b => a.parts ++ b.parts
  | p => [p]

def Task.parts : Task → List Task
  | .run p => p.parts.map .run
  | t => [t]

/-- Whether a task is not taken apart. -/
def Task.isPart : Task → Bool
  | .run (.stay _) | .run (.cat _ _) => false
  | _ => true

theorem Task.parts_of_isPart {t : Task} (h : t.isPart = true) : t.parts = [t] := by
  cases t with
  | run p => cases p <;> first | rfl | cases h
  | _ => rfl

/-- A course with what is left to do taken apart. -/
def Course.apart (c : Course) : Course := ⟨c.tasks.flatMap Task.parts, c.marks⟩

def Move.apart : Move → Move
  | .stop marks => .stop marks
  | .advance c => .advance c.apart
  | .proceed c => .proceed c.apart
  | .choose number cs => .choose number (cs.map Course.apart)

namespace Move

variable {m : Move} {c : Course} {cs : List Course} {ms : List Mark} {number : Nat}

theorem apart_eq_stop : m.apart = .stop ms ↔ m = .stop ms := by
  cases m <;> simp [apart]

theorem apart_eq_advance : m.apart = .advance c ↔ ∃ d, m = .advance d ∧ d.apart = c := by
  cases m <;> simp [apart]

theorem apart_eq_proceed : m.apart = .proceed c ↔ ∃ d, m = .proceed d ∧ d.apart = c := by
  cases m <;> simp [apart]

theorem apart_eq_choose : m.apart = .choose number cs ↔
    ∃ ds, m = .choose number ds ∧ ds.map Course.apart = cs := by
  cases m <;> simp [apart]

end Move

/-! ## Searches -/

namespace Course

variable {i : Nat} {c d : Course} {cs ds : List Course} {ts us : List Task} {t : Task}
  {ms : List Mark} {e : Nat × List Mark}

/-- What comes after a part has been met. -/
theorem apart_next (ht : t.isPart = true) (h : us.flatMap Task.parts = ts.flatMap Task.parts) :
    (next i ⟨t :: us, ms⟩).apart = (next i ⟨t :: ts, ms⟩).apart := by
  cases t with
  | close group start => simp [next, Move.apart, apart, h]
  | again number goal greedy body =>
    cases greedy <;> cases hb : body.live.testBit i <;> cases hg : goal.testBit i <;>
      simp [next, Move.apart, apart, h, hb, hg]
  | run p =>
    cases p with
    | stay live | cat a b => cases ht
    | step live | capture group body => simp [next, Move.apart, apart, h]
    | choice number live a b =>
      simp [next, Move.apart, List.map_map, Function.comp_def, apart, h]
    | loop number live goal greedy isOptional body =>
      cases isOptional <;> simp [next, Move.apart, apart, h]

/-- Taking a task apart is a step that leaves the same parts. -/
theorem exists_next_of_not_isPart (ht : t.isPart = false) (i : Nat) (ts : List Task)
    (ms : List Mark) : ∃ us, next i ⟨t :: ts, ms⟩ = .proceed ⟨us, ms⟩ ∧
      us.flatMap Task.parts = (t :: ts).flatMap Task.parts ∧ weight us < weight (t :: ts) := by
  cases t with
  | close group start | again number goal greedy body => cases ht
  | run p =>
    cases p with
    | stay live =>
      refine ⟨ts, rfl, rfl, ?_⟩
      simp only [weight, Plan.weight]
      omega
    | cat a b =>
      refine ⟨.run a :: .run b :: ts, rfl, by simp [Task.parts, Plan.parts], ?_⟩
      simp only [weight, Plan.weight]
      omega
    | _ => cases ht

/-- A course comes to its first part before anything else. -/
theorem exists_first (i : Nat) (c : Course) : ∃ d, d.apart = c.apart ∧
    (∀ t ∈ d.tasks.head?, t.isPart = true) ∧
    ∀ {seen cs e}, Finds i seen (d :: cs) e → Finds i seen (c :: cs) e := by
  obtain ⟨ts, ms⟩ := c
  induction hn : weight ts using Nat.strongRecOn generalizing ts with
  | ind n ih =>
    cases ts with
    | nil => exact ⟨⟨[], ms⟩, rfl, by simp, id⟩
    | cons t ts =>
      cases ht : t.isPart with
      | true => exact ⟨⟨t :: ts, ms⟩, rfl, by simpa using ht, id⟩
      | false =>
        obtain ⟨us, hnext, hparts, hlt⟩ := exists_next_of_not_isPart ht i ts ms
        obtain ⟨d, hd, hfirst, hfinds⟩ := ih _ (hn ▸ hlt) us rfl
        refine ⟨d, ?_, hfirst, fun h => .proceed hnext (hfinds h)⟩
        rw [hd, apart, apart, hparts]

/-- Of two courses with the same parts, the one is taken apart or the other comes to a course that
does the same next. -/
theorem next_of_apart_eq {m : Move} (h : d.apart = c.apart) (hnext : c.next i = m) :
    (∃ c', m = .proceed c' ∧ c'.apart = c.apart) ∨
      ∃ d', (d'.next i).apart = m.apart ∧
        ∀ {seen cs e}, Finds i seen (d' :: cs) e → Finds i seen (d :: cs) e := by
  subst hnext
  obtain ⟨d', hd', hfirst, hfinds⟩ := exists_first i d
  rw [h] at hd'
  obtain ⟨us, ms'⟩ := d'
  obtain ⟨ts, ms⟩ := c
  obtain ⟨hparts, rfl⟩ : us.flatMap Task.parts = ts.flatMap Task.parts ∧ ms' = ms := by
    simpa [apart] using hd'
  cases ts with
  | nil =>
    cases us with
    | nil => exact .inr ⟨_, rfl, hfinds⟩
    | cons u us =>
      have hu := Task.parts_of_isPart (hfirst u rfl)
      simp [hu] at hparts
  | cons t ts =>
    cases ht : t.isPart with
    | false =>
      obtain ⟨vs, hnext, hvs, -⟩ := exists_next_of_not_isPart ht i ts ms'
      exact .inl ⟨_, hnext, by rw [apart, apart, hvs]⟩
    | true =>
      cases us with
      | nil => simp [Task.parts_of_isPart ht] at hparts
      | cons u us =>
        have hu := Task.parts_of_isPart (hfirst u rfl)
        obtain ⟨rfl, hus⟩ : u = t ∧ us.flatMap Task.parts = ts.flatMap Task.parts := by
          simpa [hu, Task.parts_of_isPart ht] using hparts
        exact .inr ⟨_, apart_next ht hus, hfinds⟩

theorem Finds.of_apart_eq {seen : Nat} (h : Finds i seen cs e)
    (hds : ds.map apart = cs.map apart) : Finds i seen ds e := by
  induction h generalizing ds with
  | stop hnext =>
    obtain ⟨d, ds, rfl, hd, hds⟩ := List.map_eq_cons_iff.1 hds
    obtain ⟨_, hc, -⟩ | ⟨d', hmove, hfinds⟩ := next_of_apart_eq hd hnext
    · cases hc
    · exact hfinds (.stop (Move.apart_eq_stop.1 hmove))
  | advance hnext _ ih =>
    obtain ⟨d, ds, rfl, hd, hds⟩ := List.map_eq_cons_iff.1 hds
    obtain ⟨_, hc, -⟩ | ⟨d', hmove, hfinds⟩ := next_of_apart_eq hd hnext
    · cases hc
    · obtain ⟨y, hmove, hy⟩ := Move.apart_eq_advance.1 hmove
      exact hfinds (.advance hmove (ih (by simp [hy])))
  | proceed hnext _ ih =>
    obtain ⟨d, ds, rfl, hd, hds⟩ := List.map_eq_cons_iff.1 hds
    obtain ⟨c', hc, happart⟩ | ⟨d', hmove, hfinds⟩ := next_of_apart_eq hd hnext
    · cases hc
      exact ih (by simp [hd, hds, happart])
    · obtain ⟨y, hmove, hy⟩ := Move.apart_eq_proceed.1 hmove
      exact hfinds (.proceed hmove (ih (by simp [hy, hds])))
  | drop hnext hmet _ ih =>
    obtain ⟨d, ds, rfl, hd, hds⟩ := List.map_eq_cons_iff.1 hds
    obtain ⟨_, hc, -⟩ | ⟨d', hmove, hfinds⟩ := next_of_apart_eq hd hnext
    · cases hc
    · obtain ⟨ys, hmove, -⟩ := Move.apart_eq_choose.1 hmove
      exact hfinds (.drop hmove hmet (ih hds))
  | choose hnext hmet _ ih =>
    obtain ⟨d, ds, rfl, hd, hds⟩ := List.map_eq_cons_iff.1 hds
    obtain ⟨_, hc, -⟩ | ⟨d', hmove, hfinds⟩ := next_of_apart_eq hd hnext
    · cases hc
    · obtain ⟨ys, hmove, hys⟩ := Move.apart_eq_choose.1 hmove
      exact hfinds (.choose hmove hmet (ih (by simp [hys, hds])))

end Course

/-! ## Drafts -/

namespace Draft

/-- Whether one draft makes for `goal` the plans that another makes for its own goal, up to how
their sequences nest and up to the numbers of choices. -/
def Nests (d : Draft) (goal : Nat) (d' : Draft) (goal' : Nat) : Prop :=
  ∃ k, ∀ number, (d number goal).1.parts = (d' (number + k) goal').1.parts ∧
    (d number goal).1.live = (d' (number + k) goal').1.live ∧
    (d number goal).2 = (d' (number + k) goal').2

variable {d d' : Draft} {goal goal' : Nat}

theorem nests_seq_stay (d : Draft) (places goal : Nat) :
    (seq d (stay places)).Nests goal d (places &&& goal) :=
  ⟨2, fun _ => ⟨List.append_nil _, rfl, rfl⟩⟩

theorem Nests.seq (h : d.Nests goal d' goal') (a : Draft) :
    (Draft.seq a d).Nests goal (Draft.seq a d') goal' := by
  obtain ⟨k, h⟩ := h
  refine ⟨k, fun number => ?_⟩
  obtain ⟨hparts, hlive, hnext⟩ := h (number + 1)
  simp [Draft.seq, Plan.parts, Plan.live, Nat.add_right_comm number k 1, hparts, hlive, hnext]

end Draft

/-! ## Expressions -/

namespace Regex

variable {length goal : Nat}

/-- The sequence of some expressions, with nothing at its end. -/
def chain {α : Type} (rs : List (Regex α)) : Regex α := rs.foldr .cat .empty

theorem map_chain {α β : Type} (f : α → β) (rs : List (Regex α)) :
    (chain rs).map f = chain (rs.map (Regex.map f)) := by
  induction rs with
  | nil => rfl
  | cons r rs ih => exact congrArg _ ih

theorem map_parts {α β : Type} (f : α → β) (r : Regex α) :
    (r.map f).parts = r.parts.map (Regex.map f) := by
  induction r with
  | cat r s _ ih => exact congrArg _ ih
  | _ => rfl

theorem map_ofParts {α β : Type} (f : α → β) (rs : List (Regex α)) :
    (ofParts rs).map f = ofParts (rs.map (Regex.map f)) := by
  induction rs with
  | nil => rfl
  | cons r rs ih =>
    cases rs with
    | nil => rfl
    | cons s rs => exact congrArg _ ih

theorem map_append {α β : Type} (f : α → β) (r s : Regex α) :
    (r.append s).map f = (r.map f).append (s.map f) := by
  induction r with
  | empty => rfl
  | cat r r' _ ih => exact congrArg _ ih
  | _ => cases s <;> rfl

section

variable (hgoal : everywhere length &&& goal = goal)
include hgoal

theorem nests_chain_singleton (r : Regex Site) :
    ((chain [r]).draft length).Nests goal (r.draft length) goal := by
  have hnests := Draft.nests_seq_stay (r.draft length) (everywhere length) goal
  rwa [hgoal] at hnests

/-- An expression is the sequence of its parts. -/
theorem nests_chain_parts (r : Regex Site) :
    ((chain r.parts).draft length).Nests goal (r.draft length) goal := by
  induction r with
  | empty => exact ⟨0, fun _ => ⟨rfl, rfl, rfl⟩⟩
  | cat r s _ ih => exact ih.seq _
  | _ => exact nests_chain_singleton hgoal _

theorem nests_chain_ofParts (rs : List (Regex Site)) :
    ((chain rs).draft length).Nests goal ((ofParts rs).draft length) goal := by
  induction rs with
  | nil => exact ⟨0, fun _ => ⟨rfl, rfl, rfl⟩⟩
  | cons r rs ih =>
    cases rs with
    | nil => exact nests_chain_singleton hgoal r
    | cons s rs => exact ih.seq _

end

/-- An assertion at the end of an expression narrows its goal. -/
theorem nests_append_stand (places : Nat) (r : Regex Site) :
    ((r.append (.atom (.stand places))).draft length).Nests (everywhere length) (r.draft length)
      (places &&& everywhere length) := by
  induction r with
  | empty =>
    refine ⟨0, fun number => ⟨rfl, ?_, rfl⟩⟩
    show places &&& everywhere length = everywhere length &&& (places &&& everywhere length)
    rw [Nat.and_comm places, ← Nat.and_assoc, Nat.and_self]
  | cat r s _ ih => exact ih.seq _
  | _ => exact Draft.nests_seq_stay _ _ _

section

variable {goal' i : Nat} {d : Draft} {r : Regex Site} (h : d.Nests goal (r.draft length) goal')
include h

theorem live_of_nests (number : Nat) :
    (d number goal).1.live = (r.draft length 0 goal').1.live := by
  obtain ⟨k, h⟩ := h
  rw [(h number).2.1, live_draft]

/-- A search that finds something with a draft finds it with one that nests otherwise. -/
theorem finds_of_nests {e : Nat × List Mark}
    (hfinds : Course.Finds i 0 [⟨[.run (r.draft length 0 goal').1], []⟩] e) (number : Nat) :
    Course.Finds i 0 [⟨[.run (d number goal).1], []⟩] e := by
  obtain ⟨k, h⟩ := h
  have hnone : ∀ n, Nat.testBit 0 (n + (number + k)) = false := by simp
  refine (r.finds_draft hnone hfinds []).of_apart_eq ?_
  simp [Course.apart, Task.parts, (h number).1]

end

end Regex

end PathGlob

-- SUMMARY: A search does not depend on the numbers of choices, and renamed groups are renamed in what it finds.
import PathGlob.Proofs.Regex.Following

/-!
# Renaming

A plan is renamed by raising the numbers of its choices and changing its groups. The renamed courses
of a search go the way of the others, as long as the choices met before are the same up to their
numbers. A draft gives the same plan from any number on, up to that number.
-/

namespace PathGlob

def Mark.rename (g : Nat → Nat) (m : Mark) : Mark := { m with group := g m.group }

/-- Raises the numbers of choices by `k` and renames groups. -/
def Plan.rename (k : Nat) (g : Nat → Nat) : Plan → Plan
  | .stay live => .stay live
  | .step live => .step live
  | .capture group body => .capture (g group) (body.rename k g)
  | .cat a b => .cat (a.rename k g) (b.rename k g)
  | .choice number live a b => .choice (number + k) live (a.rename k g) (b.rename k g)
  | .loop number live goal greedy isOptional body =>
    .loop (number + k) live goal greedy isOptional (body.rename k g)

def Task.rename (k : Nat) (g : Nat → Nat) : Task → Task
  | .run p => .run (p.rename k g)
  | .close group start => .close (g group) start
  | .again number goal greedy body => .again (number + k) goal greedy (body.rename k g)

def Course.rename (k : Nat) (g : Nat → Nat) (c : Course) : Course :=
  ⟨c.tasks.map (Task.rename k g), c.marks.map (Mark.rename g)⟩

def Move.rename (k : Nat) (g : Nat → Nat) : Move → Move
  | .stop marks => .stop (marks.map (Mark.rename g))
  | .advance c => .advance (c.rename k g)
  | .proceed c => .proceed (c.rename k g)
  | .choose number cs => .choose (number + k) (cs.map (Course.rename k g))

/-! ## Searches -/

theorem Mark.rename_id (ms : List Mark) : ms.map (Mark.rename id) = ms := List.map_id ms

@[simp] theorem Plan.live_rename (k : Nat) (g : Nat → Nat) (p : Plan) :
    (p.rename k g).live = p.live := by
  induction p with
  | capture group body ih => exact ih
  | cat a b ih _ => exact ih
  | _ => rfl

namespace Course

variable {k i seen seen' : Nat} {cs : List Course} {e : Nat × List Mark}

theorem next_rename (k : Nat) (g : Nat → Nat) (i : Nat) (c : Course) :
    (c.rename k g).next i = (c.next i).rename k g := by
  obtain ⟨ts, ms⟩ := c
  cases ts with
  | nil => rfl
  | cons t ts =>
    cases t with
    | close group start => rfl
    | again number goal greedy body =>
      have hlive : (body.rename k g).live = body.live := body.live_rename k g
      simp only [rename, List.map_cons, Task.rename, next, hlive, Move.rename]
      cases body.live.testBit i <;> cases goal.testBit i <;> cases greedy <;> rfl
    | run p =>
      cases p with
      | choice number live a b =>
        have ha : (a.rename k g).live = a.live := a.live_rename k g
        have hb : (b.rename k g).live = b.live := b.live_rename k g
        simp only [rename, List.map_cons, Task.rename, Plan.rename, next, Move.rename]
        cases hla : a.live.testBit i <;> cases hlb : b.live.testBit i <;>
          simp [List.filter, ha, hb, hla, hlb, rename, Task.rename]
      | loop number live goal greedy isOptional body => cases isOptional <;> rfl
      | _ => rfl

/-- Meeting a choice changes what was met alike. -/
theorem testBit_met_add (h : ∀ n, seen'.testBit (n + k) = seen.testBit n) (number n : Nat) :
    (seen' ||| 1 <<< (number + k)).testBit (n + k) = (seen ||| 1 <<< number).testBit n := by
  rw [testBit_met, testBit_met, h]
  simp only [Nat.add_right_cancel_iff]

/-- Renamed courses find what the others find, renamed. -/
theorem Finds.rename (h : Finds i seen cs e) (g : Nat → Nat)
    (hseen : ∀ n, seen'.testBit (n + k) = seen.testBit n) :
    Finds i seen' (cs.map (Course.rename k g)) (e.1, e.2.map (Mark.rename g)) := by
  have hnext {i : Nat} {c : Course} {m : Move} (h : c.next i = m) :
      (c.rename k g).next i = m.rename k g := by rw [next_rename, h]
  induction h generalizing seen' with
  | stop h => exact .stop (hnext h)
  | advance h _ ih => exact .advance (hnext h) (ih fun n => by simp)
  | proceed h _ ih => exact .proceed (hnext h) (ih hseen)
  | @drop i seen number c cs ds e h hmet _ ih =>
    exact .drop (hnext h) ((hseen number).trans hmet) (ih hseen)
  | @choose i seen number c cs ds e h hmet _ ih =>
    refine .choose (hnext h) ((hseen number).trans hmet) ?_
    rw [← List.map_append]
    exact ih (testBit_met_add hseen number)

end Course

/-! ## Drafts -/

namespace Draft

/-- A drafted plan and the next free number, renamed. -/
def renamed (k : Nat) (g : Nat → Nat) (x : Plan × Nat) : Plan × Nat := (x.1.rename k g, x.2 + k)

/-- Whether a draft makes the plans of another with their groups renamed, from any number on. -/
def Renames (g : Nat → Nat) (d d' : Draft) : Prop :=
  ∀ number k goal, d' (number + k) goal = renamed k g (d number goal)

variable {g : Nat → Nat} {a a' b b' : Draft}

theorem renames_stay (g : Nat → Nat) (places : Nat) : Renames g (stay places) (stay places) := by
  intro number k goal
  simp [stay, renamed, Plan.rename, Nat.add_right_comm]

theorem renames_step (g : Nat → Nat) (places : Nat) : Renames g (step places) (step places) := by
  intro number k goal
  simp [step, renamed, Plan.rename, Nat.add_right_comm]

theorem Renames.capture (h : a.Renames g a') (group : Nat) :
    Renames g (capture group a) (capture (g group) a') := by
  intro number k goal
  simp [Draft.capture, Nat.add_right_comm number k 1, h (number + 1) k goal, renamed, Plan.rename]

theorem Renames.seq (ha : a.Renames g a') (hb : b.Renames g b') :
    Renames g (seq a b) (seq a' b') := by
  intro number k goal
  simp [Draft.seq, Nat.add_right_comm number k 1, hb (number + 1) k goal, ha _ k, renamed,
    Plan.rename]

theorem Renames.either (ha : a.Renames g a') (hb : b.Renames g b') :
    Renames g (either a b) (either a' b') := by
  intro number k goal
  simp [Draft.either, Nat.add_right_comm number k 1, ha (number + 1) k goal, hb _ k, renamed,
    Plan.rename]

theorem repeat_renamed {k : Nat} {f f' : Plan × Nat → Plan × Nat}
    (h : ∀ x, f' (renamed k g x) = renamed k g (f x)) (n : Nat) (x : Plan × Nat) :
    n.repeat f' (renamed k g x) = renamed k g (n.repeat f x) := by
  induction n with
  | zero => rfl
  | succ n ih =>
    simp only [Nat.repeat]
    rw [ih, h]

theorem Renames.times (ha : a.Renames g a') (hb : b.Renames g b') (n : Nat) :
    Renames g (times a n b) (times a' n b') := by
  intro number k goal
  rw [Draft.times, hb number k goal]
  refine repeat_renamed ?_ n _
  rintro ⟨q, next⟩
  simp [renamed, Nat.add_right_comm next k 1, ha (next + 1) k, Plan.rename]

theorem Renames.optional (h : a.Renames g a') (length : Nat) (greedy : Bool) :
    Renames g (optional length greedy a) (optional length greedy a') := by
  have hstay := renames_stay g (everywhere length)
  cases greedy with
  | true => exact h.either hstay
  | false => exact hstay.either h

theorem Renames.upTo (h : a.Renames g a') (length : Nat) (greedy : Bool) (n : Nat) :
    Renames g (upTo length greedy a n) (upTo length greedy a' n) := by
  intro number k goal
  rw [Draft.upTo, renames_stay g (everywhere length) number k goal]
  refine repeat_renamed ?_ n _
  rintro ⟨q, next⟩
  cases greedy <;>
    simp [renamed, Nat.add_right_comm _ k 1, h (next + 1) k, Plan.rename, Plan.live]

theorem settle_renamed {k : Nat} {body body' : Nat → Plan × Nat}
    (h : ∀ reach, body' reach = renamed k g (body reach)) (goal rounds reach : Nat) :
    settle body' goal rounds reach = renamed k g (settle body goal rounds reach) := by
  induction rounds generalizing reach with
  | zero => exact h reach
  | succ rounds ih =>
    simp only [settle, h reach, renamed, Plan.live_rename]
    split
    · rfl
    · exact ih _

theorem Renames.loop (h : a.Renames g a') (length : Nat) (greedy isOptional : Bool) :
    Renames g (loop length greedy isOptional a) (loop length greedy isOptional a') := by
  intro number k goal
  have hbody (reach : Nat) : a' (number + k + 1) reach = renamed k g (a (number + 1) reach) := by
    rw [Nat.add_right_comm number k 1, h]
  have hsettle := settle_renamed hbody goal (length + 1) goal
  simp [Draft.loop, hsettle, renamed, Plan.rename]

theorem Renames.repetition (h : a.Renames g a') (length min : Nat) (max : Option Nat)
    (greedy isNullable : Bool) :
    Renames g (repetition length min max greedy isNullable a)
      (repetition length min max greedy isNullable a') := by
  match min, max with
  | 0, some m | n + 1, some m => exact h.times (h.upTo length greedy _) _
  | n + 1, none => exact h.times (h.loop length greedy false) n
  | 0, none =>
    cases isNullable with
    | true => exact (h.loop length greedy false).optional length greedy
    | false => exact h.loop length greedy true

end Draft

namespace Regex

/-- Renames the groups of an expression, which lose their names. -/
def regroup {α : Type} (g : Nat → Nat) : Regex α → Regex α
  | .empty => .empty
  | .atom a => .atom a
  | .capture index _ r => .capture (g index) none (r.regroup g)
  | .cat r s => .cat (r.regroup g) (s.regroup g)
  | .alt r s => .alt (r.regroup g) (s.regroup g)
  | .repetition min max greedy r => .repetition min max greedy (r.regroup g)

theorem isNullable_regroup {α : Type} (g : Nat → Nat) (isStill : α → Bool) (r : Regex α) :
    (r.regroup g).isNullable isStill = r.isNullable isStill := by
  induction r with
  | empty | atom _ => rfl
  | capture _ _ _ ih => exact ih
  | cat _ _ ihr ihs | alt _ _ ihr ihs => simp only [regroup, isNullable, ihr, ihs]
  | repetition _ _ _ _ ih => simp only [regroup, isNullable, ih]

theorem map_regroup {α β : Type} (g : Nat → Nat) (f : α → β) (r : Regex α) :
    (r.regroup g).map f = (r.map f).regroup g := by
  induction r with
  | empty | atom _ => rfl
  | capture _ _ _ ih | repetition _ _ _ _ ih => simp only [regroup, map, ih]
  | cat _ _ ihr ihs | alt _ _ ihr ihs => simp only [regroup, map, ihr, ihs]

theorem renames_draft (g : Nat → Nat) (length : Nat) (r : Regex Site) :
    (r.draft length).Renames g ((r.regroup g).draft length) := by
  induction r with
  | empty => exact Draft.renames_stay g _
  | atom s =>
    cases s with
    | step places => exact Draft.renames_step g places
    | stand places => exact Draft.renames_stay g places
  | capture index name r ih => exact ih.capture index
  | cat r s ihr ihs => exact ihr.seq ihs
  | alt r s ihr ihs => exact ihr.either ihs
  | repetition min max greedy r ih =>
    simp only [draft, regroup, isNullable_regroup]
    exact ih.repetition length min max greedy _

theorem draft_regroup_id (length : Nat) (r : Regex Site) :
    (r.regroup id).draft length = r.draft length := by
  induction r with
  | empty | atom _ => rfl
  | capture index name r ih => simp only [regroup, draft, ih, id]
  | cat r s ihr ihs | alt r s ihr ihs => simp only [regroup, draft, ihr, ihs]
  | repetition min max greedy r ih => simp only [regroup, draft, ih, isNullable_regroup]

section

variable {length goal number i seen : Nat} {e : Nat × List Mark}

theorem draft_eq_rename (r : Regex Site) (length number goal : Nat) :
    (r.draft length number goal).1 = (r.draft length 0 goal).1.rename number id := by
  have hrename := renames_draft id length r 0 number goal
  rw [draft_regroup_id, Nat.zero_add] at hrename
  exact congrArg Prod.fst hrename

theorem live_draft (r : Regex Site) (length number goal : Nat) :
    (r.draft length number goal).1.live = (r.draft length 0 goal).1.live := by
  rw [draft_eq_rename, Plan.live_rename]

/-- A search finds the same with greater numbers, as long as it has met none of them. -/
theorem finds_draft (r : Regex Site) (hseen : ∀ n, seen.testBit (n + number) = false)
    (h : Course.Finds i 0 [⟨[.run (r.draft length 0 goal).1], []⟩] e) (cs : List Course) :
    Course.Finds i seen (⟨[.run (r.draft length number goal).1], []⟩ :: cs) e := by
  have hnone : ∀ n, seen.testBit (n + number) = Nat.testBit 0 n := by simpa using hseen
  have hfinds := (h.rename id hnone).append cs
  rw [Mark.rename_id] at hfinds
  rw [draft_eq_rename]
  exact hfinds

end

end Regex

end PathGlob

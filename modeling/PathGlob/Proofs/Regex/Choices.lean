-- SUMMARY: Choices met by a course: each number belongs to one choice, and from every choice there is a way out of its place.
import PathGlob.Proofs.Regex.Courses

/-!
# Choices at one place

A search drops a course that comes to a choice met before at the same place. What is left to do
there is the same as then, up to the places where groups started, so nothing is lost as long as
another course is nearer to leaving the place. `Escapes` counts the steps that takes.
-/

namespace PathGlob

namespace Course

variable {i j k n m : Nat} {c c' d : Course} {ts us : List Task} {ms : List Mark}

/-! ## Courses alike -/

/-- Tasks without the places where groups started. -/
def skeleton (ts : List Task) : List Task := ts.map Task.erase

theorem skeleton_skeleton (ts : List Task) : skeleton (skeleton ts) = skeleton ts := by
  rw [skeleton, skeleton, List.map_map]
  refine List.map_congr_left fun t _ => ?_
  cases t <;> rfl

theorem skeleton_eq_run {p : Plan} (h : skeleton us = .run p :: skeleton ts) :
    ∃ vs, us = .run p :: vs ∧ skeleton vs = skeleton ts := by
  obtain ⟨u, vs, rfl, hu, hvs⟩ := List.map_eq_cons_iff.1 h
  cases u with
  | run q => cases hu; exact ⟨vs, rfl, hvs⟩
  | _ => cases hu

theorem skeleton_eq_again {number goal : Nat} {greedy : Bool} {body : Plan}
    (h : skeleton us = .again number goal greedy body :: skeleton ts) :
    ∃ vs, us = .again number goal greedy body :: vs ∧ skeleton vs = skeleton ts := by
  obtain ⟨u, vs, rfl, hu, hvs⟩ := List.map_eq_cons_iff.1 h
  cases u with
  | again => cases hu; exact ⟨vs, rfl, hvs⟩
  | _ => cases hu

theorem skeleton_eq_close {group : Nat} (h : skeleton us = .close group 0 :: skeleton ts) :
    ∃ start vs, us = .close group start :: vs ∧ skeleton vs = skeleton ts := by
  obtain ⟨u, vs, rfl, hu, hvs⟩ := List.map_eq_cons_iff.1 h
  cases u with
  | close group start => cases hu; exact ⟨start, vs, rfl, hvs⟩
  | _ => cases hu

/-- Courses with the same skeleton go on alike. -/
theorem Goes.alike (h : Goes i c j d) (hs : skeleton c'.tasks = skeleton c.tasks) :
    ∃ d', Goes i c' j d' ∧ skeleton d'.tasks = skeleton d.tasks := by
  obtain ⟨us, ms'⟩ := c'
  change skeleton us = _ at hs
  -- No step reads where a group started, so each finds the same task in front.
  cases h with
  | stay =>
    obtain ⟨vs, rfl, hvs⟩ := skeleton_eq_run hs
    exact ⟨_, .stay, hvs⟩
  | step =>
    obtain ⟨vs, rfl, hvs⟩ := skeleton_eq_run hs
    exact ⟨_, .step, hvs⟩
  | capture =>
    obtain ⟨vs, rfl, hvs⟩ := skeleton_eq_run hs
    exact ⟨_, .capture, congrArg (_ :: _ :: ·) hvs⟩
  | cat =>
    obtain ⟨vs, rfl, hvs⟩ := skeleton_eq_run hs
    exact ⟨_, .cat, congrArg (_ :: _ :: ·) hvs⟩
  | left hl =>
    obtain ⟨vs, rfl, hvs⟩ := skeleton_eq_run hs
    exact ⟨_, .left hl, congrArg (_ :: ·) hvs⟩
  | right hr =>
    obtain ⟨vs, rfl, hvs⟩ := skeleton_eq_run hs
    exact ⟨_, .right hr, congrArg (_ :: ·) hvs⟩
  | loop =>
    obtain ⟨vs, rfl, hvs⟩ := skeleton_eq_run hs
    exact ⟨_, .loop, congrArg (_ :: ·) hvs⟩
  | enter =>
    obtain ⟨vs, rfl, hvs⟩ := skeleton_eq_run hs
    exact ⟨_, .enter, congrArg (_ :: _ :: ·) hvs⟩
  | more hl =>
    obtain ⟨vs, rfl, hvs⟩ := skeleton_eq_again hs
    exact ⟨_, .more hl, congrArg (_ :: _ :: ·) hvs⟩
  | leave hg =>
    obtain ⟨vs, rfl, hvs⟩ := skeleton_eq_again hs
    exact ⟨_, .leave hg, hvs⟩
  | close =>
    obtain ⟨start, vs, rfl, hvs⟩ := skeleton_eq_close hs
    exact ⟨_, .close, hvs⟩

/-! ## Ways out of a place -/

/-- Whether a course can come to a step or to its end in at most `n` steps at one place. -/
inductive Escapes (i : Nat) : Nat → Course → Prop
  | stop {n : Nat} {ms : List Mark} : Escapes i n ⟨[], ms⟩
  | advance {n : Nat} {c d : Course} : Goes i c (i + 1) d → Escapes i n c
  | go {n : Nat} {c d : Course} : Goes i c i d → Escapes i n d → Escapes i (n + 1) c

theorem Escapes.mono (h : Escapes i n c) (hnm : n ≤ m) : Escapes i m c := by
  -- Only steps at one place are counted, and they need a bound above zero.
  induction h generalizing m with
  | stop => exact .stop
  | advance hgo => exact .advance hgo
  | go hgo _ ih =>
    obtain ⟨m, rfl⟩ := Nat.exists_eq_succ_of_ne_zero (show m ≠ 0 by omega)
    exact .go hgo (ih (by omega))

theorem Escapes.alike (h : Escapes i n c) (hs : skeleton c'.tasks = skeleton c.tasks) :
    Escapes i n c' := by
  induction h generalizing c' with
  | stop =>
    obtain ⟨ts, ms⟩ := c'
    obtain rfl := List.map_eq_nil_iff.1 hs
    exact .stop
  | advance hgo =>
    obtain ⟨d', hgo', -⟩ := hgo.alike hs
    exact .advance hgo'
  | go hgo _ ih =>
    obtain ⟨d', hgo', hd⟩ := hgo.alike hs
    exact .go hgo' (ih hd)

/-- Whether tasks lead out of a place, whatever marks were left before. -/
def Escapable (i : Nat) (ts : List Task) : Prop := ∀ ms, ∃ n, Escapes i n ⟨ts, ms⟩

theorem Escapable.of_goes
    (h : ∀ ms, ∃ us ms', Goes i ⟨ts, ms⟩ i ⟨us, ms'⟩ ∧ Escapable i us) : Escapable i ts := by
  intro ms
  obtain ⟨us, ms', hgo, hus⟩ := h ms
  obtain ⟨n, hn⟩ := hus ms'
  exact ⟨n + 1, .go hgo hn⟩

/-- Iterations that end where the loop may be left lead out of a place, if the body does. -/
theorem escapable_again {number goal g : Nat} {greedy : Bool} {body : Plan}
    (hbody : ∀ {k ms us}, body.passage i k ms → (k = i → Escapable i us) →
      Escapable i (.run body :: us))
    (ha : body.Aimed g) (hn : body.passage.times n i k ms) (hk : goal.testBit k = true)
    (hts : k = i → Escapable i ts) : Escapable i (.again number goal greedy body :: ts) := by
  -- Rounds that stay at the place come back to the loop, one fewer to go each time.
  induction n generalizing ms with
  | zero =>
    obtain ⟨rfl, rfl⟩ := hn
    exact .of_goes fun _ => ⟨_, _, .leave hk, hts rfl⟩
  | succ n ih =>
    obtain ⟨j, first, last, hfirst, hlast, rfl⟩ := hn
    refine .of_goes fun _ => ⟨_, _, .more (Plan.live_of_passage ha hfirst), hbody hfirst ?_⟩
    rintro rfl
    exact ih hlast

/-- A passage of a plan leads out of a place, at the latest by what is done after it. -/
theorem escapable_run {p : Plan} {goal : Nat} (ha : p.Aimed goal) (hp : p.passage i k ms)
    (hts : k = i → Escapable i ts) : Escapable i (.run p :: ts) := by
  -- A passage that moves on leaves the place by itself; one that stays leaves it to the tasks.
  induction p generalizing goal k ms ts with
  | stay live =>
    obtain ⟨⟨-, rfl⟩, -⟩ := hp
    exact .of_goes fun _ => ⟨_, _, .stay, hts rfl⟩
  | step live => exact fun _ => ⟨0, .advance .step⟩
  | capture group body ih =>
    obtain ⟨inner, hbody, -⟩ := hp
    refine .of_goes fun _ => ⟨_, _, .capture, ih ha hbody fun h => ?_⟩
    exact .of_goes fun _ => ⟨_, _, .close, hts h⟩
  | cat a b iha ihb =>
    obtain ⟨j, first, second, hfirst, hsecond, -⟩ := hp
    refine .of_goes fun _ => ⟨_, _, .cat, iha ha.2 hfirst ?_⟩
    rintro rfl
    exact ihb ha.1 hsecond hts
  | choice number live a b iha ihb =>
    rcases hp with hp | hp
    · exact .of_goes fun _ =>
        ⟨_, _, .left (Plan.live_of_passage ha.2.1 hp), iha ha.2.1 hp hts⟩
    · exact .of_goes fun _ =>
        ⟨_, _, .right (Plan.live_of_passage ha.2.2 hp), ihb ha.2.2 hp hts⟩
  | loop number live goal' greedy isOptional body ih =>
    obtain ⟨-, -, hbody, -⟩ := ha
    obtain ⟨⟨n, hmin, -, hn⟩, hk⟩ := hp
    cases isOptional with
    | true =>
      exact .of_goes fun _ => ⟨_, _, .loop, escapable_again (ih hbody) hbody hn hk hts⟩
    | false =>
      cases n with
      | zero => simp at hmin
      | succ n =>
        obtain ⟨j, first, last, hfirst, hlast, -⟩ := hn
        refine .of_goes fun _ => ⟨_, _, .enter, ih hbody hfirst ?_⟩
        rintro rfl
        exact escapable_again (ih hbody) hbody hlast hk hts

theorem escapable_of_passage {goal : Nat} (ha : AimedTasks goal ts)
    (h : Passage.seqOf (ts.map Task.passage) i k ms) : Escapable i ts := by
  induction ts generalizing k ms with
  | nil => exact fun _ => ⟨0, .stop⟩
  | cons t ts ih =>
    -- Only if the first task stays at the place do the others have to lead out of it.
    obtain ⟨j, first, last, hfirst, hlast, -⟩ := h
    cases t with
    | run p =>
      refine escapable_run ha.1 hfirst ?_
      rintro rfl
      exact ih ha.2 hlast
    | close group start =>
      obtain ⟨rfl, -⟩ := hfirst
      exact .of_goes fun _ => ⟨_, _, .close, ih ha hlast⟩
    | again number goal' greedy body =>
      obtain ⟨⟨n, -, -, hn⟩, hj⟩ := hfirst
      refine escapable_again (escapable_run ha.2.1) ha.2.1 hn hj ?_
      rintro rfl
      exact ih ha.2.2.2 hlast

end Course

end PathGlob

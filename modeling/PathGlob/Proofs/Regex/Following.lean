-- SUMMARY: Following a plan ends in a passage of it, within the fuel it is given.
import Mathlib.Data.Nat.Find
import Mathlib.Tactic.Ring
import PathGlob.Proofs.Regex.Numbering

/-!
# Following a plan

Every course of a search is `Ready`: it leads to the goal, and to nothing that the plan does not
lead to. A search cannot run out of courses, because among them there is always one that gets out
of its place in fewer steps than any choice met there (`Search.escapes`). It cannot run out of fuel,
because each step lowers the potential of the courses.
-/

namespace PathGlob

namespace Course

variable {i j : Nat} {c d : Course} {ts : List Task}

/-! ## Choices ahead -/

/-- The choices ahead in some tasks. -/
def choicesOf : List Task → List (Nat × List Task)
  | [] => []
  | .run p :: ts => p.choices (skeleton ts) ++ choicesOf ts
  | .close _ _ :: ts => choicesOf ts
  | .again number goal greedy body :: ts =>
    (number, .again number goal greedy body :: skeleton ts) ::
      (body.choices (.again number goal greedy body :: skeleton ts) ++ choicesOf ts)

theorem Goes.choicesOf_subset (h : Goes i c j d) :
    choicesOf d.tasks ⊆ choicesOf c.tasks := by
  cases h <;> intro e he <;>
    simp only [choicesOf, Plan.choices, skeleton, List.map_cons, Task.erase, List.mem_append,
      List.mem_cons] at he ⊢ <;>
    grind

theorem mem_choicesOf {number : Nat} (h : choice? ts = some number) :
    (number, skeleton ts) ∈ choicesOf ts := by
  unfold choice? at h
  split at h
  · cases h
    simp [choicesOf, Plan.choices, skeleton, Task.erase]
  · cases h
    simp [choicesOf, skeleton, Task.erase]
  · cases h

/-! ## Lengths -/

/-- A bound on the steps at one place through some tasks, loops left at once. -/
def weight : List Task → Nat
  | [] => 0
  | .run p :: ts => p.weight + weight ts
  | .close _ _ :: ts | .again _ _ _ _ :: ts => 1 + weight ts

/-- Whether tasks stay within a weight, even if their loops are taken once more. -/
def Fits (bound : Nat) : List Task → Prop
  | [] => True
  | .run p :: ts => p.weight + weight ts ≤ bound ∧ Fits bound ts
  | .close _ _ :: ts => 1 + weight ts ≤ bound ∧ Fits bound ts
  | .again _ _ _ body :: ts => body.weight + 1 + weight ts ≤ bound ∧ Fits bound ts

theorem Fits.weight_le {bound : Nat} (h : Fits bound ts) : weight ts ≤ bound := by
  cases ts with
  | nil => exact Nat.zero_le bound
  | cons t ts =>
    cases t with
    | run p => exact h.1
    | close group start => exact h.1
    | again number goal greedy body =>
      have := h.1
      simp only [weight]
      omega

theorem Goes.fits {bound : Nat} (h : Goes i c j d) (hc : Fits bound c.tasks) :
    Fits bound d.tasks := by
  cases h <;> simp only [Fits, weight, Plan.weight] at hc ⊢ <;> grind

/-- A step that is no choice lowers the weight. -/
theorem Goes.weight_lt (h : Goes i c j d) (hc : choice? c.tasks = none) :
    weight d.tasks < weight c.tasks := by
  cases h with
  | left _ | right _ | more _ | leave _ => cases hc
  | stay | step | capture | cat | loop | enter | close =>
    simp only [weight, Plan.weight]
    omega

/-! ## Ready courses -/

/-- Whether a course, at a place, is on its way through a plan that was begun at `start`. -/
structure Ready (length : Nat) (p : Plan) (start i : Nat) (c : Course) : Prop where
  aimed : ∃ goal, Subplaces goal (everywhere length) ∧ AimedTasks goal c.tasks ∧
    (entry goal c.tasks).testBit i = true
  leads : ∀ k ms, c.passage i k ms → p.passage start k ms
  choices : choicesOf c.tasks ⊆ p.choices []
  fits : Fits p.weight c.tasks

variable {length start size goal : Nat} {p : Plan}

theorem ready_of_live (hgoal : Subplaces goal (everywhere length)) (hp : p.Aimed goal)
    (hlive : p.live.testBit start = true) : Ready length p start start ⟨[.run p], []⟩ where
  aimed := ⟨goal, hgoal, ⟨hp, trivial⟩, hlive⟩
  leads k ms := by
    rintro ⟨ahead, h, rfl⟩
    rw [List.append_nil]
    have hone : Passage.seqOf [p.passage] = p.passage := Passage.seq_stay
    exact hone ▸ h
  choices e he := by simpa [choicesOf, skeleton] using he
  fits := ⟨Nat.le_refl _, trivial⟩

theorem Ready.goes (h : Ready length p start i c) (hgo : Goes i c j d) :
    Ready length p start j d where
  aimed := by
    obtain ⟨goal, hgoal, haimed, hentry⟩ := h.aimed
    exact ⟨goal, hgoal, hgo.aimed haimed, hgo.entry haimed hentry⟩
  leads k ms hd := by
    obtain ⟨goal, -, -, hentry⟩ := h.aimed
    exact h.leads k ms (hgo.passage hentry hd)
  choices _ he := h.choices (hgo.choicesOf_subset he)
  fits := hgo.fits h.fits

theorem Ready.escapes (h : Ready length p start i c) : ∃ n, Escapes i n c := by
  obtain ⟨goal, -, haimed, hentry⟩ := h.aimed
  obtain ⟨k, ms, hk, -⟩ := exists_passage haimed hentry
  exact escapable_of_passage haimed hk c.marks

theorem Ready.place_le (h : Ready length p start i c) : i ≤ length := by
  obtain ⟨goal, hwithin, haimed, hentry⟩ := h.aimed
  obtain ⟨k, ms, hk, hgoal⟩ := exists_passage haimed hentry
  have hforward : (Passage.seqOf (c.tasks.map Task.passage)).IsForward := by
    refine Passage.IsForward.seqOf fun T hT => ?_
    obtain ⟨t, -, rfl⟩ := List.mem_map.1 hT
    exact t.isForward_passage
  have := (testBit_everywhere length k).1 (hwithin k hgoal)
  exact Nat.le_trans (hforward i k ms hk) this

theorem Ready.ahead_succ (h : Ready length p start (i + 1) c) :
    length - i = length - (i + 1) + 1 := by
  have := h.place_le
  omega

/-! ## Searches -/

/-- Whether some courses at a place, with the choices met there before, are a search through a
plan. -/
structure Search (length : Nat) (p : Plan) (start i seen : Nat) (cs : List Course) : Prop where
  ready : ∀ c ∈ cs, Ready length p start i c
  escapes : ∃ c ∈ cs, ∃ n, Escapes i n c ∧
    ∀ e ∈ p.choices [], seen.testBit e.1 = true → ¬ Escapes i n ⟨e.2, []⟩

variable {seen : Nat} {cs : List Course}

theorem Ready.search (h : Ready length p start i c) : Search length p start i 0 [c] := by
  refine ⟨fun d hd => List.mem_singleton.1 hd ▸ h, c, by simp, ?_⟩
  obtain ⟨n, hn⟩ := h.escapes
  exact ⟨n, hn, fun e _ he => by simp at he⟩

theorem Search.advance (h : Search length p start i seen (c :: cs))
    (hc : c.Comes i (.advance d)) : Search length p start (i + 1) 0 [d] :=
  ((h.ready c (by simp)).goes ((hc.2 _ _).2 ⟨rfl, rfl⟩)).search

theorem Search.proceed (h : Search length p start i seen (c :: cs))
    (hc : c.Comes i (.proceed d)) : Search length p start i seen (d :: cs) := by
  have hgo : Goes i c i d := (hc.2 _ _).2 ⟨rfl, rfl⟩
  refine ⟨fun e he => ?_, ?_⟩
  · rcases List.mem_cons.1 he with rfl | he
    · exact (h.ready c (by simp)).goes hgo
    · exact h.ready e (by simp [he])
  · obtain ⟨w, hw, n, hn, hseen⟩ := h.escapes
    -- If the first course was the shortest way out, what it went on as is one step shorter.
    rcases List.mem_cons.1 hw with rfl | hw
    · cases hn with
      | stop => cases hgo
      | advance hadvance =>
        have := ((hc.2 _ _).1 hadvance).1
        omega
      | @go n _ e hgo' he =>
        obtain ⟨-, rfl⟩ := (hc.2 _ _).1 hgo'
        exact ⟨e, by simp, n, he, fun e he hbit h =>
          hseen e he hbit (h.mono (Nat.le_succ n))⟩
    · exact ⟨w, by simp [hw], n, hn, hseen⟩

theorem Search.drop (h : Search length p start i seen (c :: cs))
    {number : Nat} {ds : List Course}
    (hc : c.Comes i (.choose number ds)) (hseen : seen.testBit number = true) :
    Search length p start i seen cs := by
  refine ⟨fun e he => h.ready e (by simp [he]), ?_⟩
  obtain ⟨w, hw, n, hn, hbefore⟩ := h.escapes
  -- The dropped course is like one met before, so it is not the shortest way out.
  rcases List.mem_cons.1 hw with rfl | hw
  · have hmem := (h.ready w (by simp)).choices (mem_choicesOf hc.1)
    exact absurd (hn.alike (skeleton_skeleton _)) (hbefore _ hmem hseen)
  · exact ⟨w, hw, n, hn, hbefore⟩

/-- The number of a choice that is met is added to those met before. -/
theorem testBit_met (seen number n : Nat) :
    (seen ||| 1 <<< number).testBit n = (seen.testBit n || decide (number = n)) := by
  rw [Nat.testBit_or, Nat.one_shiftLeft, Nat.testBit_two_pow]

section

variable (hp : p.Numbered 0 size) {number : Nat} {ds : List Course}
include hp

/-- A choice has one continuation, up to the places where groups started. -/
theorem Ready.eq_skeleton (h : Ready length p start i c) (hc : choice? c.tasks = some number)
    {e : Nat × List Task} (he : e ∈ p.choices []) (hnumber : e.1 = number) :
    e.2 = skeleton c.tasks := by
  have hmem := h.choices (mem_choicesOf hc)
  -- Two choices with one number are the same entry of the list of choices.
  have hnodup : ((p.choices []).map Prod.fst).Nodup := by
    rw [Plan.map_fst_choices]
    exact hp.nodup
  exact congrArg Prod.snd (List.inj_on_of_nodup_map hnodup he hmem hnumber)

/-- Of the ways out of a choice, the shortest goes on from it; any shorter one is elsewhere. -/
theorem Search.choose (h : Search length p start i seen (c :: cs))
    (hc : c.Comes i (.choose number ds)) :
    Search length p start i (seen ||| 1 <<< number) (ds ++ cs) := by
  have hready := h.ready c (by simp)
  obtain ⟨w, hw, n, hn, hbefore⟩ := h.escapes
  have hseen {m : Nat} (hle : m ≤ n) (hm : ¬ Escapes i m c) :
      ∀ e ∈ p.choices [], (seen ||| 1 <<< number).testBit e.1 = true →
        ¬ Escapes i m ⟨e.2, []⟩ := by
    intro e he hbit hesc
    rw [testBit_met, Bool.or_eq_true, decide_eq_true_eq] at hbit
    rcases hbit with hbit | hbit
    · exact hbefore e he hbit (hesc.mono hle)
    · rw [hready.eq_skeleton hp hc.1 he hbit.symm] at hesc
      exact hm (hesc.alike (skeleton_skeleton _).symm)
  refine ⟨fun e he => ?_, ?_⟩
  · rcases List.mem_append.1 he with he | he
    · exact hready.goes ((hc.2.2 _ _).2 ⟨rfl, he⟩)
    · exact h.ready e (by simp [he])
  -- Either the choice has a way out as short as any, then its first step does; or it has none.
  · by_cases hcn : Escapes i n c
    · classical
      have hex : ∃ m, Escapes i m c := ⟨n, hcn⟩
      have hle := Nat.find_min' hex hcn
      have hmin := fun k => Nat.find_min hex (m := k)
      have hleast := Nat.find_spec hex
      generalize Nat.find hex = m at hle hmin hleast
      cases hleast with
      | stop => cases hc.1
      | advance hadvance =>
        have := ((hc.2.2 _ _).1 hadvance).1
        omega
      | @go m _ d hgo hd =>
        exact ⟨d, List.mem_append_left cs ((hc.2.2 _ _).1 hgo).2, m, hd,
          hseen (by omega) (hmin m (Nat.lt_succ_self m))⟩
    · rcases List.mem_cons.1 hw with rfl | hw
      · exact absurd hn hcn
      · exact ⟨w, List.mem_append_right ds hw, n, hn, hseen (Nat.le_refl n) hcn⟩

end

/-! ## Steps of a search -/

section

variable {fuel i seen number : Nat} {c d : Course} {cs ds : List Course} {ms : List Mark}

theorem follow_stop (h : c.next i = .stop ms) :
    follow (fuel + 1) i seen (c :: cs) = (i, ms) := by
  simp only [follow, h]

theorem follow_advance (h : c.next i = .advance d) :
    follow (fuel + 1) i seen (c :: cs) = follow fuel (i + 1) 0 [d] := by
  simp only [follow, h]

theorem follow_proceed (h : c.next i = .proceed d) :
    follow (fuel + 1) i seen (c :: cs) = follow fuel i seen (d :: cs) := by
  simp only [follow, h]

theorem follow_drop (h : c.next i = .choose number ds) (hseen : seen.testBit number = true) :
    follow (fuel + 1) i seen (c :: cs) = follow fuel i seen cs := by
  simp only [follow, h, hseen, if_true]

theorem follow_choose (h : c.next i = .choose number ds) (hseen : seen.testBit number = false) :
    follow (fuel + 1) i seen (c :: cs) =
      follow fuel i (seen ||| 1 <<< number) (ds ++ cs) := by
  simp only [follow, h, hseen]
  rfl

end

/-! ## Fuel -/

/-- A bound on the steps of some courses at one place, where `seen` holds the choices met there. -/
def potential (size bound seen : Nat) (cs : List Course) : Nat :=
  (cs.map fun c => weight c.tasks + 1).sum + lacking size seen * (2 * (bound + 1))

variable {bound : Nat}

theorem potential_cons (size bound seen : Nat) (c : Course) (cs : List Course) :
    potential size bound seen (c :: cs) =
      weight c.tasks + 1 + potential size bound seen cs := by
  simp only [potential, List.map_cons, List.sum_cons]
  omega

theorem sum_weight_le {ds : List Course} (h : ∀ d ∈ ds, Fits bound d.tasks) :
    (ds.map fun d => weight d.tasks + 1).sum ≤ ds.length * (bound + 1) := by
  induction ds with
  | nil => simp
  | cons d ds ih =>
    have hd := (h d (by simp)).weight_le
    have hds := ih fun e he => h e (by simp [he])
    rw [List.map_cons, List.sum_cons, List.length_cons, Nat.succ_mul]
    omega

/-- At a new place, the courses of a search have at most this potential. -/
theorem Ready.potential_le (h : Ready length p start i c) (size : Nat) :
    potential size p.weight 0 [c] ≤ (p.weight + 1) * (2 * size + 1) := by
  have hc := h.fits.weight_le
  have hle : lacking size 0 * (2 * (p.weight + 1)) ≤ size * (2 * (p.weight + 1)) :=
    Nat.mul_le_mul_right _ (lacking_le size 0)
  have heq : (p.weight + 1) * (2 * size + 1) = size * (2 * (p.weight + 1)) + (p.weight + 1) := by
    ring
  rw [potential_cons, heq]
  simp only [potential, List.map_nil, List.sum_nil]
  omega

/-- A choice is paid for by its number, which is met for the first time. -/
theorem Search.potential_choose (hp : p.Numbered 0 size)
    (h : Search length p start i seen (c :: cs)) {number : Nat} {ds : List Course}
    (hc : c.Comes i (.choose number ds)) (hseen : seen.testBit number = false) :
    potential size p.weight (seen ||| 1 <<< number) (ds ++ cs) <
      potential size p.weight seen (c :: cs) := by
  have hready := h.ready c (by simp)
  have hnumber : number < size := by
    have hmem := List.mem_map_of_mem (f := Prod.fst) (hready.choices (mem_choicesOf hc.1))
    rw [Plan.map_fst_choices] at hmem
    exact (hp.bounds number hmem).2
  have hlt : lacking size (seen ||| 1 <<< number) < lacking size seen := by
    refine Subplaces.lacking_lt (fun i hi => ?_) hnumber hseen ?_
    · rw [testBit_met, hi, Bool.true_or]
    · rw [testBit_met, decide_eq_true rfl, Bool.or_true]
  have hds : (ds.map fun d => weight d.tasks + 1).sum ≤ ds.length * (p.weight + 1) :=
    sum_weight_le fun d hd => (hready.goes ((hc.2.2 _ _).2 ⟨rfl, hd⟩)).fits
  have htwo : ds.length * (p.weight + 1) ≤ 2 * (p.weight + 1) := Nat.mul_le_mul_right _ hc.2.1
  have hpaid : (lacking size (seen ||| 1 <<< number) + 1) * (2 * (p.weight + 1)) ≤
      lacking size seen * (2 * (p.weight + 1)) := Nat.mul_le_mul_right _ hlt
  rw [Nat.succ_mul] at hpaid
  simp only [potential, List.map_append, List.sum_append, List.map_cons, List.sum_cons]
  omega

/-! ## What is found -/

/-- What following some courses comes to, however many steps it takes. -/
inductive Finds : (place seen : Nat) → List Course → Nat × List Mark → Prop
  | stop {i seen : Nat} {c : Course} {cs : List Course} {ms : List Mark} :
      c.next i = .stop ms → Finds i seen (c :: cs) (i, ms)
  | advance {i seen : Nat} {c d : Course} {cs : List Course} {e : Nat × List Mark} :
      c.next i = .advance d → Finds (i + 1) 0 [d] e → Finds i seen (c :: cs) e
  | proceed {i seen : Nat} {c d : Course} {cs : List Course} {e : Nat × List Mark} :
      c.next i = .proceed d → Finds i seen (d :: cs) e → Finds i seen (c :: cs) e
  | drop {i seen number : Nat} {c : Course} {cs ds : List Course} {e : Nat × List Mark} :
      c.next i = .choose number ds → seen.testBit number = true → Finds i seen cs e →
      Finds i seen (c :: cs) e
  | choose {i seen number : Nat} {c : Course} {cs ds : List Course} {e : Nat × List Mark} :
      c.next i = .choose number ds → seen.testBit number = false →
      Finds i (seen ||| 1 <<< number) (ds ++ cs) e → Finds i seen (c :: cs) e

theorem Finds.unique {e e' : Nat × List Mark} (h : Finds i seen cs e) (h' : Finds i seen cs e') :
    e = e' := by
  induction h with
  | stop hnext =>
    cases h' <;> simp_all
  | advance hnext _ ih =>
    cases h' <;> simp_all
  | proceed hnext _ ih =>
    cases h' <;> simp_all
  | drop hnext hseen _ ih =>
    cases h' <;> simp_all
  | choose hnext hseen _ ih =>
    cases h' <;> simp_all

/-- Courses behind those that something is found with do not matter. -/
theorem Finds.append {e : Nat × List Mark} (h : Finds i seen cs e) (ds : List Course) :
    Finds i seen (cs ++ ds) e := by
  induction h with
  | stop hnext => exact .stop hnext
  | advance hnext h _ => exact .advance hnext h
  | proceed hnext _ ih => exact .proceed hnext ih
  | drop hnext hseen _ ih => exact .drop hnext hseen ih
  | choose hnext hseen _ ih =>
    rw [List.append_assoc] at ih
    exact .choose hnext hseen ih

/-- What is found with ready courses is a passage of the plan. -/
theorem Finds.passage {e : Nat × List Mark} (h : Finds i seen cs e)
    (hready : ∀ c ∈ cs, Ready length p start i c) : p.passage start e.1 e.2 := by
  induction h with
  | @stop i seen c cs ms hnext =>
    have hc := comes_next i c
    rw [hnext] at hc
    refine (hready c (by simp)).leads i ms ⟨[], ?_, ?_⟩
    · rw [hc]
      exact ⟨rfl, rfl⟩
    · rw [hc]
      rfl
  | @advance i seen c d cs e hnext _ ih =>
    have hc := comes_next i c
    rw [hnext] at hc
    refine ih fun c' hc' => ?_
    rw [List.mem_singleton.1 hc']
    exact (hready c (by simp)).goes ((hc.2 _ _).2 ⟨rfl, rfl⟩)
  | @proceed i seen c d cs e hnext _ ih =>
    have hc := comes_next i c
    rw [hnext] at hc
    refine ih fun c' hc' => ?_
    rcases List.mem_cons.1 hc' with rfl | hc'
    · exact (hready c (by simp)).goes ((hc.2 _ _).2 ⟨rfl, rfl⟩)
    · exact hready c' (by simp [hc'])
  | drop _ _ _ ih => exact ih fun c' hc' => hready c' (by simp [hc'])
  | @choose i seen number c cs ds e hnext _ _ ih =>
    have hc := comes_next i c
    rw [hnext] at hc
    refine ih fun c' hc' => ?_
    rcases List.mem_append.1 hc' with hc' | hc'
    · exact (hready c (by simp)).goes ((hc.2.2 _ _).2 ⟨rfl, hc'⟩)
    · exact hready c' (by simp [hc'])

/-- A search finds something within its fuel. The fuel pays for the potential at this place and for
as much as there can be at each later one. -/
theorem Search.finds (hp : p.Numbered 0 size) (fuel : Nat)
    (h : Search length p start i seen cs)
    (hfuel : potential size p.weight seen cs +
      (length - i) * ((p.weight + 1) * (2 * size + 1)) ≤ fuel) :
    Finds i seen cs (follow fuel i seen cs) := by
  induction fuel generalizing i seen cs with
  -- Without fuel there is no course left, but a search always has one.
  | zero =>
    obtain ⟨c, hc, -⟩ := h.escapes
    obtain ⟨cs, ds, rfl⟩ := List.append_of_mem hc
    simp [potential] at hfuel
  | succ fuel ih =>
    cases cs with
    | nil =>
      obtain ⟨c, hc, -⟩ := h.escapes
      cases hc
    | cons c cs =>
      have hc := comes_next i c
      rw [potential_cons] at hfuel
      cases hnext : c.next i with
      | stop ms =>
        rw [follow_stop hnext]
        exact .stop hnext
      | advance d =>
        rw [hnext] at hc
        have hsearch := h.advance hc
        have hready := hsearch.ready d (by simp)
        have hle := hready.potential_le size
        rw [hready.ahead_succ, Nat.succ_mul] at hfuel
        rw [follow_advance hnext]
        exact .advance hnext (ih hsearch (by omega))
      | proceed d =>
        rw [hnext] at hc
        have hlt := ((hc.2 _ _).2 ⟨rfl, rfl⟩ : Goes i c i d).weight_lt hc.1
        rw [follow_proceed hnext]
        refine .proceed hnext (ih (h.proceed hc) ?_)
        rw [potential_cons]
        omega
      | choose number ds =>
        rw [hnext] at hc
        cases hseen : seen.testBit number with
        | true =>
          rw [follow_drop hnext hseen]
          exact .drop hnext hseen (ih (h.drop hc hseen) (by omega))
        | false =>
          have hlt := h.potential_choose hp hc hseen
          rw [potential_cons] at hlt
          rw [follow_choose hnext hseen]
          exact .choose hnext hseen (ih (h.choose hp hc) (by omega))

/-- Enough fuel for a plan with `size` parts. -/
def fuelFor (length size : Nat) : Nat := (length + 1) * ((2 * size + 2) * (2 * size + 2))

theorem finds_of_live (hp : p.Numbered 0 size) (hgoal : Subplaces goal (everywhere length))
    (haimed : p.Aimed goal) (hlive : p.live.testBit i = true) :
    Finds i 0 [⟨[.run p], []⟩] (follow (fuelFor length size) i 0 [⟨[.run p], []⟩]) := by
  have hready := ready_of_live hgoal haimed hlive
  have hweight := hp.weight
  have hplace : (p.weight + 1) * (2 * size + 1) ≤ (2 * size + 2) * (2 * size + 2) :=
    Nat.mul_le_mul (by omega) (by omega)
  have hhere := Nat.le_trans (hready.potential_le size) hplace
  have hlater := Nat.mul_le_mul (Nat.sub_le length i) hplace
  refine hready.search.finds hp _ ?_
  calc _ ≤ (2 * size + 2) * (2 * size + 2) + length * ((2 * size + 2) * (2 * size + 2)) :=
      Nat.add_le_add hhere hlater
    _ = _ := by rw [fuelFor]; ring

end Course

/-! ## Expressions -/

namespace Regex

variable {r : Regex Atom} {text : List Char} {c : Captures}

/-- What a search finds is a passage of the expression within the text. -/
theorem passageIn_of_find? (h : r.find? text = some c) :
    r.passageIn text c.start c.stop c.marks ∧ c.stop ≤ text.length := by
  have hplan := r.fulfils_planFor text
  obtain ⟨start, hstart, rfl⟩ := Option.map_eq_some_iff.1 h
  have hlive := List.find?_some hstart
  have hwithin : Subplaces (everywhere text.length) (everywhere text.length) := fun _ h => h
  have hready := Course.ready_of_live hwithin hplan.aimed hlive
  have hfinds := Course.finds_of_live (numbers_draft text.length _ 0 _) hwithin hplan.aimed hlive
  have hpassage := hfinds.passage fun d hd => List.mem_singleton.1 hd ▸ hready
  rw [hplan.passage] at hpassage
  exact ⟨hpassage.1, (testBit_everywhere text.length _).1 hpassage.2⟩

end Regex

end PathGlob

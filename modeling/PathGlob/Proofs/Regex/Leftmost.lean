-- SUMMARY: A search takes the leftmost match and there the first way, if nothing idle is repeated without bound.
import PathGlob.Proofs.Regex.Descent
import PathGlob.Proofs.Regex.Following

/-!
# Leftmost first matches

A search drops a course only at a choice it met before at the same place. If the body of every loop
takes a character, the first course never comes to such a choice: each step lowers the number of
steps it can still take at that place, whatever it chooses (`Course.standing`). So the search goes
straight down the first alternatives.
-/

namespace PathGlob

/-! ## Brisk plans -/

namespace Plan

/-- Whether a plan cannot be taken without a character. -/
def consumes : Plan → Bool
  | .stay _ => false
  | .step _ => true
  | .capture _ body => body.consumes
  | .cat a b => a.consumes || b.consumes
  | .choice _ _ a b => a.consumes && b.consumes
  | .loop _ _ _ _ isOptional body => !isOptional && body.consumes

theorem weight_pos (p : Plan) : 0 < p.weight := by
  cases p <;> exact Nat.succ_pos _

/-- Whether the body of every loop takes a character. -/
def IsBrisk : Plan → Prop
  | .stay _ | .step _ => True
  | .capture _ body => body.IsBrisk
  | .cat a b | .choice _ _ a b => a.IsBrisk ∧ b.IsBrisk
  | .loop _ _ _ _ _ body => body.IsBrisk ∧ body.consumes = true

end Plan

namespace Draft

/-- Whether a draft makes brisk plans, and plans that take a character if `c`. -/
def IsBrisk (c : Bool) (d : Draft) : Prop :=
  ∀ number goal, (d number goal).1.IsBrisk ∧ (c = true → (d number goal).1.consumes = true)

variable {length : Nat} {a b : Draft} {c c' : Bool}

theorem isBrisk_site (length : Nat) (s : Site) :
    IsBrisk (!s.isStand) (Regex.draft length (.atom s)) := by
  intro number goal
  cases s with
  | step places => exact ⟨trivial, fun _ => rfl⟩
  | stand places => exact ⟨trivial, nofun⟩

theorem IsBrisk.capture (h : a.IsBrisk c) (group : Nat) : (capture group a).IsBrisk c :=
  fun number goal => h (number + 1) goal

theorem IsBrisk.seq (ha : a.IsBrisk c) (hb : b.IsBrisk c') : (seq a b).IsBrisk (c || c') := by
  intro number goal
  have hb := hb (number + 1) goal
  have ha := ha (b (number + 1) goal).2 (b (number + 1) goal).1.live
  refine ⟨⟨ha.1, hb.1⟩, fun hc => ?_⟩
  show ((a _ _).1.consumes || (b _ _).1.consumes) = true
  rw [Bool.or_eq_true] at hc ⊢
  exact hc.imp ha.2 hb.2

theorem IsBrisk.either (ha : a.IsBrisk c) (hb : b.IsBrisk c') :
    (either a b).IsBrisk (c && c') := by
  intro number goal
  have ha := ha (number + 1) goal
  have hb := hb (a (number + 1) goal).2 goal
  refine ⟨⟨ha.1, hb.1⟩, fun hc => ?_⟩
  show ((a _ _).1.consumes && (b _ _).1.consumes) = true
  rw [Bool.and_eq_true] at hc ⊢
  exact ⟨ha.2 hc.1, hb.2 hc.2⟩

theorem IsBrisk.times (ha : a.IsBrisk c) (hb : b.IsBrisk c') (n : Nat) :
    (times a n b).IsBrisk (n != 0 && c || c') := by
  intro number goal
  induction n with
  | zero => exact hb number goal
  | succ n ih =>
    have ha := ha ((Draft.times a n b number goal).2 + 1) (Draft.times a n b number goal).1.live
    refine ⟨⟨ha.1, ih.1⟩, fun hc => ?_⟩
    show ((a _ _).1.consumes || (Draft.times a n b number goal).1.consumes) = true
    rw [Bool.or_eq_true] at hc ⊢
    refine hc.imp (fun hc => ha.2 (by simpa using hc)) fun hc => ih.2 (by simp [hc])

theorem IsBrisk.upTo (ha : a.IsBrisk c) (greedy : Bool) (n : Nat) :
    (upTo length greedy a n).IsBrisk false := by
  intro number goal
  refine ⟨?_, nofun⟩
  induction n with
  | zero => trivial
  | succ n ih =>
    have ha := ha ((Draft.upTo length greedy a n number goal).2 + 1)
      (Draft.upTo length greedy a n number goal).1.live
    cases greedy with
    | true => exact ⟨⟨ha.1, ih⟩, trivial⟩
    | false => exact ⟨trivial, ha.1, ih⟩

theorem IsBrisk.loop (h : a.IsBrisk true) (greedy isOptional : Bool) :
    (loop length greedy isOptional a).IsBrisk (!isOptional) := by
  intro number goal
  -- Settling tries the body with several goals, and it is brisk with each.
  have hbody := settle_of_body (P := fun r => r.1.IsBrisk ∧ r.1.consumes = true)
    (fun reach => (h (number + 1) reach).imp_right fun hc => hc rfl) goal (length + 1) goal
  refine ⟨hbody, fun hc => ?_⟩
  show (!isOptional && _) = true
  rw [hc]
  exact hbody.2

theorem IsBrisk.mono (h : a.IsBrisk c) (hc : c' = true → c = true) : a.IsBrisk c' :=
  fun number goal => (h number goal).imp_right fun hconsumes hc' => hconsumes (hc hc')

theorem IsBrisk.repetition (h : a.IsBrisk c) (min : Nat) (max : Option Nat)
    (greedy isNullable : Bool) (hc : max = none → c = true ∧ isNullable = false) :
    (repetition length min max greedy isNullable a).IsBrisk (min != 0 && c) := by
  unfold Draft.repetition
  split
  · obtain rfl := (hc rfl).1
    obtain rfl := (hc rfl).2
    exact (h.loop greedy true).mono (by simp)
  · next n =>
    obtain rfl := (hc rfl).1
    exact (h.times (h.loop greedy false) n).mono (by simp)
  · exact (h.times (h.upTo greedy _) min).mono (by simp)

end Draft

theorem Regex.isBrisk_draft (length : Nat) {r : Regex Site}
    (hr : r.isBrisk Site.isStand = true) :
    (r.draft length).IsBrisk (!r.isNullable Site.isStand) := by
  induction r with
  | empty => exact fun _ _ => ⟨trivial, nofun⟩
  | atom s => exact Draft.isBrisk_site length s
  | capture index name r ih => exact (ih hr).capture index
  | cat r s ihr ihs =>
    rw [isBrisk, Bool.and_eq_true] at hr
    rw [isNullable, Bool.not_and]
    exact (ihr hr.1).seq (ihs hr.2)
  | alt r s ihr ihs =>
    rw [isBrisk, Bool.and_eq_true] at hr
    rw [isNullable, Bool.not_or]
    exact (ihr hr.1).either (ihs hr.2)
  | repetition min max greedy r ih =>
    rw [isBrisk, Bool.and_eq_true] at hr
    refine ((ih hr.1).repetition min max greedy _ fun hmax => ?_).mono ?_
    · have hnullable : r.isNullable Site.isStand = false := by simpa [hmax] using hr.2
      exact ⟨by rw [hnullable]; rfl, hnullable⟩
    · rw [isNullable]
      simp

namespace Course

variable {i j k : Nat} {c d : Course} {ts : List Task} {ms : List Mark}

/-! ## Brisk courses -/

/-- Whether the body of every loop in some tasks takes a character. -/
def BriskTasks : List Task → Prop
  | [] => True
  | .run p :: ts => p.IsBrisk ∧ BriskTasks ts
  | .close _ _ :: ts => BriskTasks ts
  | .again _ _ _ body :: ts => body.IsBrisk ∧ body.consumes = true ∧ BriskTasks ts

theorem Goes.brisk (h : Goes i c j d) (hc : BriskTasks c.tasks) : BriskTasks d.tasks := by
  cases h with
  | stay | step => exact hc.2
  | capture | close => exact hc
  | cat => exact ⟨hc.1.1, hc.1.2, hc.2⟩
  | left _ => exact ⟨hc.1.1, hc.2⟩
  | right _ => exact ⟨hc.1.2, hc.2⟩
  | loop => exact ⟨hc.1.1, hc.1.2, hc.2⟩
  | enter => exact ⟨hc.1.1, hc.1.1, hc.1.2, hc.2⟩
  | more _ => exact ⟨hc.1, hc⟩
  | leave _ => exact hc.2.2

/-- A bound on the steps of some tasks until they take a character, whatever they choose. -/
def standing : List Task → Nat
  | [] => 0
  | .run p :: ts => p.weight + if p.consumes then 0 else standing ts
  | .close _ _ :: ts => 1 + standing ts
  | .again _ _ _ body :: ts => 1 + body.weight + standing ts

theorem standing_skeleton (ts : List Task) : standing (skeleton ts) = standing ts := by
  induction ts with
  | nil => rfl
  | cons t ts ih =>
    cases t <;> simp only [skeleton, List.map_cons, Task.erase, standing] <;>
      rw [← skeleton, ih]

/-- A step that takes no character lowers the bound. -/
theorem Goes.standing_lt (h : Goes i c j d) (hj : j = i) (hc : BriskTasks c.tasks) :
    standing d.tasks < standing c.tasks := by
  cases h with
  | step => omega
  | stay | capture | cat | left _ | right _ | loop | leave _ | close =>
    simp only [standing, Plan.weight, Plan.consumes, Bool.not_true, Bool.false_and]
    grind
  | enter =>
    have := hc.1.2
    simp [standing, Plan.weight, Plan.consumes, this]
  | more _ =>
    have := hc.2.1
    simp [standing, this]
    omega

/-- Each task stands for no longer than the whole plan. -/
theorem Fits.standing_le {bound : Nat} (h : Fits bound ts) :
    standing ts ≤ weight ts * bound := by
  -- A task weighs at least one, which pays for the bound on its own steps.
  have hcons {n s t : Nat} {ts : List Task} (ih : s ≤ weight ts * bound) (hn : n ≤ bound)
      (ht : 0 < t) : n + s ≤ (t + weight ts) * bound := by
    calc n + s ≤ bound + weight ts * bound := Nat.add_le_add hn ih
      _ = (1 + weight ts) * bound := by ring
      _ ≤ (t + weight ts) * bound := Nat.mul_le_mul_right bound (by omega)
  induction ts with
  | nil => exact Nat.zero_le _
  | cons t ts ih =>
    cases t with
    | run p =>
      have hp : p.weight ≤ bound := Nat.le_trans (Nat.le_add_right _ _) h.1
      have hrest : (if p.consumes then 0 else standing ts) ≤ weight ts * bound := by
        split
        · exact Nat.zero_le _
        · exact ih h.2
      exact hcons hrest hp p.weight_pos
    | close group start => exact hcons (ih h.2) (Nat.le_trans (Nat.le_add_right _ _) h.1) one_pos
    | again number goal greedy body =>
      have hbody : 1 + body.weight ≤ bound := by
        have := h.1
        omega
      exact hcons (ih h.2) hbody one_pos

/-! ## Searches -/

variable {length start size seen fuel : Nat} {p : Plan}

/-- Whether a course has fewer steps left at its place than every choice that was met there. -/
def Nearer (p : Plan) (seen : Nat) (c : Course) : Prop :=
  ∀ e ∈ p.choices [], seen.testBit e.1 = true → standing c.tasks < standing e.2

theorem nearer_zero (p : Plan) (c : Course) : Nearer p 0 c := fun e _ he => by simp at he

theorem Nearer.goes (h : Nearer p seen c) (hlt : standing d.tasks < standing c.tasks) :
    Nearer p seen d := fun e he hbit => Nat.lt_trans hlt (h e he hbit)

/-- From a choice met before there were more steps to take than there are now. -/
theorem Nearer.fresh (hn : Nearer p seen c) (h : Ready length p start i c) {number : Nat}
    (hc : choice? c.tasks = some number) : seen.testBit number = false := by
  rw [Bool.eq_false_iff]
  intro hbit
  have hlt := hn _ (h.choices (mem_choicesOf hc)) hbit
  rw [standing_skeleton] at hlt
  exact Nat.lt_irrefl _ hlt

theorem Nearer.choose (hn : Nearer p seen c) (hp : p.Numbered 0 size)
    (h : Ready length p start i c) {number : Nat} (hc : choice? c.tasks = some number)
    (hlt : standing d.tasks < standing c.tasks) : Nearer p (seen ||| 1 <<< number) d := by
  intro e he hbit
  rw [testBit_met, Bool.or_eq_true, decide_eq_true_eq] at hbit
  rcases hbit with hbit | hbit
  · exact hn.goes hlt e he hbit
  · rw [h.eq_skeleton hp hc he hbit.symm, standing_skeleton]
    exact hlt

/-- A brisk search follows first alternatives. No choice at this place was met before, since from
every one that was the way on is longer than from here. -/
theorem Ready.follow_eq (hp : p.Numbered 0 size) (h : Ready length p start i c)
    (hbrisk : BriskTasks c.tasks) (hdescends : Descends i c k ⟨[], ms⟩) (hseen : Nearer p seen c)
    (hfuel : standing c.tasks + (length - i) * (p.weight * p.weight + 1) < fuel)
    (cs : List Course) : follow fuel i seen (c :: cs) = (k, ms) := by
  generalize he : (⟨[], ms⟩ : Course) = e at hdescends
  induction hdescends generalizing fuel seen cs with
  | refl i c =>
    subst he
    obtain ⟨fuel, rfl⟩ := Nat.exists_eq_succ_of_ne_zero (Nat.ne_zero_of_lt hfuel)
    rfl
  | @step i j k c d e hfirst _ ih =>
    obtain ⟨fuel, rfl⟩ := Nat.exists_eq_succ_of_ne_zero (Nat.ne_zero_of_lt hfuel)
    have hcomes := comes_next i c
    unfold First at hfirst
    cases hnext : c.next i with
    | stop ms => rw [hnext] at hfirst; cases hfirst
    | advance d' =>
      rw [hnext] at hfirst hcomes
      obtain ⟨rfl, rfl⟩ := hfirst
      have hgo : Goes i c (i + 1) d := (hcomes.2 _ _).2 ⟨rfl, rfl⟩
      have hready := h.goes hgo
      rw [follow_advance hnext]
      refine ih hready (hgo.brisk hbrisk) (nearer_zero p d) ?_ [] he
      -- A character pays for all the steps at the next place.
      have hstanding : standing d.tasks ≤ p.weight * p.weight :=
        Nat.le_trans hready.fits.standing_le (Nat.mul_le_mul_right _ hready.fits.weight_le)
      rw [hready.ahead_succ, Nat.succ_mul] at hfuel
      omega
    | proceed d' =>
      rw [hnext] at hfirst hcomes
      obtain ⟨rfl, rfl⟩ := hfirst
      have hgo : Goes j c j d := (hcomes.2 _ _).2 ⟨rfl, rfl⟩
      have hlt := hgo.standing_lt rfl hbrisk
      rw [follow_proceed hnext]
      exact ih (h.goes hgo) (hgo.brisk hbrisk) (hseen.goes hlt) (by omega) cs he
    | choose number ds =>
      rw [hnext] at hfirst hcomes
      cases ds with
      | nil => cases hfirst
      | cons d' ds =>
        obtain ⟨rfl, rfl⟩ := hfirst
        have hgo : Goes j c j d := (hcomes.2.2 _ _).2 ⟨rfl, by simp⟩
        have hlt := hgo.standing_lt rfl hbrisk
        rw [follow_choose hnext (hseen.fresh h hcomes.1)]
        exact ih (h.goes hgo) (hgo.brisk hbrisk) (hseen.choose hp h hcomes.1 hlt) (by omega) _ he

end Course

/-! ## Expressions -/

theorem Ways.Forward.firstInto_everywhere {length i : Nat} {T : Ways} (h : T.Forward length)
    (hi : i ≤ length) : T.firstInto (everywhere length) i = (T i).head? := by
  have hwithin := h i hi
  rw [Ways.firstInto]
  cases hT : T i with
  | nil => rfl
  | cons e es =>
    rw [hT] at hwithin
    rw [List.find?_cons, (testBit_everywhere length e.1).2 (hwithin e (by simp)).2]
    rfl

theorem map_find?_eq_findSome? {α β : Type} {l : List α} {P : α → Bool} {f : α → β}
    {g : α → Option β} (hsome : ∀ a ∈ l, P a = (g a).isSome)
    (hf : ∀ a ∈ l, ∀ b, g a = some b → f a = b) : (l.find? P).map f = l.findSome? g := by
  induction l with
  | nil => rfl
  | cons a l ih =>
    have ih := ih (fun b hb => hsome b (by simp [hb])) (fun b hb => hf b (by simp [hb]))
    have ha := hsome a (by simp)
    rw [List.find?_cons, List.findSome?_cons]
    cases hg : g a with
    | none =>
      rw [hg] at ha
      rw [ha]
      exact ih
    | some b =>
      rw [hg] at ha
      rw [ha]
      exact congrArg some (hf a (by simp) b hg)

namespace Regex

variable {r : Regex Atom} {text : List Char}

theorem isStand_site (text : List Char) (index : List (Char × Nat)) :
    (fun a => (Atom.site text index a).isStand) = Atom.isLook := by
  funext a
  cases a <;> rfl

theorem isBrisk_map {α β : Type} (f : α → β) (isStill : β → Bool) (r : Regex α) :
    (r.map f).isBrisk isStill = r.isBrisk fun a => isStill (f a) := by
  induction r with
  | empty | atom a => rfl
  | capture index name r ih => simp only [map, isBrisk, ih]
  | cat r s ihr ihs | alt r s ihr ihs => simp only [map, isBrisk, ihr, ihs]
  | repetition min max greedy r ih => simp only [map, isBrisk, ih, isNullable_map]

theorem prefers_planFor (hr : r.isBrisk Atom.isLook = true) (text : List Char) :
    (r.planFor text).1.Prefers text.length (everywhere text.length) (r.waysIn text) := by
  have hf (a : Atom) : (a.site text (charPlaces text)).ways.Forward text.length := by
    rw [Atom.ways_site]
    exact a.forward_ways text
  rw [← isStand_site text (charPlaces text)] at hr
  have horders := orders_draft hf hr
  simp only [Atom.ways_site] at horders
  exact horders.prefers 0 _ fun _ h => h

/-- From a place where an expression has a way, a search takes the first one. -/
theorem follow_planFor (hr : r.isBrisk Atom.isLook = true) {i : Nat} (hi : i ≤ text.length)
    {e : Nat × List Mark} (he : (r.waysIn text i).head? = some e) :
    follow ((text.length + 1) * ((2 * (r.planFor text).2 + 2) * (2 * (r.planFor text).2 + 2))) i 0
      [⟨[.run (r.planFor text).1], []⟩] = e := by
  have hprefers := prefers_planFor hr text
  have hforward : (r.waysIn text).Forward text.length := forward_ways (Atom.forward_ways text) r
  have hfirst := (hforward.firstInto_everywhere hi).trans he
  have hlive := hprefers.live i hi
  rw [hfirst] at hlive
  have hdescends := hprefers.descends i hi e hfirst [] []
  rw [List.append_nil] at hdescends
  have hnumbers : (r.planFor text).1.Numbered 0 (r.planFor text).2 :=
    numbers_draft text.length _ 0 _
  have hready := Course.ready_of_live (fun _ h => h) (r.fulfils_planFor text).aimed hlive
  have hbrisk : (r.planFor text).1.IsBrisk := by
    rw [← isStand_site text (charPlaces text), ← isBrisk_map] at hr
    exact (isBrisk_draft text.length hr 0 _).1
  refine hready.follow_eq hnumbers ⟨hbrisk, trivial⟩ hdescends (Course.nearer_zero _ _) ?_ []
  have hweight : (r.planFor text).1.weight + 1 ≤ 2 * (r.planFor text).2 + 2 := by
    have := hnumbers.weight
    omega
  have hstanding : Course.standing [.run (r.planFor text).1] = (r.planFor text).1.weight := by
    simp [Course.standing]
  rw [hstanding]
  generalize (r.planFor text).1.weight = w at hweight
  have hsquare := Nat.mul_le_mul hweight hweight
  have hexpand : (text.length + 1) * ((w + 1) * (w + 1)) =
      w + text.length * (w * w + 1) + (text.length * (2 * w) + w * w + w + 1) := by ring
  -- At most `w` steps at the first place and `w * w` at each later one.
  calc w + (text.length - i) * (w * w + 1)
      ≤ w + text.length * (w * w + 1) :=
        Nat.add_le_add_left (Nat.mul_le_mul_right _ (Nat.sub_le _ _)) w
    _ < (text.length + 1) * ((w + 1) * (w + 1)) := by omega
    _ ≤ _ := Nat.mul_le_mul_left _ hsquare

/-- The first place from which there is a way, and the first way from there. -/
theorem find?_eq (hr : r.isBrisk Atom.isLook = true) (text : List Char) :
    r.find? text = (List.range (text.length + 1)).findSome? fun i =>
      (r.waysIn text i).head?.map fun e => ⟨i, e.1, e.2⟩ := by
  have hprefers := prefers_planFor hr text
  have hforward : (r.waysIn text).Forward text.length := forward_ways (Atom.forward_ways text) r
  refine map_find?_eq_findSome? (fun i hi => ?_) fun i hi c hc => ?_
  · have hi := Nat.le_of_lt_succ (List.mem_range.1 hi)
    rw [Option.isSome_map, ← hforward.firstInto_everywhere hi]
    exact hprefers.live i hi
  · have hi := Nat.le_of_lt_succ (List.mem_range.1 hi)
    obtain ⟨e, he, rfl⟩ := Option.map_eq_some_iff.1 hc
    have hfollow := follow_planFor hr hi he
    unfold planFor at hfollow
    rw [hfollow]

end Regex

end PathGlob

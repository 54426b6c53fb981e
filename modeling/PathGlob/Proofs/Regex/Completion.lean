-- SUMMARY: What a search takes from a place to the end of a text, and that alternatives are tried in their order.
import PathGlob.Proofs.Regex.Nesting
import PathGlob.Proofs.Regex.Preferring
import PathGlob.Proofs.Regex.Renaming

/-!
# Completions

An anchored expression is matched by going from the start of a text to its end. What a search takes
for that is not made up of what it takes for the parts of a sequence, because a part depends on what
comes behind it. It is so for alternatives, and for the characters that all of them begin with.
-/

namespace PathGlob

namespace Regex

/-! ## Plans to the end -/

def sites (text : List Char) (r : Regex Atom) : Regex Site :=
  r.map (Atom.site text (charPlaces text))

/-- The end of a text, as a set of places. -/
def ending (text : List Char) : Nat := Look.textEnd.places none text &&& everywhere text.length

/-- The plan for a match that stops at the end of a text, from a number on, with the next free
number. -/
def endPlan (r : Regex Atom) (text : List Char) (number : Nat) : Plan × Nat :=
  (r.sites text).draft text.length number (ending text)

/-- Where a search from a place for a match to the end of a text stops, with the marks it leaves. -/
def completion? (r : Regex Atom) (text : List Char) (i : Nat) : Option (Nat × List Mark) :=
  let (p, size) := r.endPlan text 0
  if p.live.testBit i then
    some (follow (Course.fuelFor text.length size) i 0 [⟨[.run p], []⟩])
  else none

/-- Whether a search from a place finds something on a way to the end of a text. -/
def Completes (r : Regex Atom) (text : List Char) (i : Nat) (e : Nat × List Mark) : Prop :=
  Course.Finds i 0 [⟨[.run (r.endPlan text 0).1], []⟩] e

variable {r s : Regex Atom} {text : List Char} {i j : Nat} {e : Nat × List Mark}

theorem subplaces_ending (text : List Char) :
    Subplaces (ending text) (everywhere text.length) := by
  intro j hj
  rw [ending, Nat.testBit_and, Bool.and_eq_true] at hj
  exact hj.2

theorem completes_of_completion? (h : r.completion? text i = some e) : r.Completes text i e := by
  have hgoal := subplaces_ending text
  have hfulfils := (realizes_draft text.length (r.sites text)).fulfils 0 _ hgoal
  obtain ⟨hlive, rfl⟩ : (r.endPlan text 0).1.live.testBit i = true ∧ _ = e := by
    simpa [completion?] using h
  exact Course.finds_of_live (numbers_draft text.length _ 0 _) hgoal hfulfils.aimed hlive

theorem isSome_completion? :
    (r.completion? text i).isSome = (r.endPlan text 0).1.live.testBit i := by
  cases h : (r.endPlan text 0).1.live.testBit i <;> simp [completion?, h]

theorem live_endPlan (r : Regex Atom) (text : List Char) (number : Nat) :
    (r.endPlan text number).1.live.testBit i = (r.completion? text i).isSome := by
  rw [isSome_completion?, endPlan, live_draft]
  rfl

theorem completion?_eq_some (h : r.Completes text i e)
    (hlive : (r.completion? text i).isSome = true) : r.completion? text i = some e := by
  obtain ⟨e', he⟩ := Option.isSome_iff_exists.1 hlive
  rw [he, (completes_of_completion? he).unique h]

/-- Two searches that find the same, up to a change of marks, have the same completion. -/
theorem completion?_eq_map {f : Nat × List Mark → Nat × List Mark}
    (hlive : (r.completion? text i).isSome = (s.completion? text j).isSome)
    (h : ∀ e, s.Completes text j e → r.Completes text i (f e)) :
    r.completion? text i = (s.completion? text j).map f := by
  cases hs : s.completion? text j with
  | none => simpa [hs] using hlive
  | some e => exact completion?_eq_some (h e (completes_of_completion? hs)) (by simp [hlive, hs])

theorem completion?_eq
    (hlive : (r.completion? text i).isSome = (s.completion? text j).isSome)
    (h : ∀ e, s.Completes text j e → r.Completes text i e) :
    r.completion? text i = s.completion? text j := by
  rw [completion?_eq_map hlive h, Option.map_id']

/-- A search finds the same with greater numbers, as long as it has met none of them. -/
theorem Completes.finds (h : r.Completes text i e) {number seen : Nat}
    (hseen : ∀ n, seen.testBit (n + number) = false) (cs : List Course) :
    Course.Finds i seen (⟨[.run (r.endPlan text number).1], []⟩ :: cs) e :=
  finds_draft _ hseen h cs

/-- There is a completion just if there is a passage to the end. -/
theorem isSome_completion?_iff :
    (r.completion? text i).isSome = true ↔ ∃ ms, r.passageIn text i text.length ms := by
  have hend (j : Nat) : (ending text).testBit j = true ↔ j = text.length := by
    rw [ending, Nat.testBit_and, Bool.and_eq_true, Look.testBit_places, holds_textEnd_iff,
      testBit_everywhere]
    omega
  have hfulfils := (realizes_draft text.length (r.sites text)).fulfils 0 _ (subplaces_ending text)
  rw [isSome_completion?, endPlan, hfulfils.live_iff, sites, passage_sites]
  simp only [hend]
  constructor
  · rintro ⟨j, ms, h, rfl⟩
    exact ⟨ms, h⟩
  · rintro ⟨ms, h⟩
    exact ⟨_, ms, h, rfl⟩

/-! ## Nesting and renaming -/

theorem everywhere_and_ending (text : List Char) :
    everywhere text.length &&& ending text = ending text := by
  rw [ending, Nat.and_comm (Look.places _ _ _), ← Nat.and_assoc, Nat.and_self]

theorem completion?_of_nests (h : ((r.sites text).draft text.length).Nests (ending text)
    ((s.sites text).draft text.length) (ending text)) :
    r.completion? text i = s.completion? text i := by
  refine completion?_eq ?_ fun e he => finds_of_nests h he 0
  rw [isSome_completion?, isSome_completion?, endPlan, live_of_nests h 0]
  rfl

theorem completion?_chain_parts (r : Regex Atom) :
    (chain r.parts).completion? text i = r.completion? text i := by
  refine completion?_of_nests ?_
  rw [sites, map_chain, ← map_parts]
  exact nests_chain_parts (everywhere_and_ending text) _

theorem completion?_chain (rs : List (Regex Atom)) :
    (chain rs).completion? text i = (ofParts rs).completion? text i := by
  refine completion?_of_nests ?_
  rw [sites, sites, map_chain, map_ofParts]
  exact nests_chain_ofParts (everywhere_and_ending text) _

theorem completion?_regroup (g : Nat → Nat) (r : Regex Atom) :
    (r.regroup g).completion? text i =
      (r.completion? text i).map fun e => (e.1, e.2.map (Mark.rename g)) := by
  have hplan : ((r.regroup g).endPlan text 0).1 = (r.endPlan text 0).1.rename 0 g := by
    have hrenames := renames_draft g text.length (r.sites text) 0 0 (ending text)
    rw [endPlan, sites, map_regroup]
    exact congrArg Prod.fst hrenames
  refine completion?_eq_map ?_ fun e he => ?_
  · rw [isSome_completion?, isSome_completion?, hplan, Plan.live_rename]
  · rw [Completes, hplan]
    exact he.rename g fun n => rfl

/-! ## Anchors -/

theorem sites_anchored (r : Regex Atom) (text : List Char) : (anchored r).sites text =
    .cat (.atom (.stand (Look.textStart.places none text)))
      ((r.sites text).append (.atom (.stand (Look.textEnd.places none text)))) := by
  rw [anchored, sites, map_append, map_append]
  show _ = Regex.cat _ ((r.map _).append _)
  cases r.map (Atom.site text (charPlaces text)) <;> rfl

theorem testBit_textStart (text : List Char) (i : Nat) :
    (Look.textStart.places none text).testBit i = decide (i = 0) := by
  rw [Bool.eq_iff_iff, decide_eq_true_eq, ← holds_textStart_iff text i, Look.testBit_places]

/-- The plan of an anchored expression stays at the start and goes on to the end. -/
theorem exists_planFor_anchored (r : Regex Atom) (text : List Char) :
    ∃ p live, ((anchored r).planFor text).1 = .cat (.stay live) p ∧
      (∀ i, live.testBit i = (decide (i = 0) && (r.completion? text i).isSome)) ∧
      ∀ i e, r.Completes text i e → Course.Finds i 0 [⟨[.run p], []⟩] e := by
  have hnests : (((r.sites text).append (.atom (.stand (Look.textEnd.places none text)))).draft
      text.length).Nests _ _ _ := nests_append_stand (Look.textEnd.places none text) (r.sites text)
  have hplan : ∃ p live, ((anchored r).planFor text).1 = .cat (.stay live) p ∧
      live = Look.textStart.places none text &&& p.live ∧
      p = (((r.sites text).append (.atom (.stand (Look.textEnd.places none text)))).draft
        text.length 1 (everywhere text.length)).1 := by
    rw [planFor, ← sites, sites_anchored]
    exact ⟨_, _, rfl, rfl, rfl⟩
  obtain ⟨p, live, hplan, rfl, rfl⟩ := hplan
  refine ⟨_, _, hplan, fun i => ?_, fun i e he => finds_of_nests hnests he 1⟩
  rw [Nat.testBit_and, testBit_textStart, live_of_nests hnests 1, isSome_completion?]
  rfl

/-- A match of an anchored expression goes from the start of the text to its end. -/
theorem find?_anchored_eq_completion? (r : Regex Atom) (text : List Char) :
    (anchored r).find? text = (r.completion? text 0).map fun e => ⟨0, e.1, e.2⟩ := by
  obtain ⟨p, live, hplan, hlive, hfinds⟩ := r.exists_planFor_anchored text
  have hbit (i : Nat) : ((anchored r).planFor text).1.live.testBit i = live.testBit i := by
    rw [hplan]
    rfl
  cases he : r.completion? text 0 with
  | none =>
    have hnever : (List.range (text.length + 1)).find?
        ((anchored r).planFor text).1.live.testBit = none := by
      refine List.find?_eq_none.2 fun i _ => ?_
      rw [hbit, hlive]
      cases i with
      | zero => simp [he]
      | succ i => simp
    rw [find?]
    simp [hnever]
  | some e =>
    have hstart : ((anchored r).planFor text).1.live.testBit 0 = true := by
      simp [hbit, hlive, he]
    have hfound := Course.finds_of_live (numbers_draft text.length _ 0 _) (fun _ h => h)
      ((anchored r).fulfils_planFor text).aimed hstart
    have hsame : Course.Finds 0 0 [⟨[.run ((anchored r).planFor text).1], []⟩] e := by
      rw [hplan]
      exact .proceed rfl (.proceed rfl (hfinds 0 e (completes_of_completion? he)))
    have hfirst : (List.range (text.length + 1)).find?
        ((anchored r).planFor text).1.live.testBit = some 0 := by
      rw [List.range_succ_eq_map, List.find?_cons_of_pos hstart]
    have heq := hsame.unique hfound
    rw [find?]
    simp only [hfirst]
    exact congrArg (fun e : Nat × List Mark => some (Captures.mk 0 e.1 e.2)) heq.symm

/-! ## Alternatives -/

theorem completion?_alt (r s : Regex Atom) :
    (Regex.alt r s).completion? text i = (r.completion? text i).or (s.completion? text i) := by
  obtain ⟨number, hnumber, hplan⟩ : ∃ number, 1 ≤ number ∧ ((Regex.alt r s).endPlan text 0).1 =
      .choice 0 ((r.endPlan text 1).1.live ||| (s.endPlan text number).1.live)
        (r.endPlan text 1).1 (s.endPlan text number).1 :=
    ⟨_, (numbers_draft text.length (r.sites text) 1 (ending text)).le, rfl⟩
  have hr := live_endPlan (i := i) r text 1
  have hs := live_endPlan (i := i) s text number
  have hlive : ((Regex.alt r s).completion? text i).isSome =
      ((r.completion? text i).isSome || (s.completion? text i).isSome) := by
    rw [isSome_completion?, hplan, Plan.live, Nat.testBit_or, hr, hs]
  -- The choice itself is the only one met, and it has a lower number than those that follow.
  have hseen {m : Nat} (hm : 1 ≤ m) (n : Nat) : (0 ||| 1 <<< 0).testBit (n + m) = false := by
    rw [Course.testBit_met, Nat.zero_testBit, Bool.false_or, decide_eq_false_iff_not]
    omega
  have hfinds {p : Plan} {e : Nat × List Mark}
      (hfirst : ([(r.endPlan text 1).1, (s.endPlan text number).1].filter
        (·.live.testBit i)).head? = some p)
      (h : ∀ cs, Course.Finds i (0 ||| 1 <<< 0) (⟨[.run p], []⟩ :: cs) e) :
      (Regex.alt r s).Completes text i e := by
    obtain ⟨ps, hps⟩ := List.head?_eq_some_iff.1 hfirst
    rw [Completes, hplan]
    refine .choose (Course.next_choice ..) rfl ?_
    rw [hps]
    exact h _
  cases hre : r.completion? text i with
  | some e =>
    have he := (completes_of_completion? hre).finds (hseen (Nat.le_refl 1))
    exact completion?_eq_some (hfinds (by simp [hr, hre]) he) (by simp [hlive, hre])
  | none =>
    cases hse : s.completion? text i with
    | some e =>
      have he := (completes_of_completion? hse).finds (hseen hnumber)
      exact completion?_eq_some (hfinds (by simp [hr, hre, hs, hse]) he) (by simp [hlive, hse])
    | none => simpa [hre, hse] using hlive

theorem findSome?_cons_eq_or {α β : Type} (f : α → Option β) (a : α) (as : List α) :
    (a :: as).findSome? f = (f a).or (as.findSome? f) := by
  rw [List.findSome?_cons]
  cases f a <;> rfl

theorem completion?_branches (r : Regex Atom) :
    r.branches.findSome? (·.completion? text i) = r.completion? text i := by
  induction r with
  | alt r s _ ih => rw [branches, findSome?_cons_eq_or, ih, completion?_alt]
  | _ => simp [branches]

theorem completion?_flatMap_branches (rs : List (Regex Atom)) :
    (rs.flatMap branches).findSome? (·.completion? text i) =
      rs.findSome? (·.completion? text i) := by
  induction rs with
  | nil => rfl
  | cons r rs ih =>
    rw [List.flatMap_cons, List.findSome?_append, ih, completion?_branches, findSome?_cons_eq_or]

/-! ## Characters -/

theorem testBit_places_char (s : CharSet) (text : List Char) (i : Nat) :
    (s.places (charPlaces text)).testBit i = text[i]?.any s.contains := by
  have hleads : (Site.step (s.places (charPlaces text))).Leads i (i + 1) ↔
      (Atom.char s false).Leads text i (i + 1) := by
    rw [← Atom.leads_site text]
    rfl
  rw [Bool.eq_iff_iff, Option.any_eq_true]
  simpa only [Site.Leads, Atom.Leads, CharSet.mem_iff, and_true] using hleads

theorem completion?_char_cat (s : CharSet) (ascii : Bool) (r : Regex Atom) :
    (Regex.cat (.atom (.char s ascii)) r).completion? text i =
      if text[i]?.any s.contains then r.completion? text (i + 1) else none := by
  have hplan : ((Regex.cat (.atom (.char s ascii)) r).endPlan text 0).1 =
      .cat (.step (s.places (charPlaces text) &&& ((r.endPlan text 1).1.live >>> 1)))
        (r.endPlan text 1).1 := rfl
  have hlive : ((Regex.cat (.atom (.char s ascii)) r).completion? text i).isSome =
      (text[i]?.any s.contains && (r.completion? text (i + 1)).isSome) := by
    rw [isSome_completion?, hplan, Plan.live, Plan.live, Nat.testBit_and, Nat.testBit_shiftRight,
      Nat.add_comm 1 i, testBit_places_char, live_endPlan]
  split
  · next hchar =>
    refine completion?_eq (by rw [hlive, hchar, Bool.true_and]) fun e he => ?_
    rw [Completes, hplan]
    exact .proceed rfl (.advance rfl (he.finds (by simp) []))
  · next hchar => simpa [hchar] using hlive

theorem completion?_char (s : CharSet) (ascii : Bool) :
    (Regex.atom (.char s ascii)).completion? text i =
      if text[i]?.any s.contains then (Regex.empty).completion? text (i + 1) else none := by
  rw [← completion?_char_cat s ascii, ← completion?_chain_parts (.atom (.char s ascii))]
  rfl

/-- What begins with characters is completed by what stands behind them, if they are there. -/
theorem exists_completion?_append {cs : List (Regex Atom)} (hcs : ∀ c ∈ cs, c.set?.isSome = true)
    (text : List Char) (i : Nat) : ∃ b : Bool, ∀ rs : List (Regex Atom),
      (chain (cs ++ rs)).completion? text i =
        if b then (chain rs).completion? text (i + cs.length) else none := by
  induction cs generalizing i with
  | nil => exact ⟨true, fun rs => rfl⟩
  | cons c cs ih =>
    obtain ⟨hc, hrest⟩ := List.forall_mem_cons.1 hcs
    obtain ⟨s, hs⟩ := Option.isSome_iff_exists.1 hc
    obtain ⟨ascii, rfl⟩ := set?_eq_some hs
    obtain ⟨b, hb⟩ := ih hrest (i + 1)
    refine ⟨text[i]?.any s.contains && b, fun rs => ?_⟩
    have hcat : (chain (.atom (.char s ascii) :: cs ++ rs)).completion? text i =
        if text[i]?.any s.contains then (chain (cs ++ rs)).completion? text (i + 1) else none :=
      completion?_char_cat s ascii _
    rw [hcat, hb rs, List.length_cons, Nat.add_right_comm i 1, Nat.add_assoc]
    cases text[i]?.any s.contains <;> rfl

/-! ## Normal form -/

theorem completion?_never : never.completion? text i = none := by
  rw [never, completion?_char]
  cases text[i]? <;> rfl

theorem completion?_ofSet (s : CharSet) : (ofSet s).completion? text i =
    (Regex.atom (.char s false)).completion? text i := by
  have hcontains : s.scalars.contains = s.contains := funext s.contains_scalars
  rw [ofSet, completion?_char, completion?_char, hcontains]

theorem ite_or_eq_or {α : Type} (o : Option α) (a b : Bool) :
    (if a || b then o else none) = (if a then o else none).or (if b then o else none) := by
  cases a <;> cases b <;> cases o <;> rfl

/-- Expressions that are sets, as one set. -/
theorem completion?_of_map_set? {rs : List (Regex Atom)} {ss : List CharSet}
    (h : rs.map set? = ss.map some) :
    (Regex.atom (.char (.unions ss) false)).completion? text i =
      rs.findSome? (·.completion? text i) := by
  induction ss generalizing rs with
  | nil =>
    obtain rfl := List.map_eq_nil_iff.1 h
    exact completion?_never
  | cons s ss ih =>
    obtain ⟨r, rs, rfl, hs, hss⟩ := List.map_eq_cons_iff.1 h
    obtain ⟨ascii, rfl⟩ := set?_eq_some hs
    rw [findSome?_cons_eq_or, ← ih hss, completion?_char, completion?_char, completion?_char]
    cases text[i]? with
    | none => rfl
    | some c =>
      simp only [Option.any_some, CharSet.contains_unions, List.any_cons]
      exact ite_or_eq_or _ _ _

theorem completion?_ofBranches (rs : List (Regex Atom)) :
    (ofBranches rs).completion? text i = rs.findSome? (·.completion? text i) := by
  induction rs with
  | nil => exact completion?_never
  | cons r rs ih =>
    rw [findSome?_cons_eq_or, ← ih]
    cases rs with
    | nil =>
      rw [ofBranches, ofBranches, completion?_never, Option.or_none]
    | cons s rs => exact completion?_alt r _

theorem completion?_choice (rs : List (Regex Atom)) :
    (choice rs).completion? text i = rs.findSome? (·.completion? text i) := by
  have hbuilt := isChoice rs
  generalize choice rs = r at hbuilt
  cases hbuilt with
  | branches => exact completion?_ofBranches rs
  | joined hss =>
    rw [completion?_ofSet, completion?_of_map_set? (map_eq_map_some_of_mapM hss)]

theorem parts_append (r s : Regex Atom) : (r.append s).parts = r.parts ++ s.parts := by
  induction r with
  | empty => rfl
  | cat r r' _ ih => exact congrArg _ ih
  | _ => cases s <;> rfl

theorem parts_ofParts {cs : List (Regex Atom)} (hcs : ∀ c ∈ cs, c.set?.isSome = true) :
    (ofParts cs).parts = cs := by
  induction cs with
  | nil => rfl
  | cons c cs ih =>
    obtain ⟨hc, hcs⟩ := List.forall_mem_cons.1 hcs
    cases cs with
    | nil =>
      obtain ⟨s, hs⟩ := Option.isSome_iff_exists.1 hc
      obtain ⟨ascii, rfl⟩ := set?_eq_some hs
      rfl
    | cons d cs => exact congrArg _ (ih hcs)

/-- Alternatives are tried in their order if what they share leaves nothing to choose. -/
theorem completion?_alternation {rs : List (Regex Atom)} (h : isDistinct rs = true) :
    (alternation rs).completion? text i = rs.findSome? (·.completion? text i) := by
  have hbuilt := isAlternation rs
  generalize alternation rs = r at hbuilt
  cases hbuilt with
  | single h => simp [h]
  | choice => rw [completion?_choice, completion?_flatMap_branches]
  | shared =>
    have hcs : ∀ c ∈ (shared rs).flatten, c.set?.isSome = true := by
      intro c hc
      obtain ⟨piece, hpiece, hc⟩ := List.mem_flatten.1 hc
      exact List.all_eq_true.1 (List.all_eq_true.1 h piece hpiece) c hc
    obtain ⟨b, hb⟩ := exists_completion?_append hcs text i
    have hrest : ∀ r ∈ rs.flatMap branches, r.completion? text i =
        if b then (ofPieces (r.pieces.drop (shared rs).length)).completion? text
          (i + (shared rs).flatten.length) else none := by
      intro r hr
      obtain ⟨rest, hrest⟩ := shared_prefix_pieces hr
      have hparts : r.parts = (shared rs).flatten ++ rest.flatten := by
        rw [← flatten_pieces, ← hrest, List.flatten_append]
      rw [← completion?_chain_parts, hparts, hb, ← hrest, List.drop_left, completion?_chain]
      rfl
    have hshared (s : Regex Atom) : ((ofPieces (shared rs)).append s).completion? text i =
        if b then s.completion? text (i + (shared rs).flatten.length) else none := by
      rw [← completion?_chain_parts, parts_append, ofPieces, parts_ofParts hcs, hb,
        completion?_chain_parts]
    have hall : rs.findSome? (·.completion? text i) = (rs.flatMap branches).findSome? fun r =>
        if b then (ofPieces (r.pieces.drop (shared rs).length)).completion? text
          (i + (shared rs).flatten.length) else none := by
      have hmap := congrArg (List.findSome? id) (List.map_congr_left hrest)
      rw [List.findSome?_map, List.findSome?_map] at hmap
      exact (completion?_flatMap_branches rs).symm.trans hmap
    rw [hshared, completion?_choice, completion?_flatMap_branches, rests, List.findSome?_map, hall]
    cases b with
    | true => rfl
    | false => exact (List.findSome?_eq_none_iff.2 fun _ _ => rfl).symm

/-- An alternation can be completed if an alternative can, whatever they share. -/
theorem isSome_completion?_alternation (rs : List (Regex Atom)) :
    ((alternation rs).completion? text i).isSome =
      (rs.findSome? (·.completion? text i)).isSome := by
  rw [Bool.eq_iff_iff, isSome_completion?_iff, passageIn_alternation, List.findSome?_isSome_iff]
  simp only [isSome_completion?_iff, Passage.anyOf_iff, List.mem_map, exists_exists_and_eq_and]
  exact ⟨fun ⟨ms, r, hr, h⟩ => ⟨r, hr, ms, h⟩, fun ⟨r, hr, ms, h⟩ => ⟨ms, r, hr, h⟩⟩

theorem findSome?_completion?_regroup (g : Nat → Nat) (rs : List (Regex Atom)) :
    (rs.map (regroup g)).findSome? (·.completion? text i) =
      (rs.findSome? (·.completion? text i)).map fun e => (e.1, e.2.map (Mark.rename g)) := by
  rw [List.findSome?_map, List.map_findSome?]
  exact congrArg (rs.findSome? ·) (funext fun r => completion?_regroup g r)

end Regex

end PathGlob

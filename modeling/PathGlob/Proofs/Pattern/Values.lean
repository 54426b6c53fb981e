-- SUMMARY: The value of a variable without constraints comes from its own declarations: it is a part of the path without a slash.
import PathGlob.Proofs.Pattern.Binding

/-!
# Values of unconstrained variables

A value is what a mark of a declaration's group takes from the path. That group has a number of its
own, whatever groups the constraints open, and an unconstrained declaration's group holds `[^/]+`.
-/

namespace PathGlob

open Regex (Ast Flags)

/-! ## Stretches without a slash -/

/-- What a passage takes is a word of its language. -/
theorem Passage.Takes.slice_mem {text : List Char} {T : Passage} {L : Language Char}
    (h : Takes text T L) {i j : Nat} {ms : List Mark} (hT : T i j ms) :
    (text.drop i).take (j - i) ∈ L := by
  obtain ⟨w, hw, hprefix, rfl⟩ := (h i j).1 ⟨ms, hT⟩
  rw [Nat.add_sub_cancel_left, ← List.prefix_iff_eq_take.1 hprefix]
  exact hw

namespace Regex

theorem Flags.mem_fold (f : Flags) {s : CharSet} {c : Char} (h : c ∈ s) : c ∈ f.fold s := by
  rw [CharSet.mem_iff] at h ⊢
  unfold fold
  split
  · split
    · rw [CharSet.foldCase, CharSet.contains_union, h, Bool.true_or]
    · rw [foldAscii, CharSet.contains_union, h, Bool.true_or]
  · exact h

/-- Whatever the flags, `[^/]+` takes characters of a set without the slash. -/
theorem alternatives_notSlashes {f f' : Flags} {rs : List (Regex Atom)}
    (h : (Ast.repetition 1 none true Pattern.notSlashAst).alternatives f = some (rs, f'))
    (text : List Char) : ∃ s : CharSet, '/' ∉ s ∧
      (alternation rs).passageIn text = .repeated 1 none (.oneOf text s) := by
  obtain ⟨⟨ss, g⟩, hset, heq⟩ := Option.bind_eq_some_iff.1 h
  cases heq
  obtain ⟨s, hs, hset⟩ := Option.bind_eq_some_iff.1 hset
  obtain ⟨t, ht, heq⟩ := Option.bind_eq_some_iff.1 hset
  cases heq
  have hslash : s = .singleton '/' := by
    have hmember : f.member? ⟨'/', false⟩ = some '/' := if_pos (Bool.or_true _)
    rw [BracketSet.resolve, hmember] at hs
    exact (Option.some.inj hs).symm
  have hmem : '/' ∈ f.fold s := f.mem_fold (by rw [hslash]; decide)
  have hcomplement : t = (f.fold s).complement := by
    unfold Flags.negate? at ht
    split at ht
    · split at ht
      · exact (Option.some.inj ht).symm
      · cases ht
    · next hnegated => exact absurd rfl hnegated
  refine ⟨t, ?_, congrArg _ (passageIn_ofSet text t _)⟩
  rw [hcomplement, CharSet.mem_iff, CharSet.contains_complement, CharSet.mem_iff.1 hmem]
  exact nofun

/-- Whatever the flags, a passage of `[^/]+` takes some text without a slash. -/
theorem slice_mem_segments {f f' : Flags} {rs : List (Regex Atom)}
    (h : (Ast.repetition 1 none true Pattern.notSlashAst).alternatives f = some (rs, f'))
    {text : List Char} {i j : Nat} {ms : List Mark} (hp : (alternation rs).passageIn text i j ms) :
    (text.drop i).take (j - i) ∈ Pattern.segments := by
  obtain ⟨s, hslash, hpassage⟩ := alternatives_notSlashes h text
  rw [hpassage] at hp
  obtain ⟨hne, hs⟩ := CharSet.mem_letters_mul_words.1
    ((Passage.takes_letters_mul_words text s).slice_mem hp)
  exact ⟨hne, fun hmem => hslash (hs '/' hmem)⟩

end Regex

/-! ## Matchers -/

namespace Matcher

/-- A value was taken by a group that a declaration of its name is bound to. -/
theorem exists_mark_of_get? {slots : List Slot} {c : Captures} {text : List Char}
    {name value : String} (h : (paramsOf slots c text).get? name = some value) :
    ∃ slot ∈ slots, slot.name = name ∧ ∃ mark, c.group? slot.group = some mark ∧
      value = .ofList (mark.slice text) := by
  rw [get?_paramsOf] at h
  obtain ⟨slot, hslot, hvalue⟩ := List.exists_of_findSome?_eq_some h
  split at hvalue
  · next hname =>
    obtain ⟨mark, hmark, heq⟩ := Option.map_eq_some_iff.1 hvalue
    exact ⟨slot, List.mem_reverse.1 hslot, hname, mark, hmark, heq.symm⟩
  · cases hvalue

section

variable {text : String} {options : Options} {m : Matcher} {p : Pattern}

namespace Stages

variable (h : m.Stages text options p) (hfits : ∀ d ∈ p.declarations, d.Fits)
include h hfits

/-- A declaration's group is the only one with its number. -/
theorem resolves_slot {n : Nat} {d : Declaration} (hd : p.declarations[n]? = some d)
    {x : CaptureNode (Regex Atom)} (hx : x ∈ m.regex.regex.nodes) (hindex : x.index = p.groupOf n) :
    Regex.Resolves ⟨p.groupOf n, some (Pattern.slotName n), d.body.shift (p.groupOf n)⟩ x := by
  obtain ⟨a, f, ha, hresolve, hkept⟩ := h.exists_tree hfits
  obtain ⟨y, hy, hresolves⟩ := (Regex.resolved_of_resolve hresolve).origin x hx
  have hslot := hkept ▸ Pattern.mem_slotNodes_groupOf hd
  have hnumber : y.index = p.groupOf n := (congrArg Prod.fst hresolves.1).symm.trans hindex
  rwa [Ast.eq_of_index_eq ha hy hslot hnumber] at hresolves

/-- The group of an unconstrained declaration takes some text without a slash. -/
theorem slice_mem_segments {n : Nat} {d : Declaration} (hd : p.declarations[n]? = some d)
    (hfree : d.constraint = none) {path : List Char} {c : Captures}
    (hc : m.regex.regex.find? path = some c) {mark : Mark}
    (hmark : c.group? (p.groupOf n) = some mark) : mark.slice path ∈ Pattern.segments := by
  have hgroup : p.groupOf n ≠ 0 := by
    unfold Pattern.groupOf
    omega
  rw [Captures.group?, if_neg hgroup] at hmark
  obtain ⟨x, hx, hnumber, inner, hpassage⟩ := Regex.exists_node_of_mem_marks
    (Regex.passageIn_of_find? hc).1 mark (List.mem_of_find?_eq_some hmark)
  have hindex : x.index = p.groupOf n := hnumber.trans (by simpa using List.find?_some hmark)
  obtain ⟨-, f, rs, f', halternatives, hbody⟩ := h.resolves_slot hfits hd hx hindex
  have hshift : d.body.shift (p.groupOf n) = .repetition 1 none true Pattern.notSlashAst := by
    rw [Pattern.body_of_constraint_eq_none hfree]
    rfl
  rw [hbody] at hpassage
  exact Regex.slice_mem_segments (hshift ▸ halternatives) hpassage

end Stages

/-- If the constraints of a pattern can stand between parentheses, then the value of a name whose
declarations have none is a part of the path that is not empty and has no slash. It was taken by the
group of one of these declarations, and no constraint opens a group with that number. -/
theorem value_of_unconstrained (hm : (Matcher.compile text options).outcome = .ok m)
    (hp : Pattern.Spells text p) (hclosed : ∀ c ∈ p.constraints, Pattern.IsClosed c.2)
    {name : String} (hfree : ∀ d ∈ p.declarations, d.name = name → d.constraint = none)
    {path value : String} (hvalue : (m.run path).get? name = some value) :
    value ≠ "" ∧ '/' ∉ value.toList ∧ value.toList <:+: path.toList ∧
      ∃ n d c mark, p.declarations[n]? = some d ∧ d.name = name ∧
        m.regex.regex.find? path.toList = some c ∧ c.group? (p.groupOf n) = some mark ∧
        value = .ofList (mark.slice path.toList) ∧
        ∀ label ∈ m.regex.regex.captures, label.1 = p.groupOf n →
          label.2 = some (Pattern.slotName n) := by
  have hstages := stages_of_spells hm hp
  have hspliceable : p.IsSpliceable := fun e he =>
    ⟨parse_of_checkConstraints hstages.constraints e he, hclosed e he⟩
  have hfits := hspliceable.fits
  obtain ⟨ps, hps, hvalue⟩ := Option.bind_eq_some_iff.1 hvalue
  unfold run at hps
  split at hps
  · cases hps
  · next c hc =>
    cases hps
    obtain ⟨slot, hslot, hname, mark, hmark, rfl⟩ := exists_mark_of_get? hvalue
    rw [hstages.slots_eq_mapIdx hfits] at hslot
    obtain ⟨n, hn, rfl⟩ := List.mem_mapIdx.1 hslot
    have hd : p.declarations[n]? = some p.declarations[n] := List.getElem?_eq_getElem hn
    obtain ⟨hne, hslash⟩ := hstages.slice_mem_segments hfits hd
      (hfree _ (List.getElem_mem hn) hname) hc hmark
    refine ⟨fun h => hne ?_, ?_, ?_, n, _, c, mark, hd, hname, hc, hmark, rfl, ?_⟩
    · simpa using congrArg String.toList h
    · rwa [String.toList_ofList]
    · rw [String.toList_ofList]
      exact (List.take_prefix _ _).isInfix.trans (List.drop_suffix _ _).isInfix
    · intro label hlabel hindex
      rw [← Regex.map_label_nodes] at hlabel
      obtain ⟨x, hx, rfl⟩ := List.mem_map.1 hlabel
      exact congrArg Prod.snd (hstages.resolves_slot hfits hd hx hindex).1

theorem value_of_unconstrained_past_named :
    ∃ m p, (Matcher.compile "{a:(?P<__var7>[0-9]+)(x)}-{b}").outcome = .ok m ∧
      Pattern.Spells "{a:(?P<__var7>[0-9]+)(x)}-{b}" p ∧
      (∀ c ∈ p.constraints, Pattern.IsClosed c.2) ∧
      (∀ d ∈ p.declarations, d.name = "b" → d.constraint = none) ∧
      (m.run "1x-yz").get? "b" = some "yz" ∧
      ("yz" ≠ "" ∧ '/' ∉ "yz".toList ∧ "yz".toList <:+: "1x-yz".toList ∧
        ∃ n d c mark, p.declarations[n]? = some d ∧ d.name = "b" ∧
          m.regex.regex.find? "1x-yz".toList = some c ∧ c.group? (p.groupOf n) = some mark ∧
          "yz" = .ofList (mark.slice "1x-yz".toList) ∧
          ∀ label ∈ m.regex.regex.captures, label.1 = p.groupOf n →
            label.2 = some (Pattern.slotName n)) := by
  have hvalue : Matcher.compiles "{a:(?P<__var7>[0-9]+)(x)}-{b}"
      (fun m => (m.run "1x-yz").get? "b" = some "yz") = true := by decide +kernel
  obtain ⟨m, hm, hvalue⟩ := Matcher.exists_of_compiles hvalue
  have hvalue := of_decide_eq_true hvalue
  obtain ⟨p, hp, hclosed, hfree⟩ : ∃ p,
      (Pattern.parse "{a:(?P<__var7>[0-9]+)(x)}-{b}").outcome = .ok p ∧
      (∀ c ∈ p.constraints, Pattern.IsClosed c.2) ∧
      (∀ d ∈ p.declarations, d.name = "b" → d.constraint = none) :=
    ⟨_, rfl, by decide +kernel, by decide +kernel⟩
  have hspells := Pattern.spells_of_parse hp
  exact ⟨m, p, hm, hspells, hclosed, hfree, hvalue,
    value_of_unconstrained hm hspells hclosed hfree hvalue⟩

/-- The constraint ends in a comment, which takes in the group of `b`. What `b` is bound to is the
group of its name within the constraint. -/
theorem value_not_of_unconstrained :
    ∃ m p value, (Matcher.compile "{a:(?P<__var1>[^,]+)(?x)#}{b}(\n)").outcome = .ok m ∧
      Pattern.Spells "{a:(?P<__var1>[^,]+)(?x)#}{b}(\n)" p ∧
      (∀ d ∈ p.declarations, d.name = "b" → d.constraint = none) ∧
      (m.run "x/yz\n").get? "b" = some value ∧ '/' ∈ value.toList := by
  have hvalue : Matcher.compiles "{a:(?P<__var1>[^,]+)(?x)#}{b}(\n)"
      (fun m => (m.run "x/yz\n").get? "b" = some "x/yz\n") = true := by decide +kernel
  obtain ⟨m, hm, hvalue⟩ := Matcher.exists_of_compiles hvalue
  obtain ⟨p, hp, hfree⟩ : ∃ p,
      (Pattern.parse "{a:(?P<__var1>[^,]+)(?x)#}{b}(\n)").outcome = .ok p ∧
      (∀ d ∈ p.declarations, d.name = "b" → d.constraint = none) :=
    ⟨_, rfl, by decide +kernel⟩
  have hspells := Pattern.spells_of_parse hp
  exact ⟨m, p, _, hm, hspells, hfree, of_decide_eq_true hvalue, by decide⟩

end

end Matcher

end PathGlob

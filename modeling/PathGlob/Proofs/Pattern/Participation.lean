-- SUMMARY: The last declaration of a name that took part in a match supplies its value.
import PathGlob.Proofs.Pattern.Binding

/-!
# Participation

A declaration takes part in a match if its slot, which is the group named for its position, has
captured something. The variables are filled slot by slot, so a name keeps the value of the last of
its declarations that took part.
-/

namespace PathGlob

/-! ## Variables -/

namespace Params

def keys (ps : Params) : List String := ps.map Prod.fst

theorem isSome_get?_iff {ps : Params} {name : String} :
    (ps.get? name).isSome ↔ name ∈ ps.keys := by
  rw [get?, keys, List.lookup_isSome_iff, List.mem_map]
  exact exists_congr fun p => and_congr_right fun _ => beq_iff_eq.trans eq_comm

theorem nodup_keys_insert {ps : Params} (h : ps.keys.Nodup) (name value : String) :
    (ps.insert name value).keys.Nodup := by
  refine List.nodup_cons.2 ⟨fun hmem => ?_, h.sublist (List.filter_sublist.map _)⟩
  obtain ⟨p, hp, hname⟩ := List.mem_map.1 hmem
  exact of_decide_eq_true (List.mem_filter.1 hp).2 hname

end Params

/-! ## Slots -/

/-- What a group captured of a text, if it took part. -/
def Captures.text? (c : Captures) (text : List Char) (group : Nat) : Option String :=
  (c.group? group).map fun mark => .ofList (mark.slice text)

theorem findSome?_reverse_eq_some_iff {α β : Type} {f : α → Option β} {xs : List α} {b : β} :
    xs.reverse.findSome? f = some b ↔ ∃ (n : Nat) (x : α), xs[n]? = some x ∧ f x = some b ∧
      ∀ k > n, ∀ y, xs[k]? = some y → f y = none := by
  rw [List.findSome?_eq_some_iff]
  constructor
  · rintro ⟨after, x, before, hsplit, hx, hafter⟩
    have hxs : xs = before.reverse ++ x :: after.reverse := by
      rw [← List.reverse_reverse xs, hsplit, List.reverse_append, List.reverse_cons,
        List.append_assoc]
      rfl
    refine ⟨before.length, x, by simp [hxs], hx, fun k hk y hy => hafter y ?_⟩
    rw [hxs, List.getElem?_append_right (by simp; omega), List.length_reverse,
      List.getElem?_cons, if_neg (by omega)] at hy
    exact List.mem_reverse.1 (List.mem_of_getElem? hy)
  · rintro ⟨n, x, hx, hb, hlater⟩
    obtain ⟨hn, rfl⟩ := List.getElem?_eq_some_iff.1 hx
    refine ⟨(xs.drop (n + 1)).reverse, xs[n], (xs.take n).reverse, ?_, hb, fun y hy => ?_⟩
    · conv_lhs => rw [← List.take_append_drop n xs, List.drop_eq_getElem_cons hn]
      rw [List.reverse_append, List.reverse_cons, List.append_assoc]
      rfl
    · obtain ⟨k, hk⟩ := List.mem_iff_getElem?.1 (List.mem_reverse.1 hy)
      rw [List.getElem?_drop] at hk
      exact hlater (n + 1 + k) (by omega) y hk

namespace Matcher

/-- What the slot of the `n`-th declaration captured of a text, if it took part. -/
def taken? (m : Matcher) (c : Captures) (text : List Char) (n : Nat) : Option String :=
  (m.regex.regex.groupNamed? (Pattern.slotName n)).bind (c.text? text)

/-- Of the declarations of a name, the `n`-th is the last one that took part. -/
structure Supplies (m : Matcher) (names : List String) (c : Captures) (text : List Char)
    (name value : String) (n : Nat) : Prop where
  declared : names[n]? = some name
  taken : m.taken? c text n = some value
  last : ∀ k > n, names[k]? = some name → m.taken? c text k = none

theorem nodup_keys_paramsOf (slots : List Slot) (c : Captures) (text : List Char) :
    (paramsOf slots c text).keys.Nodup := by
  induction slots using List.reverseRecOn with
  | nil => exact List.nodup_nil
  | append_singleton slots slot ih =>
    rw [paramsOf, List.foldl_append, List.foldl_cons, List.foldl_nil, ← paramsOf]
    cases c.group? slot.group with
    | none => exact ih
    | some mark => exact Params.nodup_keys_insert ih _ _

end Matcher

theorem exists_of_bindSlots_cons {r : Regex Atom} {n : Nat} {name : String} {names : List String}
    {slots : List Slot} (h : bindSlots r n (name :: names) = .ok slots) : ∃ group rest,
      r.groupNamed? (Pattern.slotName n) = some group ∧
      bindSlots r (n + 1) names = .ok rest ∧ slots = ⟨name, group⟩ :: rest := by
  unfold bindSlots at h
  split at h
  · cases h
  · next group hgroup =>
    cases hrest : bindSlots r (n + 1) names with
    | error e =>
      rw [hrest] at h
      cases h
    | ok rest =>
      rw [hrest] at h
      cases h
      exact ⟨group, rest, hgroup, rfl, rfl⟩

theorem names_of_bindSlots {r : Regex Atom} {n : Nat} {names : List String} {slots : List Slot}
    (h : bindSlots r n names = .ok slots) : slots.map Slot.name = names := by
  induction names generalizing n slots with
  | nil =>
    cases h
    rfl
  | cons name names ih =>
    obtain ⟨group, rest, -, hrest, rfl⟩ := exists_of_bindSlots_cons h
    exact congrArg _ (ih hrest)

/-- A slot has the name of its declaration and the group that is named for its position. -/
theorem exists_getElem?_of_bindSlots {r : Regex Atom} {n : Nat} {names : List String}
    {slots : List Slot} (h : bindSlots r n names = .ok slots) {k : Nat} {name : String}
    (hname : names[k]? = some name) : ∃ group,
      r.groupNamed? (Pattern.slotName (n + k)) = some group ∧ slots[k]? = some ⟨name, group⟩ := by
  induction names generalizing n slots k with
  | nil => cases hname
  | cons first names ih =>
    obtain ⟨group, rest, hgroup, hrest, rfl⟩ := exists_of_bindSlots_cons h
    cases k with
    | zero =>
      cases hname
      exact ⟨group, hgroup, rfl⟩
    | succ k =>
      obtain ⟨later, hlater, hslot⟩ := ih hrest hname
      exact ⟨later, by rwa [Nat.add_right_comm] at hlater, hslot⟩

/-! ## Matchers -/

section

variable {text : String} {options : Options} {m : Matcher} {p : Pattern}

namespace Matcher

namespace Stages

variable (h : m.Stages text options p)
include h

theorem variableNames_eq : m.variableNames = p.variableNames := names_of_bindSlots h.slots

/-- Every declaration has a slot. -/
theorem exists_slot {n : Nat} {name : String} (hname : p.variableNames[n]? = some name) :
    ∃ group, m.regex.regex.groupNamed? (Pattern.slotName n) = some group ∧
      m.slots[n]? = some ⟨name, group⟩ := by
  obtain ⟨group, hgroup, hslot⟩ := exists_getElem?_of_bindSlots h.slots hname
  exact ⟨group, by rwa [Nat.zero_add] at hgroup, hslot⟩

/-- Every slot is that of a declaration. -/
theorem declared_of_slot {n : Nat} {slot : Slot} (hslot : m.slots[n]? = some slot) :
    p.variableNames[n]? = some slot.name ∧
      m.regex.regex.groupNamed? (Pattern.slotName n) = some slot.group := by
  have hname : p.variableNames[n]? = some slot.name := by
    rw [← h.variableNames_eq, variableNames, List.getElem?_map, hslot]
    rfl
  obtain ⟨group, hgroup, hsame⟩ := h.exists_slot hname
  have heq := congrArg Slot.group (Option.some.inj (hslot.symm.trans hsame))
  exact ⟨hname, hgroup.trans (congrArg some heq.symm)⟩

variable {c d : Captures} {path : List Char} {name value : String}

theorem taken?_of_slot {n : Nat} {slot : Slot} (hslot : m.slots[n]? = some slot) :
    m.taken? c path n = c.text? path slot.group := by
  rw [taken?, (h.declared_of_slot hslot).2]
  rfl

theorem get?_paramsOf_eq_some_iff : (paramsOf m.slots c path).get? name = some value ↔
    ∃ n, m.Supplies p.variableNames c path name value n := by
  rw [Matcher.get?_paramsOf, findSome?_reverse_eq_some_iff]
  constructor
  · rintro ⟨n, slot, hslot, hvalue, hlater⟩
    split at hvalue
    · next hname =>
      refine ⟨n, hname ▸ (h.declared_of_slot hslot).1, (h.taken?_of_slot hslot).trans hvalue,
        fun k hk hdeclared => ?_⟩
      obtain ⟨group, -, hsame⟩ := h.exists_slot hdeclared
      have hnone := hlater k hk _ hsame
      rw [if_pos rfl] at hnone
      exact (h.taken?_of_slot hsame).trans hnone
    · cases hvalue
  · rintro ⟨n, hdeclared, hvalue, hlater⟩
    obtain ⟨group, -, hslot⟩ := h.exists_slot hdeclared
    refine ⟨n, _, hslot, (if_pos rfl).trans ((h.taken?_of_slot hslot).symm.trans hvalue),
      fun k hk slot hsame => ?_⟩
    split
    · next hname =>
      have hnone := hlater k hk (hname ▸ (h.declared_of_slot hsame).1)
      rwa [h.taken?_of_slot hsame] at hnone
    · rfl

theorem mem_keys_paramsOf_iff : name ∈ (paramsOf m.slots c path).keys ↔
    ∃ n, p.variableNames[n]? = some name ∧ (m.taken? c path n).isSome := by
  rw [← Params.isSome_get?_iff]
  constructor
  · intro hsome
    obtain ⟨value, hvalue⟩ := Option.isSome_iff_exists.1 hsome
    obtain ⟨n, hdeclared, htaken, -⟩ := h.get?_paramsOf_eq_some_iff.1 hvalue
    exact ⟨n, hdeclared, Option.isSome_of_eq_some htaken⟩
  · rintro ⟨n, hdeclared, htaken⟩
    obtain ⟨group, -, hslot⟩ := h.exists_slot hdeclared
    rw [Matcher.get?_paramsOf, List.findSome?_isSome_iff]
    refine ⟨_, List.mem_reverse.2 (List.mem_of_getElem? hslot), ?_⟩
    rw [if_pos rfl]
    rwa [h.taken?_of_slot hslot] at htaken

theorem get?_paramsOf_congr
    (hsame : ∀ n, p.variableNames[n]? = some name → m.taken? c path n = m.taken? d path n) :
    (paramsOf m.slots c path).get? name = (paramsOf m.slots d path).get? name := by
  refine Option.ext fun value => ?_
  rw [h.get?_paramsOf_eq_some_iff, h.get?_paramsOf_eq_some_iff]
  refine exists_congr fun n => ⟨fun hn => ?_, fun hn => ?_⟩
  · exact ⟨hn.declared, (hsame n hn.declared).symm.trans hn.taken, fun k hk hdeclared =>
      (hsame k hdeclared).symm.trans (hn.last k hk hdeclared)⟩
  · exact ⟨hn.declared, (hsame n hn.declared).trans hn.taken, fun k hk hdeclared =>
      (hsame k hdeclared).trans (hn.last k hk hdeclared)⟩

end Stages

/-- Of the declarations of a name, in whatever number and at whatever positions, the last one that
took part supplies its value, even if it captured nothing but the empty text. Declarations that took
no part and those of other names change nothing about it. This holds for any captures, and so for
those that the search of a path finds. -/
theorem last_participating_declaration_wins (hm : (compile text options).outcome = .ok m)
    (hp : Pattern.Spells text p) :
    m.variableNames = p.variableNames ∧
      (∀ n < p.variableNames.length,
        (m.regex.regex.groupNamed? (Pattern.slotName n)).isSome) ∧
      (∀ (path : String) c, m.regex.regex.find? path.toList = some c →
        m.run path = .matched (paramsOf m.slots c path.toList)) ∧
      ∀ path c,
        (paramsOf m.slots c path).keys.Nodup ∧
        (∀ name, name ∈ (paramsOf m.slots c path).keys ↔
          ∃ n, p.variableNames[n]? = some name ∧ (m.taken? c path n).isSome) ∧
        (∀ name value, (paramsOf m.slots c path).get? name = some value ↔
          ∃ n, m.Supplies p.variableNames c path name value n) ∧
        ∀ name d, (∀ n, p.variableNames[n]? = some name →
            m.taken? c path n = m.taken? d path n) →
          (paramsOf m.slots c path).get? name = (paramsOf m.slots d path).get? name := by
  have hstages := stages_of_spells hm hp
  refine ⟨hstages.variableNames_eq, fun n hn => ?_, fun path c hc => ?_, fun path c =>
    ⟨nodup_keys_paramsOf m.slots c path, fun _ => hstages.mem_keys_paramsOf_iff,
      fun _ _ => hstages.get?_paramsOf_eq_some_iff, fun _ _ => hstages.get?_paramsOf_congr⟩⟩
  · obtain ⟨group, hgroup, -⟩ := hstages.exists_slot (List.getElem?_eq_getElem hn)
    exact Option.isSome_of_eq_some hgroup
  · rw [run, hc]

/-- Behind `q-`, the second `a` captures the empty text, which replaces the value of the first. In
`q-y` it takes no part, and the value stays. -/
theorem last_participating_declaration_wins_empty :
    ∃ m p c, (compile "{a}-({a:x*}|y)").outcome = .ok m ∧ Pattern.Spells "{a}-({a:x*}|y)" p ∧
      m.regex.regex.find? "q-".toList = some c ∧
      (paramsOf m.slots c "q-".toList).get? "a" = some "" ∧
      m.run "q-y" = .matched [("a", "q")] ∧
      (m.variableNames = p.variableNames ∧
        (∀ n < p.variableNames.length,
          (m.regex.regex.groupNamed? (Pattern.slotName n)).isSome) ∧
        (∀ (path : String) c, m.regex.regex.find? path.toList = some c →
          m.run path = .matched (paramsOf m.slots c path.toList)) ∧
        ∀ path c,
          (paramsOf m.slots c path).keys.Nodup ∧
          (∀ name, name ∈ (paramsOf m.slots c path).keys ↔
            ∃ n, p.variableNames[n]? = some name ∧ (m.taken? c path n).isSome) ∧
          (∀ name value, (paramsOf m.slots c path).get? name = some value ↔
            ∃ n, m.Supplies p.variableNames c path name value n) ∧
          ∀ name d, (∀ n, p.variableNames[n]? = some name →
              m.taken? c path n = m.taken? d path n) →
            (paramsOf m.slots c path).get? name = (paramsOf m.slots d path).get? name) := by
  have hrun : compiles "{a}-({a:x*}|y)" (fun m =>
      ((m.regex.regex.find? "q-".toList).any fun c =>
        (paramsOf m.slots c "q-".toList).get? "a" = some "") ∧
      m.run "q-y" = .matched [("a", "q")]) = true := by decide +kernel
  obtain ⟨m, hm, hruns⟩ := exists_of_compiles hrun
  obtain ⟨hany, hstays⟩ := of_decide_eq_true hruns
  obtain ⟨c, hc, hvalue⟩ := (Option.any_eq_true _ _).1 hany
  obtain ⟨p, hp⟩ : ∃ p, (Pattern.parse "{a}-({a:x*}|y)").outcome = .ok p := ⟨_, rfl⟩
  have hspells := Pattern.spells_of_parse hp
  exact ⟨m, p, c, hm, hspells, hc, of_decide_eq_true hvalue, hstays,
    last_participating_declaration_wins hm hspells⟩

end Matcher

end

end PathGlob

-- SUMMARY: The names of variables influence nothing but the keys that their values are found under.
import PathGlob.Proofs.Pattern.Participation
import PathGlob.Proofs.Pattern.Tokens

/-!
# Renamed variables

A pattern is read twice, with its own names and with others. Of a name only the characters are
looked at, so the items that are taken are the same, and the trees that are built from them differ
in names alone. No name gets into the regex. Other names may make variables one that were two, or
two that were one, which shows when the values are collected.
-/

namespace PathGlob

/-! ## Renaming -/

def Declaration.rename (r : String → String) (d : Declaration) : Declaration :=
  { d with name := r d.name }

namespace Pattern

/-- A pattern with other names of its variables. -/
def rename (r : String → String) : Pattern → Pattern
  | .var d => .var (d.rename r)
  | .seq p q => .seq (p.rename r) (q.rename r)
  | .alt p q => .alt (p.rename r) (q.rename r)
  | .group p => .group (p.rename r)
  | .optional p => .optional (p.rename r)
  | p => p

def Item.rename (r : String → String) : Item → Item
  | .declaration name constraint => .declaration (r name) constraint
  | item => item

/-- A text with other names of its variables. Text that does not fall into items has none. -/
def renameNames (r : String → String) (text : String) : String :=
  match scan 0 text.toList with
  | .ok items => .ofList (items.flatMap fun x => (x.value.rename r).spelling)
  | .error _ => text

section

variable (r : String → String) (p : Pattern)

theorem declarations_rename :
    (p.rename r).declarations = p.declarations.map (Declaration.rename r) := by
  induction p with
  | seq p q ihp ihq | alt p q ihp ihq =>
    rw [rename, declarations, declarations, ihp, ihq, List.map_append]
  | group p ih | optional p ih => exact ih
  | _ => rfl

theorem variableNames_rename : (p.rename r).variableNames = p.variableNames.map r := by
  rw [variableNames, declarations_rename, List.map_map, variableNames, List.map_map]
  rfl

theorem constraints_rename :
    (p.rename r).constraints = p.constraints.map fun c => (r c.1, c.2) := by
  rw [constraints, declarations_rename, List.filterMap_map, constraints, List.map_filterMap]
  refine List.filterMap_congr fun d _ => ?_
  cases hc : d.constraint <;> simp [Declaration.rename, hc]

theorem arity_rename : (p.rename r).arity = p.arity := by
  rw [← length_declarations, declarations_rename, List.length_map, length_declarations]

theorem render_rename (n : Nat) : (p.rename r).render n = p.render n := by
  induction p generalizing n with
  | seq p q ihp ihq => rw [rename, render_seq, render_seq, arity_rename, ihp, ihq]
  | alt p q ihp ihq => rw [rename, render_alt, render_alt, arity_rename, ihp, ihq]
  | group p ih => rw [rename, render_group, render_group, ih]
  | optional p ih => rw [rename, render_optional, render_optional, ih]
  | _ => rfl

theorem source_rename : (p.rename r).source = p.source :=
  congrArg (fun cs => String.ofList ("^(?:".toList ++ cs ++ ")$".toList)) (render_rename r p 0)

theorem ofItems_rename (ps : List Pattern) :
    ofItems (ps.map (rename r)) = (ofItems ps).rename r := by
  rw [ofItems, List.foldl_map]
  show ps.foldl _ (rename r .empty) = rename r (ps.foldl _ .empty)
  exact List.foldl_hom (rename r) fun _ _ => rfl

end

/-! ## Levels and outlines -/

namespace Level

def rename (r : String → String) (l : Level) : Level :=
  ⟨l.branches.map (Pattern.rename r), l.items.map (Pattern.rename r)⟩

theorem toPattern_rename (r : String → String) (l : Level) :
    (l.rename r).toPattern = l.toPattern.rename r := by
  rw [toPattern, rename, ofItems_rename, List.foldl_map]
  exact List.foldl_hom (Pattern.rename r) fun _ _ => rfl

theorem takesQuantifier_rename (r : String → String) (l : Level) :
    (l.rename r).takesQuantifier = l.takesQuantifier := by
  obtain ⟨branches, items⟩ := l
  cases items with
  | nil => rfl
  | cons p items => cases p <;> rfl

theorem head?_items_rename (r : String → String) (l : Level) :
    (l.rename r).items.head? = some .anything ↔ l.items.head? = some .anything := by
  obtain ⟨branches, items⟩ := l
  cases items with
  | nil => exact Iff.rfl
  | cons p items =>
    cases p with
    | anything => exact iff_of_true rfl rfl
    | _ => exact ⟨nofun, nofun⟩

end Level

namespace Outline

/-- Whether an outline holds what another one holds, with other names. Where groups start is left
open, since names differ in length, and so are the declarations met. -/
structure Renames (r : String → String) (o o' : Outline) : Prop where
  level : o'.level = o.level.rename r
  enclosing : o'.enclosing.map Prod.snd = o.enclosing.map fun g => g.2.rename r

variable {r : String → String} {o o' o₁ : Outline} {policy : DuplicatePolicy}

namespace Renames

theorem start : Renames r {} {} := ⟨rfl, rfl⟩

theorem append (h : Renames r o o') (p : Pattern) :
    Renames r (o.append p) (o'.append (p.rename r)) where
  level := by
    rw [Outline.append, h.level]
    rfl
  enclosing := h.enclosing

/-- Where the last item of a level becomes another one. -/
theorem replace (h : Renames r o o') (p : Pattern) (rest : List Pattern) :
    Renames r { o with level.items := p :: rest }
      { o' with level.items := p.rename r :: rest.map (Pattern.rename r) } where
  level := by
    rw [h.level]
    rfl
  enclosing := h.enclosing

theorem alternate (h : Renames r o o') : Renames r o.alternate o'.alternate where
  level := by
    rw [Outline.alternate, h.level, Level.rename, ofItems_rename]
    rfl
  enclosing := h.enclosing

theorem openGroup (h : Renames r o o') (i j : Nat) :
    Renames r (o.openGroup i) (o'.openGroup j) where
  level := rfl
  enclosing := by
    rw [Outline.openGroup, List.map_cons, h.level, h.enclosing]
    rfl

theorem isBlank_iff (h : Renames r o o') : o'.IsBlank ↔ o.IsBlank := by
  rw [IsBlank, IsBlank, h.level, Level.rename, List.map_eq_nil_iff, List.map_eq_nil_iff]

theorem closeGroup (h : Renames r o o') {start : Nat} {outer : Level}
    {enclosing : List (Nat × Level)} (ho : o.enclosing = (start, outer) :: enclosing) :
    ∃ start' enclosing', o'.enclosing = (start', outer.rename r) :: enclosing' ∧
      Renames r
        { o with
          level := { outer with items := .group o.level.toPattern :: outer.items }
          enclosing }
        { o' with
          level := { outer.rename r with
            items := .group o'.level.toPattern :: (outer.rename r).items }
          enclosing := enclosing' } := by
  have hsame := h.enclosing
  rw [ho, List.map_cons] at hsame
  obtain ⟨⟨start', outer'⟩, enclosing', ho', houter, hrest⟩ := List.map_eq_cons_iff.1 hsame
  obtain rfl : outer' = outer.rename r := houter
  refine ⟨start', enclosing', ho', ?_, hrest⟩
  rw [h.level, Level.toPattern_rename]
  rfl

theorem items_eq (h : Renames r o o') {p : Pattern} {rest : List Pattern}
    (ho : o.level.items = p :: rest) :
    o'.level.items = p.rename r :: rest.map (Pattern.rename r) := by
  rw [h.level, Level.rename, ho, List.map_cons]

/-- An item that is taken is taken under other names too. -/
theorem step (hr : ∀ name : String, IsName name.toList → IsName (r name).toList)
    (h : Renames r o o') {x : Located Item} (hx : (o.step policy x).outcome = .ok o₁) (j : Nat) :
    ∃ o₂, (o'.step .lastWins ⟨j, x.value.rename r⟩).outcome = .ok o₂ ∧ Renames r o₁ o₂ := by
  cases taken_of_step hx with
  | literal hslash =>
    refine ⟨_, (Taken.literal fun hc hhead => hslash hc ?_).step, h.append _⟩
    rwa [h.level, Level.head?_items_rename] at hhead
  | directories hitems => exact ⟨_, (Taken.directories (h.items_eq hitems)).step, h.replace _ _⟩
  | @declaration _ name constraint hname hconstraint =>
    exact ⟨_, Taken.step (.declaration (hr name hname) hconstraint nofun),
      (h.append (.var ⟨name, constraint⟩)).level, h.enclosing⟩
  | groupOpen => exact ⟨_, Taken.groupOpen.step, h.openGroup _ j⟩
  | groupClose henclosing hblank =>
    obtain ⟨start', enclosing', henclosing', hclosed⟩ := h.closeGroup henclosing
    exact ⟨_, (Taken.groupClose henclosing' (mt h.isBlank_iff.1 hblank)).step, hclosed⟩
  | alternation => exact ⟨_, Taken.alternation.step, h.alternate⟩
  | optional hitems htakes =>
    rw [← Level.takesQuantifier_rename r, ← h.level] at htakes
    exact ⟨_, (Taken.optional (h.items_eq hitems) htakes).step, h.replace _ _⟩
  | _ => exact ⟨_, rfl, h.append _⟩

theorem steps (hr : ∀ name : String, IsName name.toList → IsName (r name).toList)
    (h : Renames r o o') {xs ys : List (Located Item)}
    (hvalues : ys.map Located.value = xs.map fun x => x.value.rename r)
    (hxs : (o.steps policy xs).outcome = .ok o₁) :
    ∃ o₂, (o'.steps .lastWins ys).outcome = .ok o₂ ∧ Renames r o₁ o₂ := by
  induction xs generalizing o o' ys with
  | nil =>
    rw [List.map_nil, List.map_eq_nil_iff] at hvalues
    subst hvalues
    cases hxs
    exact ⟨o', rfl, h⟩
  | cons x xs ih =>
    rw [List.map_cons] at hvalues
    obtain ⟨⟨j, item⟩, ys, rfl, rfl, hrest⟩ := List.map_eq_cons_iff.1 hvalues
    obtain ⟨o₃, hx, hxs⟩ := exists_of_steps_cons hxs
    obtain ⟨o₄, hy, h⟩ := h.step hr hx j
    obtain ⟨o₂, hys, h⟩ := ih h hrest hxs
    exact ⟨o₂, steps_cons_of_step hy hys, h⟩

theorem finish (h : Renames r o o') {p : Pattern} (ho : o.finish = .ok p) :
    o'.finish = .ok (p.rename r) := by
  obtain ⟨henclosing, rfl⟩ := finish_eq_ok_iff.1 ho
  have hsame := h.enclosing
  rw [henclosing, List.map_nil, List.map_eq_nil_iff] at hsame
  exact finish_eq_ok_iff.2 ⟨hsame, by rw [h.level, Level.toPattern_rename]⟩

end Renames

/-- Only names are taken as names. -/
theorem isCanonical_rename_of_step
    (hr : ∀ name : String, IsName name.toList → IsName (r name).toList) {x : Located Item}
    (hx : (o.step policy x).outcome = .ok o₁) (h : x.value.IsCanonical) :
    (x.value.rename r).IsCanonical := by
  cases taken_of_step hx with
  | declaration hname =>
    obtain ⟨hbrace, hcolon⟩ := (hr _ hname).delimiters_not_mem
    exact ⟨hbrace, hcolon, h.2.2⟩
  | _ => exact h

end Outline

/-! ## Texts -/

theorem head?_spelling_rename (r : String → String) (item : Item) :
    (item.rename r).spelling.head? = item.spelling.head? := by
  cases item with
  | declaration name constraint => cases constraint <;> rfl
  | _ => rfl

theorem head?_flatMap_rename (r : String → String) (items : List (Located Item)) :
    (items.flatMap fun x => (x.value.rename r).spelling).head? =
      (items.flatMap fun x => x.value.spelling).head? := by
  cases items with
  | nil => rfl
  | cons x items =>
    obtain ⟨c, cs, hspelling⟩ := List.exists_cons_of_ne_nil x.value.spelling_ne_nil
    rw [List.flatMap_cons, List.flatMap_cons, List.head?_append, List.head?_append,
      head?_spelling_rename, hspelling]
    rfl

/-- The text under other names falls into the same items, with other names. The first characters of
items stay, so no stars come together. -/
theorem Cuts.rename {r : String → String} {i : Nat} {cs : List Char} {items : List (Located Item)}
    (h : Cuts i cs items)
    (hr : ∀ x ∈ items, x.value.IsCanonical → (x.value.rename r).IsCanonical) (j : Nat) :
    ∃ ys, Cuts j (items.flatMap fun x => (x.value.rename r).spelling) ys ∧
      ys.map Located.value = items.map fun x => x.value.rename r := by
  induction h generalizing j with
  | nil => exact ⟨[], .nil, rfl⟩
  | @cons i item rest items hitem hstar hrest ih =>
    obtain ⟨hfirst, hr⟩ := List.forall_mem_cons.1 hr
    obtain ⟨ys, hys, hvalues⟩ := ih hr (j + byteLength (item.rename r).spelling)
    refine ⟨⟨j, item.rename r⟩ :: ys, .cons (hfirst hitem) (fun hwild => ?_) hys,
      congrArg (_ :: ·) hvalues⟩
    have hsame : item = .wildcard := by
      cases item with
      | wildcard => rfl
      | _ => cases hwild
    have hspelling : (items.flatMap fun x => x.value.spelling) = rest :=
      List.flatMap_assoc.symm.trans hrest.spelling_eq
    have hhead := hstar hsame
    rw [← hspelling, ← head?_flatMap_rename r] at hhead
    exact hhead

section

variable {r : String → String} (hr : ∀ name : String, IsName name.toList → IsName (r name).toList)
  {text : String} {options : Options} {p : Pattern}
include hr

/-- If repeated names are let pass, a pattern is parsed under other names too. -/
theorem parse_renameNames (hp : (parse text options).outcome = .ok p)
    (hpolicy : options.duplicates = .lastWins)
    (hlength : (renameNames r text).utf8ByteSize ≤ options.maxPatternLength.toNat) :
    (parse (renameNames r text) options).outcome = .ok (p.rename r) := by
  obtain ⟨-, o, hread, hfinish⟩ := outcome_parse_eq_ok_iff.1 hp
  obtain ⟨items, hscan, hsteps⟩ := Outline.read_eq_ok_iff.1 hread
  have hcanonical : ∀ x ∈ items, x.value.IsCanonical → (x.value.rename r).IsCanonical := by
    intro x hx
    obtain ⟨before, after, rfl⟩ := List.append_of_mem hx
    obtain ⟨o₁, -, hrest⟩ := Outline.exists_of_steps_append hsteps
    obtain ⟨_, hstep, -⟩ := Outline.exists_of_steps_cons hrest
    exact Outline.isCanonical_rename_of_step hr hstep
  obtain ⟨ys, hcuts, hvalues⟩ := (scan_eq_ok_iff.1 hscan).rename hcanonical 0
  have htext : (renameNames r text).toList =
      items.flatMap fun x => (x.value.rename r).spelling := by
    rw [renameNames, hscan]
    exact String.toList_ofList
  rw [← htext] at hcuts
  obtain ⟨o₂, hsteps₂, hrenames⟩ := Outline.Renames.start.steps hr hvalues hsteps
  rw [outcome_parse_of_scan hlength (scan_eq_ok_iff.2 hcuts), hpolicy, hsteps₂]
  exact congrArg (Except.mapError _) (hrenames.finish hfinish)

end

end Pattern

/-! ## Matchers -/

theorem bindSlots_map {r : String → String} {e : Regex Atom} {n : Nat} {names : List String}
    {slots : List Slot} (h : bindSlots e n names = .ok slots) :
    bindSlots e n (names.map r) =
      .ok (slots.map fun slot => { slot with name := r slot.name }) := by
  induction names generalizing n slots with
  | nil =>
    cases h
    rfl
  | cons name names ih =>
    obtain ⟨group, rest, hgroup, hrest, rfl⟩ := exists_of_bindSlots_cons h
    rw [List.map_cons, bindSlots, hgroup, ih hrest]
    rfl

namespace Matcher

/-- Constraints are checked one by one, whatever variable each is for. -/
theorem checkConstraints_rename {r : String → String} {p : Pattern} {text : String}
    (h : (checkConstraints text p.constraints).outcome = .ok ()) (renamed : String) :
    (checkConstraints renamed (p.rename r).constraints).outcome = .ok () := by
  rw [checkConstraints_eq_ok_iff] at h ⊢
  rw [Pattern.constraints_rename, List.forall_mem_map]
  exact h

section

variable {r : String → String}
  (hr : ∀ name : String, Pattern.IsName name.toList → Pattern.IsName (r name).toList)
  {text : String} {options : Options} {m : Matcher} {p : Pattern}
  (hm : (compile text options).outcome = .ok m) (hp : Pattern.Spells text p)
  (hpolicy : options.duplicates = .lastWins)
  (hlength : (Pattern.renameNames r text).utf8ByteSize ≤ options.maxPatternLength.toNat)
include hr hm hp hpolicy hlength

/-- Under other names a pattern compiles to the same regex, with its slots under other names. -/
theorem outcome_compile_renameNames :
    (Pattern.parse (Pattern.renameNames r text) options).outcome = .ok (p.rename r) ∧
      (compile (Pattern.renameNames r text) options).outcome =
        .ok ⟨m.regex, m.slots.map fun slot => { slot with name := r slot.name }⟩ := by
  obtain ⟨hvalid, q, hq, hconstraints, hregex, hslots⟩ := outcome_compile_eq_ok_iff.1 hm
  obtain rfl := hp.unique (Pattern.spells_of_parse hq)
  have hparse := Pattern.parse_renameNames hr hq hpolicy hlength
  refine ⟨hparse, outcome_compile_eq_ok_iff.2 ⟨hvalid, p.rename r, hparse,
    checkConstraints_rename hconstraints _, ?_, ?_⟩⟩
  · rw [Pattern.source_rename]
    exact hregex
  · rw [Pattern.variableNames_rename]
    exact bindSlots_map hslots

/-- With other names for its variables, which may coincide where they did not or differ where they
did, a pattern compiles to the same regex and matches the same paths. The value of a key is what was
captured by the last participating declaration whose name became that key. -/
theorem names_influence_only_keys :
    ∃ renamed, (compile (Pattern.renameNames r text) options).outcome = .ok renamed ∧
      Pattern.Spells (Pattern.renameNames r text) (p.rename r) ∧
      (p.rename r).constraints.map Prod.snd = p.constraints.map Prod.snd ∧
      renamed.source = m.source ∧ renamed.groupCount = m.groupCount ∧
      renamed.variableNames = m.variableNames.map r ∧
      (∀ path, renamed.isMatch path = m.isMatch path) ∧
      ∀ (path : String) c, m.regex.regex.find? path.toList = some c →
        ∃ ps, renamed.run path = .matched ps ∧ ∀ key value, ps.get? key = some value ↔
          ∃ n, m.Supplies (p.variableNames.map r) c path.toList key value n := by
  obtain ⟨hparse, hrenamed⟩ := outcome_compile_renameNames hr hm hp hpolicy hlength
  have hspells := Pattern.spells_of_parse hparse
  have hstages := stages_of_spells hrenamed hspells
  refine ⟨_, hrenamed, hspells, ?_, rfl, rfl, ?_, fun _ => rfl, fun path c hc =>
    ⟨paramsOf (m.slots.map fun slot => { slot with name := r slot.name }) c path.toList,
      by rw [run, hc], fun key value => ?_⟩⟩
  · rw [Pattern.constraints_rename, List.map_map]
    rfl
  · rw [variableNames, variableNames, List.map_map, List.map_map]
    rfl
  · rw [hstages.get?_paramsOf_eq_some_iff, Pattern.variableNames_rename]
    exact exists_congr fun n => ⟨fun h => ⟨h.declared, h.taken, h.last⟩,
      fun h => ⟨h.declared, h.taken, h.last⟩⟩

end

/-- All names become one, under which the last participating declaration is found. -/
theorem names_influence_only_keys_constant :
    Pattern.renameNames (fun _ => "k") "{a}-({b:x*}|{c})" = "{k}-({k:x*}|{k})" ∧
      ∃ m p, (compile "{a}-({b:x*}|{c})").outcome = .ok m ∧
        Pattern.Spells "{a}-({b:x*}|{c})" p ∧
        ∃ renamed, (compile (Pattern.renameNames (fun _ => "k") "{a}-({b:x*}|{c})")).outcome =
            .ok renamed ∧
          Pattern.Spells (Pattern.renameNames (fun _ => "k") "{a}-({b:x*}|{c})")
            (p.rename fun _ => "k") ∧
          (p.rename fun _ => "k").constraints.map Prod.snd = p.constraints.map Prod.snd ∧
          renamed.source = m.source ∧ renamed.groupCount = m.groupCount ∧
          renamed.variableNames = m.variableNames.map (fun _ => "k") ∧
          (∀ path, renamed.isMatch path = m.isMatch path) ∧
          ∀ (path : String) c, m.regex.regex.find? path.toList = some c →
            ∃ ps, renamed.run path = .matched ps ∧ ∀ key value, ps.get? key = some value ↔
              ∃ n, m.Supplies (p.variableNames.map fun _ => "k") c path.toList key value n := by
  have htext : Pattern.renameNames (fun _ => "k") "{a}-({b:x*}|{c})" = "{k}-({k:x*}|{k})" := by
    decide +kernel
  obtain ⟨m, hm, -⟩ := exists_of_compiles
    (show compiles "{a}-({b:x*}|{c})" (fun _ => true) = true by decide +kernel)
  obtain ⟨p, hp⟩ : ∃ p, (Pattern.parse "{a}-({b:x*}|{c})").outcome = .ok p := ⟨_, rfl⟩
  have hspells := Pattern.spells_of_parse hp
  have hname : Pattern.IsName "k".toList := .intro (by decide) nofun
  have hlength : "{k}-({k:x*}|{k})".utf8ByteSize ≤ defaultMaxPatternLength.toNat := by
    decide +kernel
  exact ⟨htext, m, p, hm, hspells, names_influence_only_keys (fun _ _ => hname) hm hspells rfl
    (htext ▸ hlength)⟩

end Matcher

end PathGlob

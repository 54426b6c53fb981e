-- SUMMARY: Parsing accepts exactly the texts of the grammar, and builds the tree the grammar gives them.
import Mathlib.Data.List.Nodup
import PathGlob.Proofs.Pattern.Outlines

/-!
# Accepted patterns

Reading a phrase of the grammar leaves an outline extended by the items of its tree (`reads`), and
an outline that was read to the end of a text has read phrases of the grammar (`split`). Both
directions are about text with more text after it, so that groups can be read inside others.
-/

namespace PathGlob.Pattern

/-- The items of a sequence. -/
def items : Pattern → List Pattern
  | .seq p q => p :: q.items
  | _ => []

theorem Derives.ofItems_items {cs : List Char} {p : Pattern} (h : Derives .sequence cs p) :
    ofItems p.items.reverse = p := by
  generalize hk : Phrase.sequence = k at h
  induction h with
  | nil => rfl
  | segment _ _ ih | directories _ ih | anything _ _ ih | cons _ _ _ ih | consOptional _ _ _ ih =>
    simpa [items, ofItems] using ih hk
  | _ => cases hk

theorem Derives.items_ne_nil {cs : List Char} {p : Pattern} (h : Derives .sequence cs p)
    (hcs : cs ≠ []) : p.items ≠ [] := by
  cases h with
  | nil => exact absurd rfl hcs
  | _ => exact List.cons_ne_nil _ _

theorem Derives.unit_ne_nil {cs : List Char} {p : Pattern} (h : Derives .unit cs p) : cs ≠ [] := by
  cases h <;> simp

theorem Derives.items_eq_nil {cs : List Char} {p : Pattern} (h : Derives .sequence cs p)
    (hcs : cs = []) : p.items = [] := by
  cases h with
  | nil => rfl
  | cons hu _ => exact absurd (List.append_eq_nil_iff.1 hcs).1 hu.unit_ne_nil
  | consOptional _ _ => exact absurd (List.append_eq_nil_iff.1 hcs).2 (List.cons_ne_nil _ _)
  | segment _ _ | directories _ | anything _ _ => cases hcs

/-- Wildcards and optional items are no units. -/
theorem Derives.unit_cases {cs : List Char} {p : Pattern} (h : Derives .unit cs p) :
    (∃ c, p = .literal c) ∨ (∃ d, p = .var d) ∨ ∃ q, p = .group q := by
  cases h with
  | fullStop | literal _ | escaped => exact .inl ⟨_, rfl⟩
  | var _ | constrained _ _ _ => exact .inr (.inl ⟨_, rfl⟩)
  | group _ _ => exact .inr (.inr ⟨_, rfl⟩)

/-! ## Declared names -/

/-- Whether further declarations may follow those met so far, which are given last one first. -/
def MayDeclare (policy : DuplicatePolicy) (declared further : List Declaration) : Prop :=
  policy = .reject → ((declared.reverse ++ further).map Declaration.name).Nodup

variable {policy : DuplicatePolicy} {declared ds es : List Declaration}

theorem MayDeclare.left (h : MayDeclare policy declared (ds ++ es)) :
    MayDeclare policy declared ds := by
  intro hp
  have := h hp
  rw [← List.append_assoc, List.map_append] at this
  exact (List.nodup_append.1 this).1

theorem MayDeclare.right (h : MayDeclare policy declared (ds ++ es)) :
    MayDeclare policy (ds.reverse ++ declared) es := by
  intro hp
  have := h hp
  simpa using this

/-! ## Steps -/

namespace Outline

/-- `?` makes a unit optional. -/
theorem makeOptional_extend {cs : List Char} {p : Pattern} (h : Derives .unit cs p)
    (o : Outline) (ds : List Declaration) (i : Nat) :
    (o.extend [p] ds).makeOptional i = .ok (o.extend [.optional p] ds) := by
  obtain ⟨c, rfl⟩ | ⟨d, rfl⟩ | ⟨q, rfl⟩ := h.unit_cases <;> rfl

theorem step_literal {o : Outline} {c : Char} {i : Nat} (h : ¬ IsReserved c)
    (hslash : c = '/' → o.level.items.head? ≠ some .anything) :
    (o.step policy ⟨i, .ofChar c⟩).outcome = .ok (o.extend [.literal c] []) := by
  rw [Item.ofChar_of_not_reserved h]
  exact (Taken.literal hslash).step

end Outline

/-! ## Phrases are read -/

/-- What reading a phrase in front of more text does to an outline. -/
def Reads (policy : DuplicatePolicy) : Phrase → List Char → Pattern → Prop
  | .unit, cs, p => ∀ (o : Outline) i rest, MayDeclare policy o.declared p.declarations →
      (cs.head? = some '/' → o.level.items.head? ≠ some .anything) →
      ∃ j, o.read policy i (cs ++ rest) = (o.extend [p] p.declarations).read policy j rest
  | .sequence, cs, p => ∀ (o : Outline) i rest, MayDeclare policy o.declared p.declarations →
      (cs.head? = some '/' → o.level.items.head? ≠ some .anything) → rest.head? ≠ some '*' →
      ∃ j, o.read policy i (cs ++ rest) = (o.extend p.items p.declarations).read policy j rest
  | .alternatives, cs, p => ∀ (o : Outline) i rest, MayDeclare policy o.declared p.declarations →
      o.level.items = [] → rest.head? ≠ some '*' →
      ∃ j l, l.toPattern = o.level.branches.foldl (fun q branch => .alt branch q) p ∧
        (cs ≠ [] ∨ o.level.branches ≠ [] → l.branches ≠ [] ∨ l.items ≠ []) ∧
        o.read policy i (cs ++ rest) =
          Outline.read policy ⟨l, o.enclosing, p.declarations.reverse ++ o.declared⟩ j rest

section

variable {cs : List Char} {p : Pattern}

theorem Reads.symbol {c : Char} (hc : c ∉ ['{', '\\', '*'])
    (h : ∀ o : Outline, (c = '/' → o.level.items.head? ≠ some .anything) → ∀ i,
      (o.step policy ⟨i, .ofChar c⟩).outcome = .ok (o.extend [p] p.declarations)) :
    Reads policy .unit [c] p := by
  intro o i rest _ hslash
  refine ⟨_, Outline.read_cons_of_step (scan_symbol hc i) (h o ?_ i)⟩
  intro heq
  exact hslash (by rw [heq]; rfl)

theorem Reads.literal {c : Char} (h : ¬ IsReserved c) : Reads policy .unit [c] (.literal c) :=
  .symbol (not_mem_of_not_reserved h) fun _ hslash _ => Outline.step_literal h hslash

theorem Reads.escaped {c : Char} : Reads policy .unit ['\\', c] (.literal c) := by
  intro o i rest _ _
  exact ⟨_, Outline.read_cons_of_step (scan.eq_5 i c rest) rfl⟩

theorem Reads.declaration {name : List Char} {constraint : Option String} (hname : IsName name)
    (hc : constraint ≠ some "")
    (hscan : ∀ i rest, ∃ j, scan i (cs ++ rest) =
      .cons i (.declaration (.ofList name) constraint) (scan j rest)) :
    Reads policy .unit cs (.var ⟨.ofList name, constraint⟩) := by
  intro o i rest hdecl _
  obtain ⟨j, hj⟩ := hscan i rest
  refine ⟨j, Outline.read_cons_of_step hj ?_⟩
  refine Outline.outcome_declare_eq_ok_iff.2 ⟨by simpa using hname, hc, fun hp => ?_, rfl⟩
  have hnodup := hdecl hp
  simp only [declarations, List.map_append, List.map_reverse] at hnodup
  intro hmem
  exact (List.nodup_append.1 hnodup).2.2 _ (List.mem_reverse.2 hmem) _ (by simp) rfl

theorem Reads.group (h : Reads policy .alternatives cs p) (hcs : cs ≠ []) :
    Reads policy .unit ('(' :: cs ++ [')']) (.group p) := by
  intro o i rest hdecl _
  obtain ⟨j, l, hl, hne, hread⟩ :=
    h (o.openGroup i) (i + ('(').utf8Size) (')' :: rest) hdecl rfl (by simp)
  refine ⟨j + (')').utf8Size, ?_⟩
  have hopen : (o.step policy ⟨i, .ofChar '('⟩).outcome = .ok (o.openGroup i) := rfl
  obtain rfl : l.toPattern = p := hl
  have hclose : Outline.Taken policy
      ⟨l, (o.openGroup i).enclosing, l.toPattern.declarations.reverse ++ (o.openGroup i).declared⟩
      ⟨j, .groupClose⟩ (o.extend [.group l.toPattern] l.toPattern.declarations) :=
    .groupClose rfl fun hblank => (hne (.inl hcs)).elim (· hblank.1) (· hblank.2)
  calc o.read policy i ('(' :: cs ++ [')'] ++ rest)
      = o.read policy i ('(' :: (cs ++ ')' :: rest)) := by simp
    _ = (o.openGroup i).read policy (i + ('(').utf8Size) (cs ++ ')' :: rest) :=
        Outline.read_cons_of_step (scan_symbol (by decide) i) hopen
    _ = _ := hread
    _ = (o.extend [.group l.toPattern] l.toPattern.declarations).read policy
          (j + (')').utf8Size) rest :=
        Outline.read_cons_of_step (scan_symbol (by decide) j) hclose.step

/-- A sequence that starts with text which is read as one item. -/
theorem Reads.cons {ds : List Char} {q : Pattern}
    (hfirst : ∀ (o : Outline) i rest, MayDeclare policy o.declared p.declarations →
      (cs.head? = some '/' → o.level.items.head? ≠ some .anything) → rest.head? ≠ some '*' →
      ∃ j, o.read policy i (cs ++ (ds ++ rest)) =
        (o.extend [p] p.declarations).read policy j (ds ++ rest))
    (hne : cs ≠ []) (hq : Reads policy .sequence ds q) (hd : ds.head? = some '/' → p ≠ .anything) :
    Reads policy .sequence (cs ++ ds) (.seq p q) := by
  intro o i rest hdecl hslash hrest
  have hhead : (cs ++ ds).head? = cs.head? := by
    cases cs with
    | nil => exact absurd rfl hne
    | cons c cs => rfl
  rw [hhead] at hslash
  obtain ⟨j, hj⟩ := hfirst o i rest hdecl.left hslash hrest
  obtain ⟨k, hk⟩ := hq (o.extend [p] p.declarations) j rest hdecl.right
    (fun h => by simpa using hd h) hrest
  refine ⟨k, ?_⟩
  rw [List.append_assoc, hj, hk, Outline.extend_extend]
  rfl

theorem Reads.wildcard {ds : List Char} {q : Pattern} {item : Item} (hp : p.declarations = [])
    (hscan : ∀ i rest, rest.head? ≠ some '*' →
      ∃ j, scan i (cs ++ (ds ++ rest)) = .cons i item (scan j (ds ++ rest)))
    (hstep : ∀ (o : Outline) i, (o.step policy ⟨i, item⟩).outcome = .ok (o.extend [p] []))
    (hne : cs ≠ []) (hq : Reads policy .sequence ds q) (hd : ds.head? = some '/' → p ≠ .anything) :
    Reads policy .sequence (cs ++ ds) (.seq p q) := by
  refine .cons (fun o i rest _ _ hrest => ?_) hne hq hd
  obtain ⟨j, hj⟩ := hscan i rest hrest
  exact ⟨j, hp ▸ Outline.read_cons_of_step hj (hstep o i)⟩

theorem Reads.directories {q : Pattern} (hq : Reads policy .sequence cs q) :
    Reads policy .sequence ('*' :: '*' :: '/' :: cs) (.seq .directories q) := by
  show Reads policy .sequence (['*', '*', '/'] ++ cs) _
  refine .cons (fun o i rest _ _ _ => ?_) (by simp) hq (by simp)
  refine ⟨i + 2 + ('/').utf8Size, ?_⟩
  have hstars : (o.step policy ⟨i, .recursiveWildcard⟩).outcome = .ok (o.append .anything) := rfl
  have hslash : ((o.append .anything).step policy ⟨i + 2, .ofChar '/'⟩).outcome =
      .ok (o.extend [.directories] []) := rfl
  rw [List.cons_append, List.cons_append, List.cons_append,
    Outline.read_cons_of_step (scan.eq_3 i _) hstars,
    Outline.read_cons_of_step (scan_symbol (by decide) (i + 2)) hslash]
  rfl

theorem Reads.optional {ds : List Char} {q : Pattern} (hp : Derives .unit cs p)
    (h : Reads policy .unit cs p) (hq : Reads policy .sequence ds q) :
    Reads policy .sequence (cs ++ '?' :: ds) (.seq (.optional p) q) := by
  have hne : cs ++ ['?'] ≠ [] := by simp
  have hcs : cs ++ '?' :: ds = cs ++ ['?'] ++ ds := by simp
  rw [hcs]
  refine .cons (fun o i rest hdecl hslash _ => ?_) hne hq (by simp)
  have hhead : (cs ++ ['?']).head? = cs.head? := by
    cases cs with
    | nil => exact absurd rfl hp.unit_ne_nil
    | cons c cs => rfl
  rw [hhead] at hslash
  obtain ⟨j, hj⟩ := h o i ('?' :: (ds ++ rest)) hdecl hslash
  refine ⟨j + ('?').utf8Size, ?_⟩
  rw [List.append_assoc, List.singleton_append, hj]
  refine Outline.read_cons_of_step (scan_symbol (by decide) j) ?_
  exact Outline.makeOptional_extend hp o _ j

theorem Reads.last (hp : Derives .sequence cs p) (h : Reads policy .sequence cs p) :
    Reads policy .alternatives cs p := by
  intro o i rest hdecl hitems hrest
  obtain ⟨j, hj⟩ := h o i rest hdecl (by simp [hitems]) hrest
  refine ⟨j, (o.extend p.items p.declarations).level, ?_, ?_, hj⟩
  · rw [Level.toPattern, Outline.items_extend, hitems, List.append_nil, hp.ofItems_items]
    rfl
  · rintro (hcs | hbranches)
    · exact .inr (by simp [hitems, hp.items_ne_nil hcs])
    · exact .inl hbranches

theorem Reads.bar {ds : List Char} {q : Pattern} (hp : Derives .sequence cs p)
    (h : Reads policy .sequence cs p) (hq : Reads policy .alternatives ds q) :
    Reads policy .alternatives (cs ++ '|' :: ds) (.alt p q) := by
  intro o i rest hdecl hitems hrest
  obtain ⟨j, hj⟩ := h o i ('|' :: (ds ++ rest)) hdecl.left (by simp [hitems]) (by simp)
  obtain ⟨k, l, hl, hne, hk⟩ := hq (o.extend p.items p.declarations).alternate
    (j + ('|').utf8Size) rest hdecl.right rfl hrest
  have hbranch : ofItems (o.extend p.items p.declarations).level.items = p := by
    rw [Outline.items_extend, hitems, List.append_nil, hp.ofItems_items]
  have hl' : l.toPattern = o.level.branches.foldl (fun q branch => .alt branch q) (.alt p q) := by
    rw [hl, Outline.alternate, hbranch]
    rfl
  refine ⟨k, l, hl', fun _ => hne (.inr (List.cons_ne_nil _ _)), ?_⟩
  have hstep : ((o.extend p.items p.declarations).step policy ⟨j, .ofChar '|'⟩).outcome =
      .ok (o.extend p.items p.declarations).alternate := rfl
  calc o.read policy i (cs ++ '|' :: ds ++ rest)
      = o.read policy i (cs ++ '|' :: (ds ++ rest)) := by simp
    _ = _ := hj
    _ = (o.extend p.items p.declarations).alternate.read policy (j + ('|').utf8Size)
          (ds ++ rest) := Outline.read_cons_of_step (scan_symbol (by decide) j) hstep
    _ = _ := hk
    _ = _ := by simp [declarations, Outline.alternate]

/-- Every phrase of the grammar is read. -/
theorem Derives.reads {k : Phrase} (h : Derives k cs p) : Reads policy k cs p := by
  induction h with
  | last hp ih => exact .last hp ih
  | bar hp _ ihp ihq => exact .bar hp ihp ihq
  | nil => exact fun o i rest _ _ _ => ⟨i, rfl⟩
  | @segment cs _ hne _ ih =>
    have hstep (o : Outline) (i : Nat) :
        (o.step policy ⟨i, .wildcard⟩).outcome = .ok (o.extend [.segment] []) := rfl
    show Reads policy .sequence (['*'] ++ cs) _
    refine .wildcard rfl (fun i rest hrest => ⟨i + ('*').utf8Size, ?_⟩) hstep (by simp) ih (by simp)
    refine scan_char (by decide) (by decide) (fun _ => ?_) i
    cases cs with
    | nil => exact hrest
    | cons c cs => exact hne
  | directories _ ih => exact .directories ih
  | @anything cs _ hne _ ih =>
    show Reads policy .sequence (['*', '*'] ++ cs) _
    exact .wildcard rfl (fun i rest _ => ⟨_, scan.eq_3 i _⟩) (fun _ _ => rfl) (by simp) ih
      (fun h => absurd h hne)
  | cons hp _ ihp ihq =>
    refine .cons (fun o i rest hdecl hslash _ => ihp o i _ hdecl hslash) hp.unit_ne_nil ihq ?_
    obtain ⟨c, rfl⟩ | ⟨d, rfl⟩ | ⟨q, rfl⟩ := hp.unit_cases <;> simp
  | consOptional hp _ ihp ihq => exact .optional hp ihp ihq
  | fullStop => exact .symbol (by decide) fun o _ i => rfl
  | literal hc => exact .literal hc
  | escaped => exact .escaped
  | group _ hne ih => exact .group ih hne
  | var hname =>
    obtain ⟨hb, hc⟩ := hname.delimiters_not_mem
    refine .declaration hname (by simp) fun i rest => ?_
    exact ⟨_, by simpa using scan_var hb hc i rest⟩
  | constrained hname hne hraw =>
    obtain ⟨hb, hc⟩ := hname.delimiters_not_mem
    refine .declaration hname ?_ fun i rest => ?_
    · intro h
      exact hne (by simpa using congrArg (Option.map String.toList) h)
    · exact ⟨_, by simpa using scan_constrained hb hc hraw i rest⟩

end

/-! ## What was read are phrases -/

/-- Whether what comes next starts an item of its own: a question mark would need an item to
apply to, and a slash would belong to the stars before it. -/
def StartsItem (o : Outline) (cs : List Char) : Prop :=
  (cs.head? = some '?' → ∀ i o', o.makeOptional i ≠ .ok o') ∧
    (cs.head? = some '/' → o.level.items.head? ≠ some .anything)

/-- A text that is read to `fin` starts with a sequence that ends where its branch does. -/
def SplitsSequence (policy : DuplicatePolicy) (fin o : Outline) (cs : List Char) : Prop :=
  ∃ as p rest j, cs = as ++ rest ∧ Derives .sequence as p ∧
    (rest = [] ∨ rest.head? = some '|' ∨ rest.head? = some ')') ∧
      (o.extend p.items p.declarations).read policy j rest = .ok fin

/-- A text that is read to `fin` starts with alternatives that end where their group does. -/
def SplitsAlternatives (policy : DuplicatePolicy) (fin o : Outline) (cs : List Char) : Prop :=
  ∃ as p rest j l, cs = as ++ rest ∧ Derives .alternatives as p ∧
    (rest = [] ∨ rest.head? = some ')') ∧
      l.toPattern = o.level.branches.foldl (fun q branch => .alt branch q) p ∧
        (as = [] → o.level.branches = [] → l.branches = [] ∧ l.items = []) ∧
          Outline.read policy ⟨l, o.enclosing, p.declarations.reverse ++ o.declared⟩ j rest =
            .ok fin

/-- Whether a text splits wherever it is read to `fin`. -/
structure Splits (policy : DuplicatePolicy) (fin : Outline) (cs : List Char) : Prop where
  sequence : ∀ (o : Outline) i, o.read policy i cs = .ok fin → StartsItem o cs →
    SplitsSequence policy fin o cs
  alternatives : ∀ (o : Outline) i, o.level.items = [] → o.read policy i cs = .ok fin →
    SplitsAlternatives policy fin o cs

section

variable {fin o : Outline} {cs : List Char} {p : Pattern} {i : Nat}

theorem SplitsSequence.nil (h : o.read policy i cs = .ok fin)
    (hcs : cs = [] ∨ cs.head? = some '|' ∨ cs.head? = some ')') :
    SplitsSequence policy fin o cs :=
  ⟨[], .empty, cs, i, rfl, .nil, hcs, h⟩

theorem SplitsSequence.cons {u : List Char}
    (h : SplitsSequence policy fin (o.extend [p] p.declarations) cs)
    (hu : ∀ as q, as <+: cs → Derives .sequence as q → Derives .sequence (u ++ as) (.seq p q)) :
    SplitsSequence policy fin o (u ++ cs) := by
  obtain ⟨as, q, rest, j, rfl, hq, hrest, hread⟩ := h
  refine ⟨u ++ as, .seq p q, rest, j, by simp, hu as q (List.prefix_append as rest) hq, hrest, ?_⟩
  rw [Outline.extend_extend] at hread
  exact hread

/-- After a unit comes either its question mark or the next item. -/
theorem SplitsSequence.unit {u : List Char} (hp : Derives .unit u p)
    (ih : ∀ ds, ds.length < (u ++ cs).length → Splits policy fin ds)
    (h : (o.extend [p] p.declarations).read policy i cs = .ok fin) :
    SplitsSequence policy fin o (u ++ cs) := by
  have hu : 0 < u.length := List.length_pos_iff.2 hp.unit_ne_nil
  by_cases hhead : cs.head? = some '?'
  · obtain ⟨ds, rfl⟩ := List.head?_eq_some_iff.1 hhead
    obtain ⟨o', hstep, hread⟩ := Outline.exists_step_of_read (scan_symbol (by decide) i) h
    have ho' : o.extend [.optional p] p.declarations = o' :=
      Except.ok.inj ((Outline.makeOptional_extend hp o p.declarations i).symm.trans hstep)
    subst ho'
    have hds : SplitsSequence policy fin (o.extend [.optional p] p.declarations) ds :=
      (ih ds (by simp; omega)).sequence _ _ hread ⟨fun _ _ _ h => (by cases h), fun _ => by simp⟩
    have := SplitsSequence.cons (u := u ++ ['?']) (p := .optional p) hds fun as q _ hq => by
      simpa using Derives.consOptional hp hq
    simpa using this
  · have hstart : StartsItem (o.extend [p] p.declarations) cs := by
      refine ⟨fun h => absurd h hhead, fun _ => ?_⟩
      obtain ⟨c, rfl⟩ | ⟨d, rfl⟩ | ⟨q, rfl⟩ := hp.unit_cases <;> simp
    have hcs := (ih cs (by simp; omega)).sequence _ _ h hstart
    exact .cons hcs fun as q _ hq => .cons hp hq

theorem SplitsSequence.declaration {name : List Char} {constraint : Option String} {u : List Char}
    (ih : ∀ ds, ds.length < (u ++ cs).length → Splits policy fin ds)
    (hscan : ∃ j, scan i (u ++ cs) = .cons i (.declaration (.ofList name) constraint) (scan j cs))
    (hu : IsName name → constraint ≠ some "" → Derives .unit u (.var ⟨.ofList name, constraint⟩))
    (h : o.read policy i (u ++ cs) = .ok fin) : SplitsSequence policy fin o (u ++ cs) := by
  obtain ⟨j, hj⟩ := hscan
  obtain ⟨o', hstep, hread⟩ := Outline.exists_step_of_read hj h
  obtain ⟨hname, hc, -, rfl⟩ := Outline.outcome_declare_eq_ok_iff.1 hstep
  exact .unit (hu (by simpa using hname) hc) ih hread

theorem SplitsSequence.group (hfin : fin.enclosing = [])
    (ih : ∀ ds, ds.length < ('(' :: cs).length → Splits policy fin ds)
    (h : o.read policy i ('(' :: cs) = .ok fin) : SplitsSequence policy fin o ('(' :: cs) := by
  obtain ⟨o', hstep, hread⟩ := Outline.exists_step_of_read (scan_symbol (by decide) i) h
  have ho' : o.openGroup i = o' := Except.ok.inj hstep
  subst ho'
  obtain ⟨as, p, rest, j, l, rfl, hp, hrest, hl, hempty, hread⟩ :=
    (ih cs (by simp)).alternatives _ _ rfl hread
  rcases hrest with rfl | hrest
  · rw [Outline.read_nil] at hread
    rw [← Except.ok.inj hread] at hfin
    cases hfin
  · obtain ⟨ds, rfl⟩ := List.head?_eq_some_iff.1 hrest
    obtain ⟨o', hstep, hread⟩ := Outline.exists_step_of_read (scan_symbol (by decide) j) hread
    have htaken : Outline.Taken policy ⟨l, (o.openGroup i).enclosing, p.declarations.reverse ++
        (o.openGroup i).declared⟩ ⟨j, .groupClose⟩ o' := Outline.taken_of_step hstep
    obtain rfl : l.toPattern = p := hl
    cases htaken with
    | groupClose henclosing hblank =>
      cases henclosing
      have has : as ≠ [] := fun hnil => hblank (hempty hnil rfl)
      have hunit : SplitsSequence policy fin o (('(' :: as ++ [')']) ++ ds) :=
        .unit (Derives.group hp has) (fun es hes => ih es (by simp at hes ⊢; omega)) hread
      simpa using hunit

theorem SplitsSequence.brace
    (ih : ∀ ds, ds.length < ('{' :: cs).length → Splits policy fin ds)
    (h : o.read policy i ('{' :: cs) = .ok fin) : SplitsSequence policy fin o ('{' :: cs) := by
  obtain ⟨items, hscan, -⟩ := Outline.read_eq_ok_iff.1 h
  obtain ⟨name, hb, hc, ⟨rest, rfl⟩ | ⟨raw, rest, rfl, hraw⟩⟩ := exists_declaration_of_scan hscan
  · have hu : '{' :: (name ++ '}' :: rest) = ('{' :: name ++ ['}']) ++ rest := by simp
    rw [hu] at h ih ⊢
    exact .declaration ih ⟨_, by simpa using scan_var hb hc i rest⟩ (fun hname _ => .var hname) h
  · have hu : '{' :: (name ++ ':' :: raw ++ '}' :: rest) =
        ('{' :: name ++ ':' :: raw ++ ['}']) ++ rest := by simp
    rw [hu] at h ih ⊢
    refine .declaration ih ⟨_, by simpa using scan_constrained hb hc hraw i rest⟩
      (fun hname hne => ?_) h
    exact .constrained hname (by rintro rfl; exact hne rfl) hraw

theorem SplitsSequence.star
    (ih : ∀ ds, ds.length < ('*' :: cs).length → Splits policy fin ds)
    (h : o.read policy i ('*' :: cs) = .ok fin) : SplitsSequence policy fin o ('*' :: cs) := by
  by_cases hstar : cs.head? = some '*'
  · obtain ⟨ds, rfl⟩ := List.head?_eq_some_iff.1 hstar
    obtain ⟨o', hstep, hread⟩ := Outline.exists_step_of_read (scan.eq_3 i ds) h
    have ho' : o.extend [.anything] [] = o' := Except.ok.inj hstep
    subst ho'
    by_cases hslash : ds.head? = some '/'
    · obtain ⟨es, rfl⟩ := List.head?_eq_some_iff.1 hslash
      obtain ⟨o', hstep, hread⟩ := Outline.exists_step_of_read (scan_symbol (by decide) _) hread
      have ho' : o.extend [.directories] [] = o' := Except.ok.inj hstep
      subst ho'
      refine .cons (u := ['*', '*', '/']) (p := .directories) ?_ fun as q _ hq => .directories hq
      have hlt : es.length < ('*' :: '*' :: '/' :: es).length := by
        simp only [List.length_cons]
        omega
      exact (ih es hlt).sequence _ _ hread ⟨fun _ _ _ h => (by cases h), fun _ => by simp⟩
    · have hlt : ds.length < ('*' :: '*' :: ds).length := by
        simp only [List.length_cons]
        omega
      refine .cons (u := ['*', '*']) (p := .anything) ?_ fun as q has hq => .anything ?_ hq
      · exact (ih ds hlt).sequence _ _ hread
          ⟨fun _ _ _ h => (by cases h), fun h => absurd h hslash⟩
      · obtain ⟨t, rfl⟩ := has
        intro (hhead : as.head? = some '/')
        exact hslash (by simp [hhead])
  · obtain ⟨o', hstep, hread⟩ := Outline.exists_step_of_read
      (scan_char (by decide) (by decide) (fun _ => hstar) i) h
    have ho' : o.extend [.segment] [] = o' := Except.ok.inj hstep
    subst ho'
    refine .cons (u := ['*']) (p := .segment) ?_ fun as q has hq => .segment ?_ hq
    · exact (ih cs (by simp)).sequence _ _ hread ⟨fun _ _ _ h => (by cases h), fun _ => by simp⟩
    · obtain ⟨t, rfl⟩ := has
      intro (hhead : as.head? = some '*')
      exact hstar (by simp [hhead])

theorem SplitsSequence.backslash
    (ih : ∀ ds, ds.length < ('\\' :: cs).length → Splits policy fin ds)
    (h : o.read policy i ('\\' :: cs) = .ok fin) : SplitsSequence policy fin o ('\\' :: cs) := by
  cases cs with
  | nil =>
    rw [Outline.read, scan.eq_4] at h
    cases h
  | cons d cs =>
    obtain ⟨o', hstep, hread⟩ := Outline.exists_step_of_read (scan.eq_5 i d cs) h
    have ho' : o.extend [.literal d] [] = o' := Except.ok.inj hstep
    subst ho'
    exact .unit (u := ['\\', d]) .escaped ih hread

/-- A character that is not reserved, a full stop, or nothing that an item can start with. -/
theorem SplitsSequence.char {c : Char} (hc : c ∉ ['|', '(', ')', '{', '*', '\\'])
    (ih : ∀ ds, ds.length < (c :: cs).length → Splits policy fin ds)
    (h : o.read policy i (c :: cs) = .ok fin) (hstart : StartsItem o (c :: cs)) :
    SplitsSequence policy fin o (c :: cs) := by
  simp only [List.mem_cons, List.not_mem_nil, or_false, not_or] at hc
  obtain ⟨hbar, hopen, hclose, hbrace, hstar, hescape⟩ := hc
  obtain ⟨o', hstep, hread⟩ :=
    Outline.exists_step_of_read (scan_symbol (by simp [hbrace, hescape, hstar]) i) h
  by_cases hstray : c = '}'
  · subst hstray
    cases hstep
  by_cases hoptional : c = '?'
  · subst hoptional
    exact absurd hstep (hstart.1 rfl i o')
  by_cases hstop : c = '.'
  · subst hstop
    have ho' : o.extend [.literal '.'] [] = o' := Except.ok.inj hstep
    subst ho'
    exact .unit (u := ['.']) .fullStop ih hread
  · have hliteral : ¬ IsReserved c := by
      simp [IsReserved, hbrace, hstray, hstar, hescape, hstop, hopen, hclose, hbar, hoptional]
    have ho' : o.extend [.literal c] [] = o' := by
      rw [Outline.step_literal hliteral fun heq => hstart.2 (by rw [heq]; rfl)] at hstep
      exact Except.ok.inj hstep
    subst ho'
    exact .unit (u := [c]) (.literal hliteral) ih hread

/-- One item in front, then the rest of its sequence. -/
theorem SplitsSequence.of_read (hfin : fin.enclosing = [])
    (ih : ∀ ds, ds.length < cs.length → Splits policy fin ds)
    (h : o.read policy i cs = .ok fin) (hstart : StartsItem o cs) :
    SplitsSequence policy fin o cs := by
  match cs with
  | [] => exact .nil h (.inl rfl)
  | c :: cs =>
    by_cases hbar : c = '|'
    · exact .nil h (.inr (.inl (by rw [hbar]; rfl)))
    by_cases hclose : c = ')'
    · exact .nil h (.inr (.inr (by rw [hclose]; rfl)))
    by_cases hopen : c = '('
    · subst hopen
      exact .group hfin ih h
    by_cases hbrace : c = '{'
    · subst hbrace
      exact .brace ih h
    by_cases hstar : c = '*'
    · subst hstar
      exact .star ih h
    by_cases hescape : c = '\\'
    · subst hescape
      exact .backslash ih h
    · exact .char (by simp [hbar, hclose, hopen, hbrace, hstar, hescape]) ih h hstart

theorem SplitsAlternatives.of_splitsSequence (hitems : o.level.items = [])
    (ih : ∀ ds, ds.length < cs.length → Splits policy fin ds)
    (h : SplitsSequence policy fin o cs) : SplitsAlternatives policy fin o cs := by
  obtain ⟨as, p, rest, j, rfl, hp, hrest, hread⟩ := h
  have hbranch : ofItems (o.extend p.items p.declarations).level.items = p := by
    rw [Outline.items_extend, hitems, List.append_nil, hp.ofItems_items]
  by_cases hbar : rest.head? = some '|'
  · obtain ⟨ds, rfl⟩ := List.head?_eq_some_iff.1 hbar
    obtain ⟨o', hstep, hread⟩ := Outline.exists_step_of_read (scan_symbol (by decide) j) hread
    have ho' : (o.extend p.items p.declarations).alternate = o' := Except.ok.inj hstep
    subst ho'
    obtain ⟨bs, q, rest, k, l, rfl, hq, hrest, hl, -, hread⟩ :=
      (ih ds (by simp; omega)).alternatives _ _ rfl hread
    refine ⟨as ++ '|' :: bs, .alt p q, rest, k, l, by simp, .bar hp hq, hrest, ?_, by simp, ?_⟩
    · rw [hl, Outline.alternate, hbranch]
      rfl
    · simpa [Outline.alternate, declarations] using hread
  · refine ⟨as, p, rest, j, (o.extend p.items p.declarations).level, rfl, .last hp, ?_, ?_, ?_,
      hread⟩
    · rcases hrest with h | h | h
      · exact .inl h
      · exact absurd h hbar
      · exact .inr h
    · rw [Level.toPattern, hbranch]
      rfl
    · intro has hb
      exact ⟨hb, by rw [Outline.items_extend, hp.items_eq_nil has, hitems]; rfl⟩

/-- Induction on the length of the text, for sequences and alternatives together: a group holds
alternatives, and each of them is a sequence. -/
theorem splits_of_read (hfin : fin.enclosing = []) (cs : List Char) : Splits policy fin cs := by
  induction hn : cs.length using Nat.strongRecOn generalizing cs with
  | _ n ih =>
    subst hn
    have hshorter (ds : List Char) (hds : ds.length < cs.length) : Splits policy fin ds :=
      ih _ hds ds rfl
    have hsequence (o : Outline) (i : Nat) (h : o.read policy i cs = .ok fin)
        (hstart : StartsItem o cs) : SplitsSequence policy fin o cs :=
      .of_read hfin hshorter h hstart
    refine ⟨hsequence, fun o i hitems h => ?_⟩
    have hstart : StartsItem o cs := by
      refine ⟨fun _ j o' => ?_, fun _ => ?_⟩
      · simp [Outline.makeOptional, hitems]
      · simp [hitems]
    exact .of_splitsSequence hitems hshorter (hsequence o i h hstart)

end

/-! ## Whole texts -/

theorem exists_read_of_spells {text : String} {p : Pattern} (h : Spells text p)
    (hnames : policy = .reject → p.variableNames.Nodup) :
    ∃ o, Outline.read policy {} 0 text.toList = .ok o ∧ o.finish = .ok p := by
  have hdecl : MayDeclare policy (Outline.declared {}) p.declarations := hnames
  obtain ⟨j, l, hl, -, hread⟩ := (h.reads : Reads policy _ _ _) {} 0 [] hdecl rfl (by simp)
  rw [List.append_nil, Outline.read_nil] at hread
  exact ⟨_, hread, Outline.finish_eq_ok_iff.2 ⟨rfl, hl⟩⟩

theorem spells_of_read {text : String} {o : Outline} {p : Pattern}
    (hread : Outline.read policy {} 0 text.toList = .ok o) (hfinish : o.finish = .ok p) :
    Spells text p ∧ o.declared = p.declarations.reverse := by
  obtain ⟨hfin, rfl⟩ := Outline.finish_eq_ok_iff.1 hfinish
  obtain ⟨as, q, rest, j, l, htext, hq, hrest, hl, -, hread⟩ :=
    (splits_of_read hfin text.toList).alternatives {} 0 rfl hread
  rcases hrest with rfl | hrest
  · rw [Outline.read_nil] at hread
    have ho : l = o.level ∧ q.declarations.reverse ++ [] = o.declared := by
      rw [← Except.ok.inj hread]
      exact ⟨rfl, rfl⟩
    rw [← ho.1, ← ho.2, show l.toPattern = q from hl, List.append_nil, Spells, htext,
      List.append_nil]
    exact ⟨hq, rfl⟩
  · -- A parenthesis that is left over closes no group.
    obtain ⟨ds, rfl⟩ := List.head?_eq_some_iff.1 hrest
    obtain ⟨o', hstep, -⟩ := Outline.exists_step_of_read (scan_symbol (by decide) j) hread
    cases hstep

theorem nodup_variableNames_of_read {text : String} {o : Outline} {p : Pattern}
    (hread : Outline.read .reject {} 0 text.toList = .ok o) (hfinish : o.finish = .ok p) :
    p.variableNames.Nodup := by
  obtain ⟨items, -, hsteps⟩ := Outline.read_eq_ok_iff.1 hread
  have hnodup := Outline.nodup_declared_of_steps hsteps .nil
  rw [(spells_of_read hread hfinish).2, List.map_reverse, List.nodup_reverse] at hnodup
  exact hnodup

/-- The trees that a text is parsed into are those it spells. -/
theorem outcome_parse_eq_ok_iff_spells {text : String} {options : Options} {p : Pattern} :
    (parse text options).outcome = .ok p ↔
      text.utf8ByteSize ≤ options.maxPatternLength.toNat ∧ Spells text p ∧
        (options.duplicates = .reject → p.variableNames.Nodup) := by
  rw [outcome_parse_eq_ok_iff]
  refine and_congr_right fun _ => ⟨?_, fun ⟨h, hnames⟩ => exists_read_of_spells h hnames⟩
  rintro ⟨o, hread, hfinish⟩
  refine ⟨(spells_of_read hread hfinish).1, fun hpolicy => ?_⟩
  rw [hpolicy] at hread
  exact nodup_variableNames_of_read hread hfinish

theorem spells_of_parse {text : String} {options : Options} {p : Pattern}
    (h : (parse text options).outcome = .ok p) : Spells text p :=
  (outcome_parse_eq_ok_iff_spells.1 h).2.1

/-- A text spells one tree at most. -/
theorem Spells.unique {text : String} {p q : Pattern} (hp : Spells text p) (hq : Spells text q) :
    p = q := by
  have h {r : Pattern} (hr : Spells text r) :
      ∃ o, Outline.read .lastWins {} 0 text.toList = .ok o ∧ o.finish = .ok r :=
    exists_read_of_spells hr nofun
  obtain ⟨o, ho, hop⟩ := h hp
  obtain ⟨o', ho', hoq⟩ := h hq
  rw [ho] at ho'
  cases ho'
  exact Except.ok.inj (hop.symm.trans hoq)

/-- Parsing accepts the texts of the grammar that are short enough and, if repeated names are
refused, declare no name twice; and nothing else. -/
theorem parse_accepts_iff (text : String) (options : Options) :
    (∃ p, (parse text options).outcome = .ok p) ↔
      text.utf8ByteSize ≤ options.maxPatternLength.toNat ∧
        ∃ p, Spells text p ∧ (options.duplicates = .reject → p.variableNames.Nodup) := by
  simp only [outcome_parse_eq_ok_iff_spells, exists_and_left]

end PathGlob.Pattern

-- SUMMARY: Patterns written one after the other are translated to their translations one after the other.
import PathGlob.Proofs.Pattern.Acceptance
import PathGlob.Proofs.Pattern.Rendering
import PathGlob.Proofs.Pattern.Tokens

/-!
# Juxtaposition

Two patterns written one after the other share the sequence where they meet: the last alternative of
the first goes on with the first alternative of the second. The trees are joined there by induction
on how the first text is derived. The seam is in the way only of stars, which would pair up anew,
and of a slash that would belong to the stars before it.
-/

namespace PathGlob.Pattern

/-! ## Rendered patterns -/

/-- A part of a rendered pattern: text, or the name of a slot, given by its number. -/
inductive Fragment where
  | text (cs : List Char)
  | slot (n : Nat)

namespace Fragment

def chars : Fragment → List Char
  | .text cs => cs
  | .slot n => (slotName n).toList

/-- Raises the numbers of slots. -/
def raise (k : Nat) : Fragment → Fragment
  | .text cs => .text cs
  | .slot n => .slot (n + k)

end Fragment

/-- A rendered pattern whose first slot is the `n`-th. Constraints are text, whatever they hold. -/
def fragments (n : Nat) : Pattern → List Fragment
  | .empty => []
  | .literal c => [.text (quoteChar c)]
  | .segment => [.text segmentWildcard.toList]
  | .directories => [.text nestedDirectories.toList]
  | .anything => [.text anyPath.toList]
  | .var d =>
    [.text "(?P<".toList, .slot n,
      .text ('>' :: (d.constraint.getD defaultVariable).toList ++ [')'])]
  | .seq p q => p.fragments n ++ q.fragments (n + p.arity)
  | .alt p q => p.fragments n ++ .text ['|'] :: q.fragments (n + p.arity)
  | .group p => .text "(?:".toList :: p.fragments n ++ [.text [')']]
  | .optional p => p.fragments n ++ [.text ['?']]

/-- What stands between the anchors of a regex source. -/
def enclose (body : List Fragment) : String :=
  .ofList ("^(?:".toList ++ body.flatMap Fragment.chars ++ ")$".toList)

variable {p q r : Pattern} {n : Nat}

theorem render_eq_flatMap (p : Pattern) (n : Nat) :
    p.render n = (p.fragments n).flatMap Fragment.chars := by
  induction p generalizing n with
  | empty => rfl
  | literal _ | segment | directories | anything => exact (List.append_nil _).symm
  | var d => simp [render_var, fragments, Fragment.chars, Declaration.source]
  | seq p q ihp ihq => simp [render_seq, fragments, ihp, ihq]
  | alt p q ihp ihq => simp [render_alt, fragments, Fragment.chars, ihp, ihq]
  | group p ih => simp [render_group, fragments, Fragment.chars, ih]
  | optional p ih => simp [render_optional, fragments, Fragment.chars, ih]

theorem source_eq_enclose (p : Pattern) : p.source = enclose (p.fragments 0) :=
  congrArg (fun cs => String.ofList ("^(?:".toList ++ cs ++ ")$".toList)) (render_eq_flatMap p 0)

theorem fragments_add (p : Pattern) (n k : Nat) :
    p.fragments (n + k) = (p.fragments n).map (Fragment.raise k) := by
  induction p generalizing n with
  | seq p q ihp ihq | alt p q ihp ihq =>
    simp [fragments, Fragment.raise, ihp, ← ihq, Nat.add_right_comm]
  | group p ih | optional p ih => simp [fragments, Fragment.raise, ih]
  | _ => simp [fragments, Fragment.raise]

/-! ## Joined trees -/

/-- Whether a pattern is a sequence, with no bar between its items. -/
inductive IsSequence : Pattern → Prop
  | empty : IsSequence .empty
  | seq (x : Pattern) {p : Pattern} : IsSequence p → IsSequence (.seq x p)

theorem Derives.isSequence {cs : List Char} (h : Derives .sequence cs p) : p.IsSequence := by
  generalize hk : Phrase.sequence = k at h
  induction h with
  | nil => exact .empty
  | segment _ _ ih | directories _ ih | anything _ _ ih | cons _ _ _ ih | consOptional _ _ _ ih =>
    exact .seq _ (ih hk)
  | _ => cases hk

/-- The items of a sequence, then another pattern. -/
def andThen : Pattern → Pattern → Pattern
  | .seq x p, q => .seq x (p.andThen q)
  | _, q => q

/-- Whether a tree stands for the text of one followed by that of another. -/
structure Juxtaposes (p q r : Pattern) : Prop where
  fragments : ∀ n, r.fragments n = p.fragments n ++ q.fragments (n + p.arity)
  declarations : r.declarations = p.declarations ++ q.declarations

namespace Juxtaposes

theorem empty (q : Pattern) : Juxtaposes .empty q q := ⟨fun _ => rfl, rfl⟩

theorem seq (x : Pattern) (h : Juxtaposes p q r) : Juxtaposes (.seq x p) q (.seq x r) where
  fragments n := by simp [Pattern.fragments, arity, h.fragments, Nat.add_assoc]
  declarations := by simp [Pattern.declarations, h.declarations]

theorem alt (x : Pattern) (h : Juxtaposes p q r) : Juxtaposes (.alt x p) q (.alt x r) where
  fragments n := by simp [Pattern.fragments, arity, h.fragments, Nat.add_assoc]
  declarations := by simp [Pattern.declarations, h.declarations]

theorem alt_right (h : Juxtaposes p q r) (x : Pattern) : Juxtaposes p (.alt q x) (.alt r x) where
  fragments n := by
    have harity : r.arity = p.arity + q.arity := by
      rw [← length_declarations, h.declarations, List.length_append, length_declarations,
        length_declarations]
    simp [Pattern.fragments, h.fragments, harity, Nat.add_assoc]
  declarations := by simp [Pattern.declarations, h.declarations]

end Juxtaposes

theorem IsSequence.juxtaposes (h : p.IsSequence) (q : Pattern) :
    Juxtaposes p q (p.andThen q) := by
  induction h with
  | empty => exact .empty q
  | seq x _ ih => exact ih.seq x

/-- The last item of the last alternative. -/
def lastItem? : Pattern → Option Pattern
  | .alt _ q => q.lastItem?
  | p => p.items.getLast?

/-- Whether text behind an item leaves it the item that it is. -/
def Meets (item : Option Pattern) (cs : List Char) : Prop :=
  (item = some .segment → cs.head? ≠ some '*') ∧ (item = some .anything → cs.head? ≠ some '/')

section

variable {cs ds : List Char}

theorem Meets.of_append {item : Option Pattern} (h : Meets item (cs ++ ds)) : Meets item cs := by
  cases cs with
  | nil => exact ⟨fun _ => by simp, fun _ => by simp⟩
  | cons c cs => exact h

theorem Meets.tail {x : Pattern} {xs : List Pattern} (h : Meets (x :: xs).getLast? cs) :
    Meets xs.getLast? cs := by
  cases xs with
  | nil => exact ⟨nofun, nofun⟩
  | cons y ys => exact h

/-- What follows an item of a sequence is the rest of the sequence, or what stands behind it. -/
theorem Derives.head?_append {x : Pattern} {c : Char} (h : Derives .sequence cs p)
    (hcs : cs.head? ≠ some c) (hds : (x :: p.items).getLast? = some x → ds.head? ≠ some c) :
    (cs ++ ds).head? ≠ some c := by
  cases cs with
  | nil =>
    refine hds ?_
    rw [h.items_eq_nil rfl]
    rfl
  | cons d cs => exact hcs

theorem Derives.andThen (hp : Derives .sequence cs p) (hq : Derives .sequence ds q)
    (hmeets : Meets p.items.getLast? ds) : Derives .sequence (cs ++ ds) (p.andThen q) := by
  generalize hk : Phrase.sequence = k at hp
  induction hp with
  | nil => exact hq
  | segment hstar hp ih =>
    exact .segment (hp.head?_append hstar hmeets.1) (ih hmeets.tail hk)
  | directories _ ih => exact .directories (ih hmeets.tail hk)
  | anything hslash hp ih =>
    exact .anything (hp.head?_append hslash hmeets.2) (ih hmeets.tail hk)
  | cons hx _ _ ih => simpa [Pattern.andThen] using Derives.cons hx (ih hmeets.tail hk)
  | consOptional hx _ _ ih =>
    simpa [Pattern.andThen] using Derives.consOptional hx (ih hmeets.tail hk)
  | _ => cases hk

theorem Derives.lastItem?_sequence (h : Derives .sequence cs p) :
    p.lastItem? = p.items.getLast? := by
  cases h <;> rfl

theorem Derives.exists_juxtaposes (hp : Derives .alternatives cs p)
    (hq : Derives .alternatives ds q) (hmeets : Meets p.lastItem? ds) :
    ∃ r, Derives .alternatives (cs ++ ds) r ∧ Juxtaposes p q r := by
  generalize hk : Phrase.alternatives = k at hp
  induction hp with
  | last hp =>
    rw [hp.lastItem?_sequence] at hmeets
    cases hq with
    | last hq =>
      exact ⟨_, .last (hp.andThen hq hmeets), hp.isSequence.juxtaposes _⟩
    | bar hq hrest =>
      have hr := hp.andThen hq hmeets.of_append
      exact ⟨_, by simpa using hr.bar hrest, (hp.isSequence.juxtaposes _).alt_right _⟩
  | bar hp _ _ ih =>
    obtain ⟨r, hr, h⟩ := ih hmeets hk
    exact ⟨_, by simpa using hp.bar hr, h.alt _⟩
  | _ => cases hk

end

/-! ## The last token -/

namespace Outline

variable {policy : DuplicatePolicy} {o o' : Outline} {x : Located Item}

/-- Wildcards stand last in a branch where their own item was taken last. -/
theorem value_of_head?_items (h : (o.step policy x).outcome = .ok o') :
    (o'.level.items.head? = some .segment → x.value = .wildcard) ∧
      (o'.level.items.head? = some .anything → x.value = .recursiveWildcard) := by
  cases taken_of_step h with
  | wildcard => exact ⟨fun _ => rfl, nofun⟩
  | recursiveWildcard => exact ⟨nofun, fun _ => rfl⟩
  | _ => exact ⟨nofun, nofun⟩

end Outline

theorem items_ofItems (xs : List Pattern) : (ofItems xs).items = xs.reverse := by
  have h (xs : List Pattern) (p : Pattern) :
      (xs.foldl (fun p item => .seq item p) p).items = xs.reverse ++ p.items := by
    induction xs generalizing p with
    | nil => rfl
    | cons x xs ih => simp [ih, items]
  exact (h xs .empty).trans (List.append_nil _)

theorem lastItem?_ofItems (xs : List Pattern) : (ofItems xs).lastItem? = xs.head? := by
  have h : (ofItems xs).lastItem? = (ofItems xs).items.getLast? := by
    rcases List.eq_nil_or_concat xs with rfl | ⟨ys, y, rfl⟩
    · rfl
    · simp [ofItems, lastItem?]
  rw [h, items_ofItems, List.getLast?_reverse]

theorem lastItem?_toPattern (l : Level) : l.toPattern.lastItem? = l.items.head? := by
  have h (branches : List Pattern) (p : Pattern) :
      (branches.foldl (fun p branch => .alt branch p) p).lastItem? = p.lastItem? := by
    induction branches generalizing p with
    | nil => rfl
    | cons branch branches ih => exact ih (.alt branch p)
  rw [Level.toPattern, h, lastItem?_ofItems]

/-- Whether the last token of a text is a given one. -/
def EndsWith (text : String) (token : Token) : Prop :=
  ∃ tokens i, (tokenize text).outcome = .ok (tokens ++ [⟨i, token⟩])

variable {options : Options}

theorem meets_of_parse {text : String} {cs : List Char}
    (h : (parse text options).outcome = .ok p)
    (hstar : ¬ (EndsWith text .wildcard ∧ cs.head? = some '*'))
    (hslash : ¬ (EndsWith text .recursiveWildcard ∧ cs.head? = some '/')) :
    Meets p.lastItem? cs := by
  obtain ⟨-, o, hread, hfinish⟩ := outcome_parse_eq_ok_iff.1 h
  obtain ⟨-, rfl⟩ := Outline.finish_eq_ok_iff.1 hfinish
  rw [lastItem?_toPattern]
  obtain ⟨items, hscan, hsteps⟩ := Outline.read_eq_ok_iff.1 hread
  obtain ⟨-, rfl⟩ | ⟨xs, x, o₁, rfl, -, hx⟩ := Outline.eq_or_exists_last_of_steps hsteps
  · simp [Meets]
  · obtain ⟨hsegment, hanything⟩ := Outline.value_of_head?_items hx
    have htokens := outcome_tokenize_eq_ok_iff.2 ⟨_, scan_eq_ok_iff.1 hscan, rfl⟩
    rw [List.flatMap_append] at htokens
    refine ⟨fun hitem hhead => hstar ⟨?_, hhead⟩, fun hitem hhead => hslash ⟨?_, hhead⟩⟩
    · obtain ⟨i, item⟩ := x
      obtain rfl : item = .wildcard := hsegment hitem
      exact ⟨_, _, htokens⟩
    · obtain ⟨i, item⟩ := x
      obtain rfl : item = .recursiveWildcard := hanything hitem
      exact ⟨_, _, htokens⟩

/-! ## Whole texts -/

/-- Two accepted patterns written one after the other are accepted if they are not too long, unless
stars of the first would take a star or a slash of the second. Their sources stand one after the
other within the anchors, with the slots of the second numbered after those of the first. -/
theorem parse_append {first second : String} (hpolicy : options.duplicates = .lastWins)
    (hp : (parse first options).outcome = .ok p) (hq : (parse second options).outcome = .ok q)
    (hlength : (first ++ second).utf8ByteSize ≤ options.maxPatternLength.toNat)
    (hstar : ¬ (EndsWith first .wildcard ∧ second.toList.head? = some '*'))
    (hslash : ¬ (EndsWith first .recursiveWildcard ∧ second.toList.head? = some '/')) :
    ∃ r, (parse (first ++ second) options).outcome = .ok r ∧
      p.source = enclose (p.fragments 0) ∧ q.source = enclose (q.fragments 0) ∧
      r.source =
        enclose (p.fragments 0 ++ (q.fragments 0).map (Fragment.raise p.variableNames.length)) ∧
      r.variableNames = p.variableNames ++ q.variableNames ∧
      r.constraints = p.constraints ++ q.constraints := by
  have hmeets := meets_of_parse hp hstar hslash
  obtain ⟨r, hr, h⟩ :=
    Derives.exists_juxtaposes (spells_of_parse hp) (spells_of_parse hq) hmeets
  refine ⟨r, ?_, source_eq_enclose p, source_eq_enclose q, ?_, ?_, ?_⟩
  · refine outcome_parse_eq_ok_iff_spells.2 ⟨hlength, ?_, fun hreject => ?_⟩
    · rwa [Spells, String.toList_append]
    · rw [hpolicy] at hreject
      cases hreject
  · rw [source_eq_enclose, h.fragments, fragments_add, variableNames, List.length_map,
      length_declarations]
  · rw [variableNames, h.declarations, List.map_append]
    rfl
  · rw [constraints, h.declarations, List.filterMap_append]
    rfl

/-- A constraint that holds the name of a slot keeps it. -/
theorem parse_append_slot : ∃ p q r,
    (parse "\x7ba\x7d|*").outcome = .ok p ∧ (parse "\x7bb:(?P<__var0>c)\x7d/**").outcome = .ok q ∧
      (parse ("\x7ba\x7d|*" ++ "\x7bb:(?P<__var0>c)\x7d/**")).outcome = .ok r ∧
      r.source = "^(?:(?P<__var0>[^/]+)|[^/]*(?P<__var1>(?P<__var0>c))/.*)$" ∧
      r.variableNames = ["a", "b"] := by
  have hp : (parse "\x7ba\x7d|*").outcome =
      .ok (.alt (.seq (.var ⟨"a", none⟩) .empty) (.seq .segment .empty)) := rfl
  have hq : (parse "\x7bb:(?P<__var0>c)\x7d/**").outcome =
      .ok (.seq (.var ⟨"b", some "(?P<__var0>c)"⟩) (.seq (.literal '/') (.seq .anything .empty))) :=
    rfl
  obtain ⟨r, hr, -, -, hsource, hnames, -⟩ := parse_append rfl hp hq (by decide)
    (fun h => absurd h.2 (by decide)) fun h => absurd h.2 (by decide)
  exact ⟨_, _, r, hp, hq, hr, hsource.trans rfl, hnames⟩

end PathGlob.Pattern

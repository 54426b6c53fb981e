-- SUMMARY: A backslash in front of an ordinary character changes nothing but the offsets behind it.
import PathGlob.Proofs.Pattern.Juxtaposition

/-!
# Needless escapes

A backslash puts a byte into a text, so what is behind it moves. An outline only keeps offsets and
hands them on, so taking items commutes with any change of their offsets. An escaped character is
then taken as the plain one is, with one exception: only a plain slash joins the stars before it.
-/

namespace PathGlob.Pattern

/-! ## Relocation -/

/-- A fault with its offset, if it has one, changed by `g`. -/
def Fault.relocate (g : Nat → Nat) : Fault → Fault
  | .loneEscape i => .loneEscape (g i)
  | .unterminatedVariable i => .unterminatedVariable (g i)
  | .unexpectedBrace i => .unexpectedBrace (g i)
  | .unexpectedParenthesis i => .unexpectedParenthesis (g i)
  | .unterminatedGroup i => .unterminatedGroup (g i)
  | .emptyGroup i => .emptyGroup (g i)
  | .danglingQuantifier i => .danglingQuantifier (g i)
  | .missingName i => .missingName (g i)
  | f => f

def Located.relocate {α : Type} (g : Nat → Nat) (x : Located α) : Located α := ⟨g x.index, x.value⟩

/-- A text that starts elsewhere falls into the same items. -/
theorem Cuts.relocate {g : Nat → Nat} {i j : Nat} {cs : List Char} {items : List (Located Item)}
    (h : Cuts i cs items) (hg : ∀ k ≤ byteLength cs, g (i + k) = j + k) :
    Cuts j cs (items.map (Located.relocate g)) := by
  induction h generalizing j with
  | nil => exact .nil
  | @cons i item rest items hitem hstar _ ih =>
    rw [byteLength_append] at hg
    have hi : g i = j := hg 0 (Nat.zero_le _)
    have hrest := ih (j := j + byteLength item.spelling) fun k hk => by
      rw [Nat.add_assoc, Nat.add_assoc]
      exact hg _ (by omega)
    rw [List.map_cons, Located.relocate, hi]
    exact .cons hitem hstar hrest

theorem checkName_relocate (g : Nat → Nat) (start : Nat) (name : String) :
    checkName (g start) name = (checkName start name).mapError (Fault.relocate g) := by
  unfold checkName
  cases name.toList with
  | nil => rfl
  | cons first rest =>
    dsimp only
    split
    · cases rest.find? fun c => !isNameChar c <;> rfl
    · rfl

theorem Declaration.check_relocate (g : Nat → Nat) (start : Nat) (d : Declaration) :
    Declaration.check (g start) d =
      (Declaration.check start d).mapError (Fault.relocate g) := by
  rw [check, check, checkName_relocate]
  cases checkName start d.name with
  | error f => rfl
  | ok _ =>
    show (if _ then _ else _) = Except.mapError _ (if _ then _ else _)
    split <;> rfl

namespace Outline

/-- An outline with the starts of its open groups changed by `g`. -/
def relocate (g : Nat → Nat) (o : Outline) : Outline :=
  { o with enclosing := o.enclosing.map fun e => (g e.1, e.2) }

/-- What comes of items whose offsets are changed by `g`. -/
def relocated (g : Nat → Nat) (result : Except Fault Outline) : Except Fault Outline :=
  (result.mapError (Fault.relocate g)).map (relocate g)

section

variable (policy : DuplicatePolicy) (g : Nat → Nat) (o : Outline)

theorem slash_relocate : (o.relocate g).slash = o.slash.relocate g := by
  obtain ⟨⟨branches, items⟩, enclosing, declared⟩ := o
  cases items with
  | nil => rfl
  | cons p items => cases p <;> rfl

theorem makeOptional_relocate (i : Nat) :
    (o.relocate g).makeOptional (g i) = relocated g (o.makeOptional i) := by
  obtain ⟨⟨branches, items⟩, enclosing, declared⟩ := o
  cases items with
  | nil => rfl
  | cons p items => cases p <;> rfl

theorem closeGroup_relocate (i : Nat) :
    (o.relocate g).closeGroup (g i) = relocated g (o.closeGroup i) := by
  obtain ⟨⟨branches, items⟩, enclosing, declared⟩ := o
  cases enclosing with
  | nil => rfl
  | cons e enclosing =>
    cases hblank : branches.isEmpty && items.isEmpty <;>
      simp only [closeGroup, relocate, List.map_cons, hblank] <;> rfl

theorem declare_relocate (start : Nat) (d : Declaration) :
    ((o.relocate g).declare policy (g start) d).outcome =
      relocated g (o.declare policy start d).outcome := by
  rw [declare, declare, Traced.outcome_bind, Traced.outcome_bind, Traced.outcome_ofExcept,
    Traced.outcome_ofExcept, Declaration.check_relocate]
  cases Declaration.check start d with
  | error f => rfl
  | ok _ =>
    cases hany : o.declared.any fun e => e.name = d.name with
    | false =>
      simp only [Except.mapError, Except.bind, relocate, hany]
      rfl
    | true =>
      simp only [Except.mapError, Except.bind, relocate, hany]
      cases policy <;> rfl

theorem step_relocate (x : Located Item) :
    ((o.relocate g).step policy (x.relocate g)).outcome =
      relocated g (o.step policy x).outcome := by
  obtain ⟨i, item⟩ := x
  cases item with
  | literal c =>
    by_cases hc : c = '/'
    · subst hc
      exact congrArg Except.ok (slash_relocate g o)
    · simp only [step, Located.relocate, hc, if_false]
      rfl
  | declaration name constraint => exact declare_relocate policy g o i _
  | groupClose => exact closeGroup_relocate g o i
  | optional => exact makeOptional_relocate g o i
  | _ => rfl

/-- Items with other offsets are taken alike. -/
theorem steps_relocate (items : List (Located Item)) :
    ((o.relocate g).steps policy (items.map (Located.relocate g))).outcome =
      relocated g (o.steps policy items).outcome := by
  induction items generalizing o with
  | nil => rfl
  | cons x items ih =>
    rw [List.map_cons, steps, steps, Traced.outcome_bind, Traced.outcome_bind, step_relocate]
    cases (o.step policy x).outcome with
    | error f => rfl
    | ok o' => exact ih o'

theorem finish_relocate : (o.relocate g).finish = o.finish.mapError (Fault.relocate g) := by
  rw [finish, finish, relocate, List.getLast?_map]
  cases o.enclosing.getLast? <;> rfl

end

end Outline

/-! ## Ordinary characters -/

/-- The character that a token stands for, if it does so without a backslash. -/
def Token.unescaped? : Token → Option Char
  | .literal c => some c
  | .fullStop => some '.'
  | _ => none

section

variable {t : Token} {c : Char} {i : Nat} {item : Item}

theorem Token.spelling_of_unescaped? (h : t.unescaped? = some c) : t.spelling = [c] := by
  cases t with
  | literal d | fullStop =>
    cases h
    rfl
  | _ => cases h

/-- Ordinary characters are items by themselves. -/
theorem Item.tokens_of_unescaped? (h : t.unescaped? = some c) (hmem : t ∈ item.tokens) :
    item.tokens = [t] := by
  cases item with
  | declaration name constraint =>
    cases constraint <;>
      (simp only [tokens, List.mem_cons, List.not_mem_nil, or_false] at hmem
       rcases hmem with rfl | rfl | rfl | rfl | rfl <;> cases h)
  | _ => rw [List.mem_singleton.1 hmem, tokens]

end

/-- A token of a text that stands for a character is one of its items. -/
theorem exists_item_of_unescaped? {t : Token} {c : Char} {i : Nat} (h : t.unescaped? = some c) :
    ∀ {items : List (Located Item)} {before after : List (Located Token)},
      (items.flatMap fun x => locate x.index x.value.tokens) = before ++ ⟨i, t⟩ :: after →
      ∃ read item rest, items = read ++ ⟨i, item⟩ :: rest ∧ item.tokens = [t] ∧
        (read.flatMap fun x => locate x.index x.value.tokens) = before ∧
        (rest.flatMap fun x => locate x.index x.value.tokens) = after
  | [], before, after, heq => by simp at heq
  | x :: items, before, after, heq => by
    rw [List.flatMap_cons, List.append_eq_append_iff] at heq
    obtain ⟨before', rfl, hrest⟩ | ⟨after', hx, hrest⟩ := heq
    · obtain ⟨read, item, rest, rfl, hitem, rfl, rfl⟩ := exists_item_of_unescaped? h hrest
      exact ⟨x :: read, item, rest, rfl, hitem, rfl, rfl⟩
    · cases after' with
      | nil =>
        have hrest : _ = [] ++ ⟨i, t⟩ :: after := hrest.symm
        obtain ⟨read, item, rest, rfl, hitem, hread, rfl⟩ := exists_item_of_unescaped? h hrest
        refine ⟨x :: read, item, rest, rfl, hitem, ?_, rfl⟩
        rw [List.flatMap_cons, hread, hx, List.append_nil, List.append_nil]
      | cons y after' =>
        obtain ⟨rfl, rfl⟩ := List.cons.inj hrest
        have hmem : t ∈ (locate x.index x.value.tokens).map Located.value := by
          rw [hx, List.map_append]
          exact List.mem_append_right _ List.mem_cons_self
        rw [map_value_locate] at hmem
        have htokens := Item.tokens_of_unescaped? h hmem
        rw [htokens] at hx
        obtain ⟨rfl, hx⟩ | ⟨_, -, hx⟩ := List.cons_eq_append_iff.1 hx
        · obtain ⟨hx, rfl⟩ := List.cons.inj hx
          obtain ⟨j, item⟩ := x
          cases hx
          exact ⟨[], item, items, rfl, htokens, rfl, rfl⟩
        · exact absurd hx.symm (List.append_ne_nil_of_right_ne_nil _ (List.cons_ne_nil _ _))

namespace Outline

variable {policy : DuplicatePolicy} {o : Outline} {items read rest : List (Located Item)}
  {item : Item} {t : Token} {c : Char}

/-- With a backslash in front an ordinary character is taken as it is without. -/
theorem step_escaped (hitem : item.tokens = [t]) (ht : t.unescaped? = some c)
    (hslash : c = '/' → o.level.items.head? ≠ some .anything) (i : Nat) :
    o.step policy ⟨i, item⟩ = o.step policy ⟨i, .escaped c⟩ := by
  cases item with
  | literal d =>
    cases hitem
    cases ht
    exact step_literal_eq hslash i
  | fullStop =>
    cases hitem
    cases ht
    rfl
  | declaration name constraint => cases constraint <;> cases hitem
  | _ =>
    cases hitem
    cases ht

theorem exists_of_head?_items (h : (Outline.steps policy {} items).outcome = .ok o)
    (hitems : o.level.items.head? = some .anything) :
    ∃ read i, items = read ++ [⟨i, .recursiveWildcard⟩] := by
  obtain ⟨-, rfl⟩ | ⟨read, x, o₁, rfl, -, hx⟩ := eq_or_exists_last_of_steps h
  · cases hitems
  · exact ⟨read, x.index, by rw [← (value_of_head?_items hx).2 hitems]⟩

theorem outcome_steps_escaped (hitem : item.tokens = [t]) (ht : t.unescaped? = some c)
    (hslash : c = '/' → ∀ before j, read ≠ before ++ [⟨j, .recursiveWildcard⟩]) (i : Nat) :
    (Outline.steps policy {} (read ++ ⟨i, .escaped c⟩ :: rest)).outcome =
      (Outline.steps policy {} (read ++ ⟨i, item⟩ :: rest)).outcome := by
  rw [outcome_steps_append, outcome_steps_append]
  cases hread : (Outline.steps policy {} read).outcome with
  | error f => rfl
  | ok o =>
    dsimp only [Except.bind]
    rw [steps, steps, step_escaped hitem ht fun hc hhead => ?_]
    obtain ⟨before, j, rfl⟩ := exists_of_head?_items hread hhead
    exact hslash hc before j rfl

end Outline

/-! ## Texts -/

/-- Where a byte goes that was at `j` when a byte is put in before what is at `i`. Faults that point
at `i` itself point at the byte put in. -/
def pushed (i j : Nat) : Nat := if i < j then j + 1 else j

/-- A text is cut in one way at a byte. -/
theorem eq_of_byteLength_eq {us us' vs vs' : List Char} (happend : us ++ vs = us' ++ vs')
    (hlength : byteLength us = byteLength us') : us = us' := by
  induction us generalizing us' with
  | nil =>
    cases us' with
    | nil => rfl
    | cons d us' =>
      have hpos := d.utf8Size_pos
      simp only [byteLength_nil, byteLength_cons] at hlength
      omega
  | cons c us ih =>
    cases us' with
    | nil =>
      have hpos := c.utf8Size_pos
      simp only [byteLength_nil, byteLength_cons] at hlength
      omega
    | cons d us' =>
      obtain ⟨rfl, hrest⟩ := List.cons.inj happend
      rw [byteLength_cons, byteLength_cons] at hlength
      rw [ih hrest (by omega)]

section

variable {cs us vs : List Char} {items read rest : List (Located Item)} {i : Nat} {item : Item}
  {t : Token} {c : Char}

theorem Cuts.split_unescaped (h : Cuts 0 cs (read ++ ⟨i, item⟩ :: rest)) (hitem : item.tokens = [t])
    (ht : t.unescaped? = some c) :
    ∃ us vs, cs = us ++ c :: vs ∧ i = byteLength us ∧ Cuts 0 us read ∧
      Cuts (byteLength (us ++ [c])) vs rest := by
  obtain ⟨us, _, rfl, hread, hcuts⟩ := h.split
  obtain _ | ⟨-, -, hrest⟩ := hcuts
  have hspelling : item.spelling = [c] := by
    rw [Item.spelling, hitem, List.flatMap_singleton, Token.spelling_of_unescaped? ht]
  rw [hspelling, Nat.zero_add, ← byteLength_append] at hrest
  exact ⟨us, _, by rw [hspelling]; rfl, Nat.zero_add _, hread, hrest⟩

/-- The text with a backslash falls into the same items, but for the one escaped. -/
theorem Cuts.escape (hread : Cuts 0 us read) (hrest : Cuts (byteLength (us ++ [c])) vs rest) :
    Cuts 0 (us ++ '\\' :: c :: vs)
      ((read ++ ⟨byteLength us, .escaped c⟩ :: rest).map
        (Located.relocate (pushed (byteLength us)))) := by
  have hpos := c.utf8Size_pos
  have hplain : byteLength (us ++ [c]) = byteLength us + c.utf8Size := byteLength_append us [c]
  have hescaped : byteLength (Item.escaped c).spelling = 1 + c.utf8Size := rfl
  have hread' : Cuts 0 us (read.map (Located.relocate (pushed (byteLength us)))) :=
    hread.relocate fun k hk => by rw [pushed, if_neg (by omega)]
  have hrest' : Cuts (byteLength us + byteLength (Item.escaped c).spelling) vs
      (rest.map (Located.relocate (pushed (byteLength us)))) :=
    hrest.relocate fun k _ => by
      rw [pushed, if_pos (by omega)]
      omega
  have hitem : Cuts (0 + byteLength us) ('\\' :: c :: vs)
      (⟨byteLength us, .escaped c⟩ :: rest.map (Located.relocate (pushed (byteLength us)))) := by
    rw [Nat.zero_add]
    exact @Cuts.cons _ (.escaped c) vs _ trivial nofun hrest'
  rw [List.map_append, List.map_cons, Located.relocate, pushed, if_neg (Nat.lt_irrefl _)]
  exact hread'.append hitem (by simp)

end

/-- The last item of a text has the last token. -/
theorem getLast?_tokens (before : List (Located Item)) (j : Nat) :
    ((before ++ [(⟨j, .recursiveWildcard⟩ : Located Item)]).flatMap fun x =>
      locate x.index x.value.tokens).getLast? = some ⟨j, .recursiveWildcard⟩ := by
  rw [List.flatMap_append, List.flatMap_singleton]
  exact List.getLast?_concat

section

variable {text text' : String} {options : Options} {g : Nat → Nat}
  {items items' : List (Located Item)}

/-- Texts whose items are taken alike come to the same, but for offsets. -/
theorem exists_outcome_parse_relocate (hlength : text.utf8ByteSize ≤ options.maxPatternLength.toNat)
    (hlength' : text'.utf8ByteSize ≤ options.maxPatternLength.toNat)
    (hcuts : Cuts 0 text.toList items)
    (hcuts' : Cuts 0 text'.toList (items'.map (Located.relocate g)))
    (hsteps : (Outline.steps options.duplicates {} items').outcome =
      (Outline.steps options.duplicates {} items).outcome) :
    ∃ result : Except Fault Pattern,
      (parse text options).outcome = result.mapError (⟨text, ·⟩) ∧
      (parse text' options).outcome = result.mapError fun f => ⟨text', f.relocate g⟩ := by
  refine ⟨_, outcome_parse_of_scan hlength (scan_eq_ok_iff.2 hcuts), ?_⟩
  have hrelocated := Outline.steps_relocate options.duplicates g {} items'
  have hstart : ({} : Outline).relocate g = {} := rfl
  rw [hsteps, hstart] at hrelocated
  rw [outcome_parse_of_scan hlength' (scan_eq_ok_iff.2 hcuts'), hrelocated]
  cases (Outline.steps options.duplicates {} items).outcome with
  | error f => rfl
  | ok o =>
    show Except.mapError _ (o.relocate g).finish = Except.mapError _ o.finish
    rw [o.finish_relocate g]
    cases o.finish <;> rfl

end

variable {text escaped : String} {options : Options} {before after : List (Located Token)}
  {us vs : List Char} {t : Token} {c : Char}

/-- Written with a backslash, an ordinary character leaves a text the pattern that it is, or the
fault that it has, which points to where it pointed before. Only a slash behind two stars means
something else by itself. -/
theorem parse_escape
    (h : (tokenize text).outcome = .ok (before ++ ⟨byteLength us, t⟩ :: after))
    (ht : t.unescaped? = some c)
    (hslash : ¬ (c = '/' ∧ before.getLast?.map Located.value = some .recursiveWildcard))
    (htext : text.toList = us ++ c :: vs) (hescaped : escaped.toList = us ++ '\\' :: c :: vs)
    (hlength : escaped.utf8ByteSize ≤ options.maxPatternLength.toNat) :
    (∃ p, (parse text options).outcome = .ok p ∧ (parse escaped options).outcome = .ok p) ∨
      ∃ f, (parse text options).outcome = .error ⟨text, f⟩ ∧
        (parse escaped options).outcome =
          .error ⟨escaped, f.relocate (pushed (byteLength us))⟩ := by
  obtain ⟨items, hcuts, htokens⟩ := outcome_tokenize_eq_ok_iff.1 h
  obtain ⟨read, item, rest, rfl, hitem, rfl, rfl⟩ := exists_item_of_unescaped? ht htokens
  obtain ⟨us', vs', htext', hus, hread, hrest⟩ := hcuts.split_unescaped hitem ht
  -- The token is at the byte where the backslash is put in.
  obtain rfl := eq_of_byteLength_eq (htext.symm.trans htext') hus
  obtain rfl := List.cons_inj_right c |>.1 (List.append_cancel_left (htext.symm.trans htext'))
  have hcuts' := hread.escape hrest
  have hshort : text.utf8ByteSize ≤ options.maxPatternLength.toNat := by
    rw [utf8ByteSize_eq, hescaped] at hlength
    rw [utf8ByteSize_eq, htext]
    simp only [byteLength_append, byteLength_cons] at hlength ⊢
    omega
  have hstars : c = '/' → ∀ before j, read ≠ before ++ [⟨j, .recursiveWildcard⟩] := by
    rintro hc before j rfl
    exact hslash ⟨hc, by rw [getLast?_tokens]; rfl⟩
  obtain ⟨result, hparse, hparse'⟩ := exists_outcome_parse_relocate hshort hlength hcuts
    (hescaped ▸ hcuts') (Outline.outcome_steps_escaped hitem ht hstars _)
  rw [hparse, hparse']
  cases result with
  | ok p => exact .inl ⟨p, rfl, rfl⟩
  | error f => exact .inr ⟨f, rfl, rfl⟩

/-- A slash behind two stars and a parenthesis, and a full stop in front of a group left open. -/
theorem parse_escape_behind_stars :
    (∃ p, (parse "**(/\x7ba\x7d)?").outcome = .ok p ∧
      (parse "**(\\/\x7ba\x7d)?").outcome = .ok p) ∧
    (parse "é.(").outcome = .error ⟨"é.(", .unterminatedGroup 3⟩ ∧
      (parse "é\\.(").outcome = .error ⟨"é\\.(", .unterminatedGroup 4⟩ := by
  constructor
  · have htokens : (tokenize "**(/\x7ba\x7d)?").outcome = .ok
        ([⟨0, .recursiveWildcard⟩, ⟨2, .groupOpen⟩] ++ ⟨byteLength "**(".toList, .literal '/'⟩ ::
          [⟨4, .variableOpen⟩, ⟨5, .variableName "a"⟩, ⟨6, .variableClose⟩, ⟨7, .groupClose⟩,
            ⟨8, .optional⟩]) := rfl
    have hlength : "**(\\/\x7ba\x7d)?".utf8ByteSize ≤ ({} : Options).maxPatternLength.toNat := by
      decide
    obtain ⟨p, hp⟩ | ⟨f, hf, -⟩ := parse_escape htokens rfl (by decide) rfl rfl hlength
    · exact ⟨p, hp⟩
    · exact nomatch hf
  · have htokens : (tokenize "é.(").outcome =
        .ok ([⟨0, .literal 'é'⟩] ++ ⟨byteLength ['é'], .fullStop⟩ :: [⟨3, .groupOpen⟩]) := rfl
    have hlength : "é\\.(".utf8ByteSize ≤ ({} : Options).maxPatternLength.toNat := by decide
    obtain ⟨p, hp, -⟩ | ⟨f, hf, hf'⟩ := parse_escape htokens rfl (by decide) rfl rfl hlength
    · exact nomatch hp
    · cases hf
      exact ⟨rfl, hf'⟩

end PathGlob.Pattern

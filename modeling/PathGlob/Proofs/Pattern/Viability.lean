-- SUMMARY: Parsing refuses an item exactly if no accepted text begins with the items up to it.
import PathGlob.Proofs.Pattern.Acceptance
import PathGlob.Proofs.Pattern.Parentheses
import PathGlob.Proofs.Pattern.Tokens

/-!
# Viable items

The items that an outline takes are those that some accepted text begins with. One direction follows
from the steps along a longer text, the other completes the text: a character makes the innermost
group one that is not empty, and parentheses close what is open.
-/

namespace PathGlob.Pattern

/-- Whether a text is accepted, its length aside. -/
def Accepts (policy : DuplicatePolicy) (text : String) : Prop :=
  ∃ p, Spells text p ∧ (policy = .reject → p.variableNames.Nodup)

/-- Whether some items are the first ones of an accepted text. -/
def Viable (policy : DuplicatePolicy) (begun : List Item) : Prop :=
  ∃ text items, Accepts policy text ∧ scan 0 text.toList = .ok items ∧
    begun <+: items.map Located.value

variable {policy : DuplicatePolicy} {o : Outline} {text : String} {f : Fault}
  {items read : List (Located Item)}

/-- The length of a text is the only other reason to refuse it. -/
theorem accepts_iff_parse {options : Options}
    (h : text.utf8ByteSize ≤ options.maxPatternLength.toNat) :
    Accepts options.duplicates text ↔ ∃ p, (parse text options).outcome = .ok p := by
  refine exists_congr fun p => ?_
  rw [outcome_parse_eq_ok_iff_spells, and_iff_right h]

theorem accepts_iff_steps (hscan : scan 0 text.toList = .ok items) :
    Accepts policy text ↔
      ∃ o, (Outline.steps policy {} items).outcome = .ok o ∧ o.enclosing = [] := by
  have hread : Outline.read policy {} 0 text.toList = (Outline.steps policy {} items).outcome := by
    rw [Outline.read, hscan]
    rfl
  rw [← hread]
  constructor
  · rintro ⟨p, hspells, hnames⟩
    obtain ⟨o, ho, hfinish⟩ := exists_read_of_spells hspells hnames
    exact ⟨o, ho, (Outline.finish_eq_ok_iff.1 hfinish).1⟩
  · rintro ⟨o, ho, henclosing⟩
    have hfinish : o.finish = .ok o.level.toPattern :=
      Outline.finish_eq_ok_iff.2 ⟨henclosing, rfl⟩
    refine ⟨_, (spells_of_read ho hfinish).1, fun hpolicy => ?_⟩
    rw [hpolicy] at ho
    exact nodup_variableNames_of_read ho hfinish

/-! ## Completing a text -/

/-- Parentheses close what is open, unless the innermost group is empty. -/
theorem exists_closed_of_not_isBlank (policy : DuplicatePolicy) (o : Outline) (i : Nat)
    (hblank : ¬ o.IsBlank) :
    ∃ items o', Cuts i (List.replicate o.enclosing.length ')') items ∧
      (o.steps policy items).outcome = .ok o' ∧ o'.enclosing = [] := by
  induction hgroups : o.enclosing generalizing o i with
  | nil => exact ⟨[], o, .nil, rfl, hgroups⟩
  | cons g enclosing ih =>
    obtain ⟨start, outer⟩ := g
    obtain ⟨closed, hclose, hclosed, henclosing⟩ : ∃ closed,
        Outline.Taken policy o ⟨i, .groupClose⟩ closed ∧ ¬ closed.IsBlank ∧
          closed.enclosing = enclosing :=
      ⟨_, .groupClose hgroups hblank, Outline.not_isBlank_of_items rfl, rfl⟩
    obtain ⟨items, o', hcuts, hsteps, hend⟩ := ih closed (i + 1) hclosed henclosing
    have hclosing :
        Cuts i (')' :: List.replicate enclosing.length ')') (⟨i, .groupClose⟩ :: items) :=
      @Cuts.cons i .groupClose _ items trivial (by simp) hcuts
    exact ⟨⟨i, .groupClose⟩ :: items, o', hclosing,
      Outline.steps_cons_of_step hclose.step hsteps, hend⟩

theorem viable_of_steps {cs : List Char} (hcuts : Cuts 0 cs read)
    (h : (Outline.steps policy {} read).outcome = .ok o) :
    Viable policy (read.map Located.value) := by
  let letter : Located Item := ⟨0 + byteLength cs, .literal 'a'⟩
  let o₁ : Outline := o.append (.literal 'a')
  have hletter : Cuts 0 (cs ++ ['a']) (read ++ [letter]) :=
    hcuts.append (@Cuts.cons _ (.literal 'a') [] [] (by decide : ¬ IsReserved 'a') nofun .nil)
      (by decide)
  obtain ⟨closings, o', hclosings, hsteps, henclosing⟩ :=
    exists_closed_of_not_isBlank policy o₁ (0 + byteLength (cs ++ ['a'])) nofun
  have hstar : (List.replicate o₁.enclosing.length ')').head? ≠ some '*' := by
    rw [List.head?_replicate]
    split <;> simp
  have hscan : scan 0
      (String.ofList (cs ++ ['a'] ++ List.replicate o₁.enclosing.length ')')).toList =
        .ok (read ++ [letter] ++ closings) := by
    rw [String.toList_ofList]
    exact scan_eq_ok_iff.2 (hletter.append hclosings hstar)
  refine ⟨_, _, (accepts_iff_steps hscan).2 ⟨o', ?_, henclosing⟩, hscan, ?_⟩
  · rw [List.append_assoc, Outline.outcome_steps_append, h]
    exact hsteps
  · rw [List.append_assoc, List.map_append]
    exact List.prefix_append _ _

/-! ## Items that an outline takes -/

/-- A text that begins with some items has them at its start. -/
theorem exists_append_of_prefix {cs ds : List Char} (hcuts : Cuts 0 cs read)
    (hscan : scan 0 ds = .ok items)
    (h : read.map Located.value <+: items.map Located.value) : ∃ rest, items = read ++ rest := by
  obtain ⟨ys, hys, hmap⟩ := List.prefix_map_iff.1 h
  obtain ⟨rest, rfl⟩ := hys
  obtain ⟨us, -, -, hus, -⟩ := (scan_eq_ok_iff.1 hscan).split
  exact ⟨rest, by rw [hcuts.eq_of_map_value hus hmap]⟩

theorem viable_iff_steps {cs : List Char} (hcuts : Cuts 0 cs read) :
    Viable policy (read.map Located.value) ↔
      ∃ o, (Outline.steps policy {} read).outcome = .ok o := by
  constructor
  · rintro ⟨text, items, haccepts, hscan, hprefix⟩
    obtain ⟨o, hsteps, -⟩ := (accepts_iff_steps hscan).1 haccepts
    obtain ⟨rest, rfl⟩ := exists_append_of_prefix hcuts hscan hprefix
    obtain ⟨o₁, hread, -⟩ := Outline.exists_of_steps_append hsteps
    exact ⟨o₁, hread⟩
  · rintro ⟨o, h⟩
    exact viable_of_steps hcuts h

theorem exists_cuts_take (hscan : scan 0 text.toList = .ok items) (k : Nat) :
    ∃ cs, Cuts 0 cs (items.take k) := by
  rw [scan_eq_ok_iff, ← List.take_append_drop k items] at hscan
  obtain ⟨us, -, -, hus, -⟩ := hscan.split
  exact ⟨us, hus⟩

theorem viable_take_iff (hscan : scan 0 text.toList = .ok items) (k : Nat) :
    Viable policy ((items.map Located.value).take k) ↔
      ∃ o, (Outline.steps policy {} (items.take k)).outcome = .ok o := by
  obtain ⟨cs, hcuts⟩ := exists_cuts_take hscan k
  rw [← List.map_take, viable_iff_steps hcuts]

/-- The items of a text are viable if all of them are taken. -/
theorem viable_take_of_steps (hscan : scan 0 text.toList = .ok items)
    (h : (Outline.steps policy {} items).outcome = .ok o) (k : Nat) :
    Viable policy ((items.map Located.value).take k) := by
  rw [← List.take_append_drop k items] at h
  obtain ⟨o₁, hread, -⟩ := Outline.exists_of_steps_append h
  exact (viable_take_iff hscan k).2 ⟨o₁, hread⟩

/-- An item that is refused is the first that is not viable. -/
theorem exists_not_viable_iff (hscan : scan 0 text.toList = .ok items) :
    (∃ k, Viable policy ((items.map Located.value).take k) ∧
        ¬ Viable policy ((items.map Located.value).take (k + 1))) ↔
      ∃ f, (Outline.steps policy {} items).outcome = .error f := by
  constructor
  · rintro ⟨k, -, hrefused⟩
    cases hsteps : (Outline.steps policy {} items).outcome with
    | error f => exact ⟨f, rfl⟩
    | ok o => exact absurd (viable_take_of_steps hscan hsteps (k + 1)) hrefused
  · rintro ⟨f, h⟩
    obtain ⟨read, x, rest, o, rfl, hread, hx⟩ := Outline.exists_refused_of_steps h
    refine ⟨read.length, ?_, ?_⟩
    · rw [viable_take_iff hscan, List.take_left]
      exact ⟨o, hread⟩
    · rw [viable_take_iff hscan, List.take_length_add_append, List.take_succ_cons, List.take_zero]
      rintro ⟨o', ho'⟩
      rw [Outline.steps_append_of_refused hread hx] at ho'
      cases ho'

theorem ne_unterminatedGroup_of_steps (h : (Outline.steps policy {} items).outcome = .error f)
    (start : Nat) : f ≠ .unterminatedGroup start := by
  obtain ⟨_, _, _, _, -, -, hx⟩ := Outline.exists_refused_of_steps h
  exact Outline.ne_unterminatedGroup_of_step hx start

/-- Texts that begin with the same items that are not viable are rejected for the same reason. -/
theorem exists_fault_of_not_viable (hscan : scan 0 text.toList = .ok items) {k : Nat}
    (h : ¬ Viable policy ((items.map Located.value).take k)) :
    ∃ f, (∀ start, f ≠ .unterminatedGroup start) ∧
      ∀ (text' : String) (options' : Options) (items' : List (Located Item)),
        options'.duplicates = policy →
        text'.utf8ByteSize ≤ options'.maxPatternLength.toNat →
        scan 0 text'.toList = .ok items' →
        (items.map Located.value).take k <+: items'.map Located.value →
        (parse text' options').outcome = .error ⟨text', f⟩ := by
  cases hsteps : (Outline.steps policy {} (items.take k)).outcome with
  | ok o => exact absurd ((viable_take_iff hscan k).2 ⟨o, hsteps⟩) h
  | error f =>
    refine ⟨f, ne_unterminatedGroup_of_steps hsteps, ?_⟩
    rintro text' options' items' rfl hlength hscan' hprefix
    obtain ⟨cs, hcuts⟩ := exists_cuts_take hscan k
    rw [← List.map_take] at hprefix
    obtain ⟨rest, rfl⟩ := exists_append_of_prefix hcuts hscan' hprefix
    refine outcome_parse_of_refused hlength hscan' ?_
    rw [Outline.outcome_steps_append, hsteps]
    rfl

/-! ## Rejected texts -/

/-- A text that falls into items is rejected at the first item that no accepted text goes on with,
as is every text that begins like this, or else for the leftmost group that it leaves open. -/
theorem parse_rejects_at_first_unviable {options : Options}
    (hlength : text.utf8ByteSize ≤ options.maxPatternLength.toNat)
    (hscan : scan 0 text.toList = .ok items) :
    ((∃ e, (parse text options).outcome = .error e ∧
        ∀ start, e.fault ≠ .unterminatedGroup start) ↔
      ∃ k, Viable options.duplicates ((items.map Located.value).take k) ∧
        ¬ Viable options.duplicates ((items.map Located.value).take (k + 1))) ∧
    (∀ k, ¬ Viable options.duplicates ((items.map Located.value).take k) →
      ∃ f, (∀ start, f ≠ .unterminatedGroup start) ∧
        ∀ (text' : String) (options' : Options) (items' : List (Located Item)),
          options'.duplicates = options.duplicates →
          text'.utf8ByteSize ≤ options'.maxPatternLength.toNat →
          scan 0 text'.toList = .ok items' →
          (items.map Located.value).take k <+: items'.map Located.value →
          (parse text' options').outcome = .error ⟨text', f⟩) ∧
    ∀ start, (parse text options).outcome = .error ⟨text, .unterminatedGroup start⟩ ↔
      (∀ k, Viable options.duplicates ((items.map Located.value).take k)) ∧
        (unmatched items).head? = some start := by
  refine ⟨?_, fun k => exists_fault_of_not_viable hscan, fun start => ?_⟩
  · rw [exists_not_viable_iff hscan]
    cases hsteps : (Outline.steps options.duplicates {} items).outcome with
    | error f =>
      have hrejects := outcome_parse_of_refused hlength hscan hsteps
      exact iff_of_true ⟨_, hrejects, ne_unterminatedGroup_of_steps hsteps⟩ ⟨f, rfl⟩
    | ok o =>
      refine iff_of_false ?_ nofun
      rintro ⟨e, he, hne⟩
      rw [outcome_parse_of_taken hlength hscan hsteps] at he
      split at he
      · cases he
        exact hne _ rfl
      · cases he
  · cases hsteps : (Outline.steps options.duplicates {} items).outcome with
    | error f =>
      have hrejects := outcome_parse_of_refused hlength hscan hsteps
      refine iff_of_false (fun he => ?_) ?_
      · rw [hrejects] at he
        cases he
        exact ne_unterminatedGroup_of_steps hsteps start rfl
      · rintro ⟨hviable, -⟩
        obtain ⟨o, ho⟩ := (viable_take_iff hscan items.length).1 (hviable items.length)
        rw [List.take_length, hsteps] at ho
        cases ho
    | ok o =>
      rw [outcome_parse_of_taken hlength hscan hsteps,
        and_iff_right (viable_take_of_steps hscan hsteps)]
      cases (unmatched items).head? with
      | none => exact iff_of_false nofun nofun
      | some i =>
        constructor
        · rintro ⟨⟩
          rfl
        · rintro ⟨⟩
          rfl

/-- A brace that no text goes on with, and two groups that are left open. -/
theorem parse_rejects_at_first_unviable_groups :
    (∃ items k, scan 0 "é(b\x7d(".toList = .ok items ∧
      Viable .lastWins ((items.map Located.value).take k) ∧
      ¬ Viable .lastWins ((items.map Located.value).take (k + 1))) ∧
    ∃ items, scan 0 "é(b(".toList = .ok items ∧
      (∀ k, Viable .lastWins ((items.map Located.value).take k)) ∧
      (unmatched items).head? = some 2 := by
  constructor
  · have hbrace : (parse "é(b\x7d(").outcome = .error ⟨"é(b\x7d(", .unexpectedBrace 4⟩ := by rfl
    obtain ⟨items, hscan⟩ : ∃ items, scan 0 "é(b\x7d(".toList = .ok items := ⟨_, rfl⟩
    obtain ⟨k, hk⟩ :=
      (parse_rejects_at_first_unviable (by decide) hscan).1.1 ⟨_, hbrace, nofun⟩
    exact ⟨items, k, hscan, hk⟩
  · have hopen : (parse "é(b(").outcome = .error ⟨"é(b(", .unterminatedGroup 2⟩ := by rfl
    obtain ⟨items, hscan⟩ : ∃ items, scan 0 "é(b(".toList = .ok items := ⟨_, rfl⟩
    exact ⟨items, hscan, ((parse_rejects_at_first_unviable (by decide) hscan).2.2 2).1 hopen⟩

end PathGlob.Pattern

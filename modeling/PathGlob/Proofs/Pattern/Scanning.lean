-- SUMMARY: Cutting text into items word by word, and reading a text into an outline.
import PathGlob.Pattern.Parse
import PathGlob.Proofs.Pattern.Grammar

/-!
# Reading pattern text

What `scan` does with the words of the grammar in front of any further text, and `Outline.read`,
which cuts a text into items and takes them.
-/

namespace PathGlob

namespace Pattern

/-! ## Names -/

/-- The letters are those of the two ranges. -/
theorem isAlpha_iff (c : Char) : c.isAlpha = true ↔ ('A' ≤ c ∧ c ≤ 'Z') ∨ ('a' ≤ c ∧ c ≤ 'z') := by
  have hupper : c.isUpper = true ↔ 'A' ≤ c ∧ c ≤ 'Z' := decide_eq_true_iff
  have hlower : c.isLower = true ↔ 'a' ≤ c ∧ c ≤ 'z' :=
    Bool.and_eq_true_iff.trans (and_congr decide_eq_true_iff decide_eq_true_iff)
  rw [← hupper, ← hlower, ← Bool.or_eq_true]
  exact Iff.rfl

theorem isNameStart_iff (c : Char) : isNameStart c = true ↔ IsInitial c := by
  simp only [isNameStart, IsInitial, isAlpha_iff, Bool.or_eq_true, beq_iff_eq, or_assoc]

theorem isNameChar_iff (c : Char) : isNameChar c = true ↔ IsFollowing c := by
  simp only [isNameChar, IsFollowing, IsInitial, Char.isAlphanum, isAlpha_iff, Char.isDigit,
    Bool.or_eq_true, Bool.and_eq_true, decide_eq_true_eq, beq_iff_eq, Char.le_def]
  constructor
  · rintro (((h | h) | h) | h)
    · exact .inl (.inl h)
    · exact .inl (.inr (.inl h))
    · exact .inr h
    · exact .inl (.inr (.inr h))
  · rintro ((h | h | h) | h)
    · exact .inl (.inl (.inl h))
    · exact .inl (.inl (.inr h))
    · exact .inr h
    · exact .inl (.inr h)

theorem checkName_eq_ok_iff (start : Nat) (name : String) :
    checkName start name = .ok () ↔ IsName name.toList := by
  unfold checkName
  cases name.toList with
  | nil => simpa using (nofun : ¬ IsName [])
  | cons c cs =>
    have hfollow : (∀ d ∈ cs, isNameChar d = true) ↔ ∀ d ∈ cs, IsFollowing d := by
      simp only [isNameChar_iff]
    by_cases hc : isNameStart c
    · simp only [hc, if_true]
      cases hfind : cs.find? fun d => !isNameChar d with
      | some d =>
        have hd := List.find?_some hfind
        have hmem := List.mem_of_find?_eq_some hfind
        refine ⟨nofun, ?_⟩
        rintro ⟨_, hcs⟩
        simp [hfollow.2 hcs d hmem] at hd
      | none =>
        refine ⟨fun _ => .intro ((isNameStart_iff c).1 hc) (hfollow.1 ?_), fun _ => rfl⟩
        simpa using hfind
    · simp only [hc]
      refine ⟨nofun, ?_⟩
      rintro ⟨hi, _⟩
      exact absurd ((isNameStart_iff c).2 hi) hc

theorem Declaration.check_eq_ok_iff (start : Nat) (d : Declaration) :
    Declaration.check start d = .ok () ↔ IsName d.name.toList ∧ d.constraint ≠ some "" := by
  rw [← checkName_eq_ok_iff start, Declaration.check]
  cases checkName start d.name with
  | error e => simp
  | ok u => by_cases h : d.constraint = some "" <;> simp [h]

theorem IsName.not_mem {cs : List Char} (h : IsName cs) {c : Char} (hc : ¬ IsFollowing c) :
    c ∉ cs := by
  obtain ⟨hi, hcs⟩ := h
  rintro (_ | ⟨_, hmem⟩)
  · exact hc (.inl hi)
  · exact hc (hcs _ hmem)

/-- Names end where declarations go on. -/
theorem IsName.delimiters_not_mem {cs : List Char} (h : IsName cs) : '}' ∉ cs ∧ ':' ∉ cs :=
  ⟨h.not_mem (by decide), h.not_mem (by decide)⟩

/-! ## Declarations -/

theorem scanName_append {name : List Char} (hb : '}' ∉ name) (hc : ':' ∉ name)
    (start : Nat) (read : List Char) (i : Nat) (rest : List Char) :
    scanName start read i (name ++ rest) =
      scanName start (name.reverse ++ read) (i + byteLength name) rest := by
  induction name generalizing read i with
  | nil => rfl
  | cons c cs ih =>
    simp only [List.mem_cons, not_or] at hb hc
    rw [List.cons_append, scanName.eq_4 _ _ _ _ _ (fun h => hb.1 h.symm) (fun h => hc.1 h.symm),
      ih hb.2 hc.2]
    simp [Nat.add_assoc]

theorem scanConstraint_append {raw : List Char} (h : Balanced raw)
    (start : Nat) (name : String) (read : List Char) (depth i : Nat) (rest : List Char) :
    scanConstraint start name read depth i (raw ++ rest) =
      scanConstraint start name (raw.reverse ++ read) depth (i + byteLength raw) rest := by
  have hescape : ('\\').utf8Size = 1 := rfl
  have hopen : ('{').utf8Size = 1 := rfl
  have hclose : ('}').utf8Size = 1 := rfl
  induction h generalizing read depth i rest with
  | nil => rfl
  | @char c cs ho hc he _ ih =>
    rw [List.cons_append, scanConstraint.eq_7 _ _ _ _ _ _ _ (fun h => absurd h he)
      (fun _ _ h => absurd h he) ho hc, ih]
    simp [Nat.add_assoc]
  | @escape c cs _ ih =>
    rw [List.cons_append, List.cons_append, scanConstraint.eq_3, ih]
    simp [hescape, Nat.add_assoc]
  | @braces cs ds _ _ ihc ihd =>
    rw [List.cons_append, List.cons_append, List.append_assoc, scanConstraint.eq_4, ihc,
      List.cons_append, scanConstraint.eq_6, ihd]
    simp [hopen, hclose, Nat.add_assoc]

/-- Text that closes a number of open braces and is balanced in between. -/
def Closes : Nat → List Char → Prop
  | 0, cs => Balanced cs
  | n + 1, cs => ∃ bs ds, cs = bs ++ '}' :: ds ∧ Balanced bs ∧ Closes n ds

theorem Closes.char {n : Nat} {c : Char} {cs : List Char} (ho : c ≠ '{') (hc : c ≠ '}')
    (he : c ≠ '\\') (h : Closes n cs) : Closes n (c :: cs) := by
  cases n with
  | zero => exact Balanced.char ho hc he h
  | succ n =>
    obtain ⟨bs, ds, rfl, hbs, hds⟩ := h
    exact ⟨c :: bs, ds, rfl, .char ho hc he hbs, hds⟩

theorem Closes.escape {n : Nat} {c : Char} {cs : List Char} (h : Closes n cs) :
    Closes n ('\\' :: c :: cs) := by
  cases n with
  | zero => exact Balanced.escape h
  | succ n =>
    obtain ⟨bs, ds, rfl, hbs, hds⟩ := h
    exact ⟨'\\' :: c :: bs, ds, rfl, .escape hbs, hds⟩

theorem Closes.open {n : Nat} {cs : List Char} (h : Closes (n + 1) cs) : Closes n ('{' :: cs) := by
  obtain ⟨bs, ds, rfl, hbs, hds⟩ := h
  cases n with
  | zero => exact .braces hbs hds
  | succ n =>
    obtain ⟨as, es, rfl, has, hes⟩ := hds
    exact ⟨'{' :: bs ++ '}' :: as, es, by simp, .braces hbs has, hes⟩

/-- A constraint that is read to its end closes as many braces as are open. -/
theorem closes_of_scanConstraint {start : Nat} {name : String} {items : List (Located Item)} :
    ∀ {cs : List Char} {depth i : Nat} {read : List Char},
      scanConstraint start name read depth i cs = .ok items →
      ∃ raw rest, cs = raw ++ '}' :: rest ∧ Closes depth raw
  | [], _, _, _, h => by rw [scanConstraint.eq_1] at h; cases h
  | c :: cs, depth, _, _, h => by
    by_cases he : c = '\\'
    · subst he
      cases cs with
      | nil => rw [scanConstraint.eq_2] at h; cases h
      | cons d cs =>
        rw [scanConstraint.eq_3] at h
        obtain ⟨raw, rest, rfl, hraw⟩ := closes_of_scanConstraint h
        exact ⟨'\\' :: d :: raw, rest, rfl, hraw.escape⟩
    by_cases ho : c = '{'
    · subst ho
      rw [scanConstraint.eq_4] at h
      obtain ⟨raw, rest, rfl, hraw⟩ := closes_of_scanConstraint h
      exact ⟨'{' :: raw, rest, rfl, hraw.open⟩
    by_cases hc : c = '}'
    · subst hc
      cases depth with
      | zero => exact ⟨[], cs, rfl, Balanced.nil⟩
      | succ depth =>
        rw [scanConstraint.eq_6] at h
        obtain ⟨raw, rest, rfl, hraw⟩ := closes_of_scanConstraint h
        exact ⟨'}' :: raw, rest, rfl, [], raw, rfl, .nil, hraw⟩
    · rw [scanConstraint.eq_7 _ _ _ _ _ _ _ (fun h => absurd h he) (fun _ _ h => absurd h he)
        ho hc] at h
      obtain ⟨raw, rest, rfl, hraw⟩ := closes_of_scanConstraint h
      exact ⟨c :: raw, rest, rfl, hraw.char ho hc he⟩

theorem exists_name_of_scanName {start : Nat} {items : List (Located Item)} :
    ∀ {cs : List Char} {i : Nat} {read : List Char}, scanName start read i cs = .ok items →
      ∃ name c rest, cs = name ++ c :: rest ∧ (c = '}' ∨ c = ':') ∧ '}' ∉ name ∧ ':' ∉ name
  | [], _, _, h => by rw [scanName.eq_1] at h; cases h
  | c :: cs, _, _, h => by
    by_cases hc : c = '}' ∨ c = ':'
    · exact ⟨[], c, cs, rfl, hc, nofun, nofun⟩
    · rw [not_or] at hc
      rw [scanName.eq_4 _ _ _ _ _ hc.1 hc.2] at h
      obtain ⟨name, d, rest, rfl, hd, hb, hcolon⟩ := exists_name_of_scanName h
      refine ⟨c :: name, d, rest, rfl, hd, ?_, ?_⟩
      · simpa using ⟨fun h => hc.1 h.symm, hb⟩
      · simpa using ⟨fun h => hc.2 h.symm, hcolon⟩

/-! ## Items -/

theorem scan_var {name : List Char} (hb : '}' ∉ name) (hc : ':' ∉ name) (i : Nat)
    (rest : List Char) :
    scan i ('{' :: name ++ '}' :: rest) =
      .cons i (.declaration (.ofList name) none) (scan (i + 1 + byteLength name + 1) rest) := by
  rw [List.cons_append, scan.eq_2, scanName_append hb hc, scanName.eq_2]
  simp

theorem scan_constrained {name raw : List Char} (hb : '}' ∉ name) (hc : ':' ∉ name)
    (hr : Balanced raw) (i : Nat) (rest : List Char) :
    scan i ('{' :: name ++ ':' :: raw ++ '}' :: rest) =
      .cons i (.declaration (.ofList name) (some (.ofList raw)))
        (scan (i + 1 + byteLength name + 1 + byteLength raw + 1) rest) := by
  rw [List.append_assoc, List.cons_append, List.cons_append, scan.eq_2, scanName_append hb hc,
    scanName.eq_3, scanConstraint_append hr, scanConstraint.eq_5]
  simp

/-- A declaration that is read to its end. -/
theorem exists_declaration_of_scan {i : Nat} {cs : List Char} {items : List (Located Item)}
    (h : scan i ('{' :: cs) = .ok items) :
    ∃ name, '}' ∉ name ∧ ':' ∉ name ∧
      ((∃ rest, cs = name ++ '}' :: rest) ∨
        ∃ raw rest, cs = name ++ ':' :: raw ++ '}' :: rest ∧ Balanced raw) := by
  rw [scan.eq_2] at h
  obtain ⟨name, c, rest, rfl, hc, hb, hcolon⟩ := exists_name_of_scanName h
  refine ⟨name, hb, hcolon, ?_⟩
  rcases hc with rfl | rfl
  · exact .inl ⟨rest, rfl⟩
  · rw [scanName_append hb hcolon, scanName.eq_3] at h
    obtain ⟨raw, rest, rfl, hraw⟩ := closes_of_scanConstraint h
    exact .inr ⟨raw, rest, by simp, hraw⟩

theorem scan_char {c : Char} {cs : List Char} (ho : c ≠ '{') (he : c ≠ '\\')
    (hs : c = '*' → cs.head? ≠ some '*') (i : Nat) :
    scan i (c :: cs) = .cons i (.ofChar c) (scan (i + c.utf8Size) cs) := by
  refine scan.eq_6 i c cs ho ?_ (fun h => absurd h he) (fun _ _ h => absurd h he)
  rintro ds rfl rfl
  exact hs rfl rfl

theorem scan_symbol {c : Char} {cs : List Char} (h : c ∉ ['{', '\\', '*']) (i : Nat) :
    scan i (c :: cs) = .cons i (.ofChar c) (scan (i + c.utf8Size) cs) := by
  simp only [List.mem_cons, List.not_mem_nil, not_or, or_false] at h
  exact scan_char h.1 h.2.1 (fun hs => absurd hs h.2.2) i

theorem not_mem_of_not_reserved {c : Char} (h : ¬ IsReserved c) : c ∉ ['{', '\\', '*'] := by
  intro hc
  simp only [List.mem_cons, List.not_mem_nil, or_false] at hc
  rcases hc with rfl | rfl | rfl <;> exact h (by decide)

theorem Item.ofChar_of_not_reserved {c : Char} (h : ¬ IsReserved c) :
    Item.ofChar c = .literal c := by
  simp only [IsReserved, List.mem_cons, List.not_mem_nil, not_or, or_false] at h
  simp [Item.ofChar, h]

/-! ## Reading into an outline -/

namespace Outline

/-- The outline after a text whose items an outline takes. -/
def read (policy : DuplicatePolicy) (o : Outline) (i : Nat) (cs : List Char) :
    Except Fault Outline :=
  (scan i cs).bind fun items => (o.steps policy items).outcome

variable {policy : DuplicatePolicy} {o o' fin : Outline} {i j : Nat} {cs rest : List Char}
  {item : Item}

@[simp] theorem read_nil : read policy o i [] = .ok o := by
  rw [read, scan.eq_1]; rfl

/-- A text is read by cutting it into items, which the outline then takes. -/
theorem read_eq_ok_iff : read policy o i cs = .ok fin ↔
    ∃ items, scan i cs = .ok items ∧ (o.steps policy items).outcome = .ok fin := by
  rw [read]
  cases scan i cs with
  | error e => exact ⟨nofun, nofun⟩
  | ok items => exact ⟨fun h => ⟨items, rfl, h⟩, fun ⟨_, hi, h⟩ => Except.ok.inj hi ▸ h⟩

theorem read_cons (hs : scan i cs = .cons i item (scan j rest)) :
    read policy o i cs = (scan j rest).bind fun items =>
      (o.step policy ⟨i, item⟩).outcome.bind fun o' => (o'.steps policy items).outcome := by
  rw [read, hs]
  cases scan j rest with
  | error e => rfl
  | ok items =>
    show (steps policy o (⟨i, item⟩ :: items)).outcome = _
    rw [steps, Traced.outcome_bind]
    rfl

theorem read_cons_of_step (hs : scan i cs = .cons i item (scan j rest))
    (hstep : (o.step policy ⟨i, item⟩).outcome = .ok o') :
    read policy o i cs = read policy o' j rest := by
  rw [read_cons hs, hstep]
  rfl

theorem exists_step_of_read (hs : scan i cs = .cons i item (scan j rest))
    (h : read policy o i cs = .ok fin) :
    ∃ o', (o.step policy ⟨i, item⟩).outcome = .ok o' ∧ read policy o' j rest = .ok fin := by
  rw [read_cons hs] at h
  cases hr : scan j rest with
  | error e => rw [hr] at h; cases h
  | ok items =>
    rw [hr] at h
    cases ho : (o.step policy ⟨i, item⟩).outcome with
    | error e =>
      rw [ho] at h
      cases h
    | ok o' =>
      rw [ho] at h
      refine ⟨o', rfl, ?_⟩
      rw [read, hr]
      exact h

end Outline

theorem outcome_ofScan_eq_ok_iff {policy : DuplicatePolicy} {items : List (Located Item)}
    {p : Pattern} :
    (ofScan policy items).outcome = .ok p ↔
      ∃ o, (Outline.steps policy {} items).outcome = .ok o ∧ o.finish = .ok p := by
  rw [ofScan, Traced.outcome_bind]
  cases (Outline.steps policy {} items).outcome with
  | error e => exact ⟨nofun, nofun⟩
  | ok o => exact ⟨fun h => ⟨o, rfl, h⟩, fun ⟨_, ho, h⟩ => Except.ok.inj ho ▸ h⟩

/-- A text is parsed if it is short enough and forms a finished outline. -/
theorem outcome_parse_eq_ok_iff {text : String} {options : Options} {p : Pattern} :
    (parse text options).outcome = .ok p ↔
      text.utf8ByteSize ≤ options.maxPatternLength.toNat ∧
        ∃ o, Outline.read options.duplicates {} 0 text.toList = .ok o ∧ o.finish = .ok p := by
  by_cases hlen : options.maxPatternLength.toNat < text.utf8ByteSize
  · have hfail : (parse text options).outcome =
        .error ⟨text, .tooLong text.utf8ByteSize options.maxPatternLength.toNat⟩ := by
      simp only [parse, hlen, if_true]
      rfl
    rw [hfail]
    refine iff_of_false (fun h => ?_) fun h => absurd h.1 (by omega)
    cases h
  · have hread : (parse text options).outcome = ((scan 0 text.toList).bind fun items =>
        (ofScan options.duplicates items).outcome).mapError (⟨text, ·⟩) := by
      simp [parse, itemsOf, hlen, Traced.outcome_bind, Except.bind]
    rw [hread, Outline.read]
    cases scan 0 text.toList with
    | error e =>
      refine iff_of_false (fun h => ?_) ?_
      · cases h
      · rintro ⟨-, _, ho, -⟩
        cases ho
    | ok items =>
      show Except.mapError _ (ofScan options.duplicates items).outcome = _ ↔ _
      constructor
      · intro h
        cases ho : (ofScan options.duplicates items).outcome with
        | error e => rw [ho] at h; cases h
        | ok q =>
          rw [ho] at h
          cases h
          exact ⟨by omega, outcome_ofScan_eq_ok_iff.1 ho⟩
      · rintro ⟨-, h⟩
        rw [outcome_ofScan_eq_ok_iff.2 h]
        rfl

end Pattern

end PathGlob

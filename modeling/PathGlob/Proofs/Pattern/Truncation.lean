-- SUMMARY: Cutting a text into tokens fails only where the text is broken off, and says where.
import PathGlob.Proofs.Pattern.Tokens

/-!
# Texts that are broken off

A text is cut into items up to its end, up to a backslash that is its last character, or up to a
declaration that it ends within. `Unclosed` follows the constraint of such a declaration, where a
backslash at the end takes precedence over the open brace.
-/

namespace PathGlob.Pattern

/-! ## Ends of texts -/

def Tokenizes (text : String) : Prop := ∃ tokens, (tokenize text).outcome = .ok tokens

/-- Text that no escape is left open in. A backslash takes the next character with it. -/
inductive EscapesEnd : List Char → Prop
  | nil : EscapesEnd []
  | char {c : Char} {cs : List Char} : c ≠ '\\' → EscapesEnd cs → EscapesEnd (c :: cs)
  | escape {c : Char} {cs : List Char} : EscapesEnd cs → EscapesEnd ('\\' :: c :: cs)

/-- Whether no brace of a constraint's text closes the declaration: none that is not escaped stands
behind text with balanced braces. -/
def IsUnclosed (raw : List Char) : Prop := ∀ bs ds, raw = bs ++ '}' :: ds → ¬ Balanced bs

/-- Text behind an opening brace that the declaration does not end in. -/
inductive NeverCloses : List Char → Prop
  | inName {name : List Char} : '}' ∉ name → ':' ∉ name → NeverCloses name
  | inConstraint {name raw : List Char} :
      '}' ∉ name → ':' ∉ name → IsUnclosed raw → NeverCloses (name ++ ':' :: raw)

/-- Whether a text ends within the declaration that starts at byte `start`. -/
def EndsInDeclaration (text : String) (start : Nat) : Prop :=
  ∃ before after, text.toList = before.toList ++ '{' :: after ∧ before.utf8ByteSize = start ∧
    Tokenizes before ∧ NeverCloses after

/-- Whether a text ends behind a backslash that starts an escape, be it outside of declarations or
within a constraint. -/
inductive EndsInEscape (text : String) : Prop
  | outside {before : String} :
      text.toList = before.toList ++ ['\\'] → Tokenizes before → EndsInEscape text
  | inConstraint {before : String} {name raw : List Char} :
      text.toList = before.toList ++ '{' :: (name ++ ':' :: (raw ++ ['\\'])) → Tokenizes before →
      '}' ∉ name → ':' ∉ name → IsUnclosed raw → EscapesEnd raw → EndsInEscape text

/-! ## Constraints that are not closed -/

/-- The text of a constraint, read at a brace depth, that does not close the declaration. -/
inductive Unclosed : Nat → List Char → Prop
  | nil {depth : Nat} : Unclosed depth []
  | lone {depth : Nat} : Unclosed depth ['\\']
  | escape {depth : Nat} {c : Char} {cs : List Char} :
      Unclosed depth cs → Unclosed depth ('\\' :: c :: cs)
  | open {depth : Nat} {cs : List Char} : Unclosed (depth + 1) cs → Unclosed depth ('{' :: cs)
  | close {depth : Nat} {cs : List Char} : Unclosed depth cs → Unclosed (depth + 1) ('}' :: cs)
  | char {depth : Nat} {c : Char} {cs : List Char} :
      c ≠ '{' → c ≠ '}' → c ≠ '\\' → Unclosed depth cs → Unclosed depth (c :: cs)

theorem unclosed_of_not_closes : ∀ {cs : List Char} {depth : Nat},
    (∀ bs ds, cs = bs ++ '}' :: ds → ¬ Closes depth bs) → Unclosed depth cs
  | [], _, _ => .nil
  | c :: cs, depth, h => by
    by_cases hescape : c = '\\'
    · subst hescape
      cases cs with
      | nil => exact .lone
      | cons d cs =>
        refine .escape (unclosed_of_not_closes fun bs ds heq hbs => ?_)
        exact h ('\\' :: d :: bs) ds (by rw [heq]; rfl) hbs.escape
    by_cases hopen : c = '{'
    · subst hopen
      refine .open (unclosed_of_not_closes fun bs ds heq hbs => ?_)
      exact h ('{' :: bs) ds (by rw [heq]; rfl) hbs.open
    by_cases hclose : c = '}'
    · subst hclose
      cases depth with
      | zero => exact absurd Balanced.nil (h [] cs rfl)
      | succ depth =>
        refine .close (unclosed_of_not_closes fun bs ds heq hbs => ?_)
        exact h ('}' :: bs) ds (by rw [heq]; rfl) ⟨[], bs, rfl, .nil, hbs⟩
    · refine .char hopen hclose hescape (unclosed_of_not_closes fun bs ds heq hbs => ?_)
      exact h (c :: bs) ds (by rw [heq]; rfl) (hbs.char hopen hclose hescape)

variable {cs raw : List Char} {depth i : Nat} {items : List (Located Item)}

/-- A backslash behind such text starts an escape. -/
theorem EscapesEnd.not_append (h : EscapesEnd cs) : ¬ EscapesEnd (cs ++ ['\\']) := by
  induction h with
  | nil =>
    rintro (_ | ⟨hne, -⟩)
    exact hne rfl
  | @char c cs hc _ ih =>
    generalize heq : c :: cs ++ ['\\'] = ds
    rintro (_ | ⟨_, hds⟩ | hds)
    · cases heq
    · obtain ⟨-, rfl⟩ := List.cons.inj heq
      exact ih hds
    · exact hc (List.cons.inj heq).1
  | @escape c cs _ ih =>
    rintro (_ | ⟨hne, -⟩ | hds)
    · exact hne rfl
    · exact ih hds

/-- Where reading a constraint from byte `i` on fails if its text does not close the declaration,
which starts at byte `start`. -/
def Fails (start i : Nat) (raw : List Char) (result : Scan) : Prop :=
  (∃ whole, raw = whole ++ ['\\'] ∧ EscapesEnd whole ∧
      result = .error (.loneEscape (i + byteLength whole))) ∨
    EscapesEnd raw ∧ result = .error (.unterminatedVariable start)

theorem Fails.char {start i : Nat} {c : Char} {raw : List Char} {result : Scan} (hc : c ≠ '\\')
    (h : Fails start (i + c.utf8Size) raw result) : Fails start i (c :: raw) result := by
  obtain ⟨whole, rfl, hwhole, h⟩ | ⟨hraw, h⟩ := h
  · exact .inl ⟨c :: whole, rfl, hwhole.char hc, by rw [h, byteLength_cons, Nat.add_assoc]⟩
  · exact .inr ⟨hraw.char hc, h⟩

theorem Fails.escape {start i : Nat} {c : Char} {raw : List Char} {result : Scan}
    (h : Fails start (i + 1 + c.utf8Size) raw result) :
    Fails start i ('\\' :: c :: raw) result := by
  obtain ⟨whole, rfl, hwhole, h⟩ | ⟨hraw, h⟩ := h
  · refine .inl ⟨'\\' :: c :: whole, rfl, hwhole.escape, ?_⟩
    rw [h, byteLength_cons, byteLength_cons, Nat.add_assoc, Nat.add_assoc]
    rfl
  · exact .inr ⟨hraw.escape, h⟩

theorem Unclosed.fails (h : Unclosed depth raw) (start : Nat) (name : String) (read : List Char)
    (i : Nat) : Fails start i raw (scanConstraint start name read depth i raw) := by
  induction h generalizing read i with
  | nil => exact .inr ⟨.nil, scanConstraint.eq_1 ..⟩
  | lone => exact .inl ⟨[], rfl, .nil, scanConstraint.eq_2 ..⟩
  | escape _ ih =>
    rw [scanConstraint.eq_3]
    exact .escape (ih ..)
  | «open» _ ih =>
    rw [scanConstraint.eq_4]
    exact .char (by decide) (ih ..)
  | close _ ih =>
    rw [scanConstraint.eq_6]
    exact .char (by decide) (ih ..)
  | char hopen hclose hescape _ ih =>
    rw [scanConstraint.eq_7 _ _ _ _ _ _ _ (fun h => absurd h hescape)
      (fun _ _ h => absurd h hescape) hopen hclose]
    exact .char hescape (ih ..)

theorem closes_replicate (depth : Nat) : Closes depth (List.replicate depth '}') := by
  induction depth with
  | zero => exact Balanced.nil
  | succ depth ih => exact ⟨[], List.replicate depth '}', rfl, .nil, ih⟩

/-- Such a constraint can be continued to one that closes as many braces as are open. -/
theorem Unclosed.exists_closes (h : Unclosed depth raw) :
    ∃ suffix, Closes depth (raw ++ suffix) := by
  induction h with
  | @nil depth => exact ⟨_, closes_replicate depth⟩
  | @lone depth => exact ⟨'\\' :: List.replicate depth '}', (closes_replicate depth).escape⟩
  | escape _ ih =>
    obtain ⟨suffix, h⟩ := ih
    exact ⟨suffix, h.escape⟩
  | «open» _ ih =>
    obtain ⟨suffix, h⟩ := ih
    exact ⟨suffix, h.open⟩
  | @close depth cs _ ih =>
    obtain ⟨suffix, h⟩ := ih
    exact ⟨suffix, [], cs ++ suffix, rfl, .nil, h⟩
  | char hopen hclose hescape _ ih =>
    obtain ⟨suffix, h⟩ := ih
    exact ⟨suffix, h.char hopen hclose hescape⟩

/-! ## Declarations that are not closed -/

theorem IsUnclosed.unclosed (h : IsUnclosed raw) : Unclosed 0 raw := unclosed_of_not_closes h

theorem IsUnclosed.of_append {ds : List Char} (h : IsUnclosed (raw ++ ds)) : IsUnclosed raw := by
  rintro bs es rfl
  exact h bs (es ++ ds) (by simp)

theorem IsUnclosed.backslash (h : IsUnclosed raw) : IsUnclosed (raw ++ ['\\']) := by
  intro bs ds heq
  rcases List.eq_nil_or_concat ds with rfl | ⟨es, d, rfl⟩
  · exact absurd (List.append_inj_right' heq rfl) (by decide)
  · rw [List.concat_eq_append, ← List.cons_append, ← List.append_assoc] at heq
    exact h bs es (List.append_inj_left' heq rfl)

/-- A declaration is closed by the first brace or colon behind its name, or its constraint is not
closed. -/
theorem neverCloses_or (cs : List Char) :
    NeverCloses cs ∨ ∃ name, '}' ∉ name ∧ ':' ∉ name ∧
      ((∃ rest, cs = name ++ '}' :: rest) ∨
        ∃ raw rest, cs = name ++ ':' :: raw ++ '}' :: rest ∧ Balanced raw) := by
  cases hfind : cs.find? fun c => c = '}' ∨ c = ':' with
  | none =>
    have hcs : ∀ c ∈ cs, ¬ (c = '}' ∨ c = ':') := by simpa using hfind
    exact .inl (.inName (fun h => hcs _ h (.inl rfl)) fun h => hcs _ h (.inr rfl))
  | some c =>
    obtain ⟨hc, name, rest, rfl, hname⟩ := List.find?_eq_some_iff_append.1 hfind
    have hbrace : '}' ∉ name := fun h => by simpa using hname _ h
    have hcolon : ':' ∉ name := fun h => by simpa using hname _ h
    rcases of_decide_eq_true hc with rfl | rfl
    · exact .inr ⟨name, hbrace, hcolon, .inl ⟨rest, rfl⟩⟩
    · by_cases hclosed : IsUnclosed rest
      · exact .inl (.inConstraint hbrace hcolon hclosed)
      · simp only [IsUnclosed, Classical.not_forall, Classical.not_not] at hclosed
        obtain ⟨raw, after, rfl, hraw⟩ := hclosed
        exact .inr ⟨name, hbrace, hcolon, .inr ⟨raw, after, by simp, hraw⟩⟩

theorem scan_constraint {name : List Char} (hbrace : '}' ∉ name) (hcolon : ':' ∉ name) (i : Nat) :
    scan i ('{' :: (name ++ ':' :: raw)) =
      scanConstraint i (.ofList name) [] 0 (i + byteLength ('{' :: (name ++ [':']))) raw := by
  rw [scan.eq_2, scanName_append hbrace hcolon, scanName.eq_3]
  simp [Char.utf8Size, Nat.add_assoc]

theorem NeverCloses.exists_scan (h : NeverCloses cs) (i : Nat) :
    ∃ suffix items, scan i ('{' :: (cs ++ suffix)) = .ok items := by
  cases h with
  | inName hbrace hcolon => exact ⟨['}'], _, (scan_var hbrace hcolon i []).trans rfl⟩
  | @inConstraint name raw hbrace hcolon hraw =>
    obtain ⟨suffix, hclosed⟩ := hraw.unclosed.exists_closes
    have hscan := scan_constrained hbrace hcolon hclosed i []
    refine ⟨suffix ++ ['}'], _, Eq.trans ?_ (hscan.trans rfl)⟩
    simp

/-! ## Whole texts -/

theorem tokenizes_iff {text : String} : Tokenizes text ↔ ∃ items, Cuts 0 text.toList items := by
  constructor
  · rintro ⟨tokens, h⟩
    obtain ⟨items, hitems, -⟩ := outcome_tokenize_eq_ok_iff.1 h
    exact ⟨items, hitems⟩
  · rintro ⟨items, hitems⟩
    exact ⟨_, outcome_tokenize_eq_ok_iff.2 ⟨items, hitems, rfl⟩⟩

theorem Cuts.scan_eq_error {us vs : List Char} {f : Fault} (h : Cuts i us items)
    (hstar : vs.head? ≠ some '*') (hvs : scan (i + byteLength us) vs = .error f) :
    scan i (us ++ vs) = .error f := by
  induction h with
  | nil => exact hvs
  | @cons i item rest items hitem hwild _ ih =>
    rw [byteLength_append, ← Nat.add_assoc] at hvs
    rw [List.append_assoc, scan_item hitem, ih hvs]
    · rfl
    · intro heq
      cases rest with
      | nil => exact hstar
      | cons c cs => exact hwild heq

/-- What a text has left that is no item. -/
inductive Remains : List Char → Prop
  | nothing : Remains []
  | backslash : Remains ['\\']
  | declaration {cs : List Char} : NeverCloses cs → Remains ('{' :: cs)

/-- Induction on the length of the text: it starts with an item, or it is what remains. -/
theorem exists_cuts (i : Nat) (cs : List Char) :
    ∃ us vs items, cs = us ++ vs ∧ Cuts i us items ∧ Remains vs := by
  induction hn : cs.length using Nat.strongRecOn generalizing i cs with
  | _ n ih =>
    subst hn
    match cs with
    | [] => exact ⟨[], [], [], rfl, .nil, .nothing⟩
    | c :: cs =>
      by_cases hremains : Remains (c :: cs)
      · exact ⟨[], c :: cs, [], rfl, .nil, hremains⟩
      obtain ⟨item, rest, heq, hitem, hstar⟩ : ∃ (item : Item) (rest : List Char),
          c :: cs = item.spelling ++ rest ∧ item.IsCanonical ∧
            (item = .wildcard → rest.head? ≠ some '*') := by
        refine exists_item ?_ ?_
        · rintro rfl
          exact (neverCloses_or cs).resolve_left fun h => hremains (.declaration h)
        · rintro rfl rfl
          exact hremains .backslash
      have hlength : rest.length < (c :: cs).length := by
        rw [heq, List.length_append]
        have hpos := List.length_pos_iff.2 item.spelling_ne_nil
        omega
      obtain ⟨us, vs, items, rfl, hus, hvs⟩ :=
        ih _ hlength (i + byteLength item.spelling) rest rfl
      refine ⟨item.spelling ++ us, vs, _, by rw [heq, List.append_assoc], .cons hitem ?_ hus, hvs⟩
      intro hwild hhead
      exact hstar hwild (by rw [List.head?_append, hhead]; rfl)

variable {text : String}

theorem scan_of_endsInEscape (h : EndsInEscape text) :
    ∃ i, i + 1 = text.utf8ByteSize ∧ scan 0 text.toList = .error (.loneEscape i) := by
  have hbackslash : byteLength ['\\'] = 1 := rfl
  cases h with
  | @outside before htext hbefore =>
    obtain ⟨items, hitems⟩ := tokenizes_iff.1 hbefore
    refine ⟨0 + byteLength before.toList, ?_, ?_⟩
    · rw [utf8ByteSize_eq, htext, byteLength_append, hbackslash, Nat.zero_add]
    · rw [htext]
      exact hitems.scan_eq_error (by simp) (scan.eq_4 _)
  | @inConstraint before name raw htext hbefore hbrace hcolon hraw hescapes =>
    obtain ⟨items, hitems⟩ := tokenizes_iff.1 hbefore
    have hfails := hraw.backslash.unclosed.fails (0 + byteLength before.toList) (.ofList name) []
      (0 + byteLength before.toList + byteLength ('{' :: (name ++ [':'])))
    obtain ⟨whole, heq, -, hscan⟩ | ⟨hends, -⟩ := hfails
    · obtain rfl : raw = whole := List.append_inj_left' heq rfl
      refine ⟨0 + byteLength before.toList + byteLength ('{' :: (name ++ [':'])) + byteLength raw,
        ?_, ?_⟩
      · rw [utf8ByteSize_eq, htext]
        simp only [byteLength_append, byteLength_cons, byteLength_nil, hbackslash]
        omega
      · rw [htext]
        exact hitems.scan_eq_error (by simp) ((scan_constraint hbrace hcolon _).trans hscan)
    · exact absurd hends hescapes.not_append

theorem scan_of_endsInDeclaration {start : Nat} (hescape : ¬ EndsInEscape text)
    (h : EndsInDeclaration text start) :
    scan 0 text.toList = .error (.unterminatedVariable start) := by
  obtain ⟨before, after, htext, rfl, hbefore, hafter⟩ := h
  obtain ⟨items, hitems⟩ := tokenizes_iff.1 hbefore
  rw [htext, utf8ByteSize_eq]
  refine hitems.scan_eq_error (by simp) ?_
  rw [Nat.zero_add]
  cases hafter with
  | inName hbrace hcolon =>
    have hscan := scanName_append hbrace hcolon (byteLength before.toList) []
      (byteLength before.toList + 1) []
    rw [List.append_nil] at hscan
    rw [scan.eq_2, hscan, scanName.eq_1]
  | @inConstraint name raw hbrace hcolon hraw =>
    rw [scan_constraint hbrace hcolon]
    obtain ⟨whole, rfl, hwhole, -⟩ | ⟨-, hscan⟩ := hraw.unclosed.fails
      (byteLength before.toList) (.ofList name) [] _
    · exact absurd (.inConstraint htext hbefore hbrace hcolon hraw.of_append hwhole) hescape
    · exact hscan

theorem ends_of_scan {f : Fault} (h : scan 0 text.toList = .error f) :
    EndsInEscape text ∨ ∃ start, EndsInDeclaration text start := by
  obtain ⟨us, vs, items, htext, hus, hvs⟩ := exists_cuts 0 text.toList
  have hbefore : Tokenizes (.ofList us) := tokenizes_iff.2 ⟨items, by rwa [String.toList_ofList]⟩
  cases hvs with
  | nothing =>
    rw [htext, List.append_nil, scan_eq_ok_iff.2 hus] at h
    cases h
  | backslash => exact .inl (.outside (by rwa [String.toList_ofList]) hbefore)
  | declaration hafter =>
    exact .inr ⟨_, .ofList us, _, by rwa [String.toList_ofList], rfl, hbefore, hafter⟩

theorem exists_continuation (text : String) : ∃ suffix, Tokenizes (text ++ suffix) := by
  obtain ⟨us, vs, items, htext, hus, hvs⟩ := exists_cuts 0 text.toList
  obtain ⟨suffix, rest, hstar, hrest⟩ : ∃ suffix rest, (vs ++ suffix).head? ≠ some '*' ∧
      scan (0 + byteLength us) (vs ++ suffix) = .ok rest := by
    cases hvs with
    | nothing => exact ⟨[], [], by simp, scan.eq_1 _⟩
    | backslash => exact ⟨['\\'], _, by simp, scan.eq_5 _ _ _⟩
    | declaration hafter =>
      obtain ⟨suffix, rest, hscan⟩ := hafter.exists_scan (0 + byteLength us)
      exact ⟨suffix, rest, by simp, hscan⟩
  refine ⟨.ofList suffix, tokenizes_iff.2 ⟨items ++ rest, ?_⟩⟩
  rw [String.toList_append, String.toList_ofList, htext, List.append_assoc]
  exact hus.append (scan_eq_ok_iff.1 hrest) hstar

theorem outcome_tokenize_eq_error_iff {e : Error} :
    (tokenize text).outcome = .error e ↔
      ∃ f, scan 0 text.toList = .error f ∧ e = ⟨text, f⟩ := by
  rw [tokenize, Traced.outcome_mapError, Traced.outcome_bind, itemsOf, Traced.outcome_bind]
  cases scan 0 text.toList with
  | error f => simp [Except.bind, Except.mapError, eq_comm]
  | ok items => simp [Except.bind, Except.mapError]

theorem outcome_tokenize_of_endsInEscape (h : EndsInEscape text) :
    ∃ i, i + 1 = text.utf8ByteSize ∧ (tokenize text).outcome = .error ⟨text, .loneEscape i⟩ := by
  obtain ⟨i, hi, hscan⟩ := scan_of_endsInEscape h
  exact ⟨i, hi, outcome_tokenize_eq_error_iff.2 ⟨_, hscan, rfl⟩⟩

theorem outcome_tokenize_of_endsInDeclaration {start : Nat} (hescape : ¬ EndsInEscape text)
    (h : EndsInDeclaration text start) :
    (tokenize text).outcome = .error ⟨text, .unterminatedVariable start⟩ :=
  outcome_tokenize_eq_error_iff.2 ⟨_, scan_of_endsInDeclaration hescape h, rfl⟩

/-- The two ways in which cutting a text fails. -/
theorem truncated_of_outcome_tokenize {e : Error} (h : (tokenize text).outcome = .error e) :
    EndsInEscape text ∧ (∃ i, i + 1 = text.utf8ByteSize ∧ e = ⟨text, .loneEscape i⟩) ∨
      ¬ EndsInEscape text ∧
        ∃ start, EndsInDeclaration text start ∧ e = ⟨text, .unterminatedVariable start⟩ := by
  obtain ⟨f, hscan, -⟩ := outcome_tokenize_eq_error_iff.1 h
  by_cases hescape : EndsInEscape text
  · obtain ⟨i, hi, h'⟩ := outcome_tokenize_of_endsInEscape hescape
    exact .inl ⟨hescape, i, hi, Except.error.inj (h.symm.trans h')⟩
  · obtain ⟨start, hstart⟩ := (ends_of_scan hscan).resolve_left hescape
    have h' := outcome_tokenize_of_endsInDeclaration hescape hstart
    exact .inr ⟨hescape, start, hstart, Except.error.inj (h.symm.trans h')⟩

/-- A text is rejected if it ends within an escape or a declaration, and any text can be continued
to one that is not. The error points at a backslash that ends the text, if that starts an escape,
and otherwise at the one declaration that the text ends in. -/
theorem tokenize_rejects_truncated (text : String) :
    ((∃ e, (tokenize text).outcome = .error e) ↔
        EndsInEscape text ∨ ∃ start, EndsInDeclaration text start) ∧
      (∃ suffix, Tokenizes (text ++ suffix)) ∧
      (∀ i, (tokenize text).outcome = .error ⟨text, .loneEscape i⟩ ↔
        EndsInEscape text ∧ i + 1 = text.utf8ByteSize) ∧
      (∀ start, (tokenize text).outcome = .error ⟨text, .unterminatedVariable start⟩ ↔
        ¬ EndsInEscape text ∧ EndsInDeclaration text start) ∧
      (¬ EndsInEscape text → ∀ start other,
        EndsInDeclaration text start → EndsInDeclaration text other → start = other) := by
  refine ⟨⟨?_, fun h => ?_⟩, exists_continuation text, fun i => ⟨fun h => ?_, ?_⟩,
    fun start => ⟨fun h => ?_, ?_⟩, fun hescape start other hstart hother => ?_⟩
  · rintro ⟨e, h⟩
    obtain ⟨hescape, -⟩ | ⟨-, start, hstart, -⟩ := truncated_of_outcome_tokenize h
    · exact .inl hescape
    · exact .inr ⟨start, hstart⟩
  · by_cases hescape : EndsInEscape text
    · obtain ⟨i, -, h⟩ := outcome_tokenize_of_endsInEscape hescape
      exact ⟨_, h⟩
    · obtain ⟨start, hstart⟩ := h.resolve_left hescape
      exact ⟨_, outcome_tokenize_of_endsInDeclaration hescape hstart⟩
  · obtain ⟨hescape, j, hj, heq⟩ | ⟨-, start, -, heq⟩ := truncated_of_outcome_tokenize h
    · cases heq
      exact ⟨hescape, hj⟩
    · cases heq
  · rintro ⟨hescape, hi⟩
    obtain ⟨j, hj, h⟩ := outcome_tokenize_of_endsInEscape hescape
    obtain rfl : i = j := by omega
    exact h
  · obtain ⟨-, i, -, heq⟩ | ⟨hescape, start', hstart, heq⟩ := truncated_of_outcome_tokenize h
    · cases heq
    · cases heq
      exact ⟨hescape, hstart⟩
  · rintro ⟨hescape, hstart⟩
    exact outcome_tokenize_of_endsInDeclaration hescape hstart
  · have h := outcome_tokenize_of_endsInDeclaration hescape hstart
    have h' := outcome_tokenize_of_endsInDeclaration hescape hother
    cases h.symm.trans h'
    rfl

/-- Backslashes start escapes within constraints and not within names. -/
example :
    (tokenize "é\x7bn\\").outcome = .error ⟨"é\x7bn\\", .unterminatedVariable 2⟩ ∧
      (tokenize "é\x7bn:\\").outcome = .error ⟨"é\x7bn:\\", .loneEscape 5⟩ :=
  ⟨rfl, rfl⟩

end PathGlob.Pattern

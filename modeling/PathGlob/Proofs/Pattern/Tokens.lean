-- SUMMARY: Pattern text and its tokens determine each other: tokens tile the text they are cut from, and canonical tokens are read back.
import Mathlib.Tactic.SplitIfs
import PathGlob.Proofs.Pattern.Scanning

/-!
# Tokens and their text

`Cuts` says how a text falls into items without reference to how it is read, and `scan_eq_ok_iff`
that scanning finds just these items. Spellings and offsets are then followed along the items, and
the token sequences that text is cut into turn out to be the canonical ones.
-/

namespace PathGlob.Pattern

/-! ## Items of a text -/

namespace Item

def spelling (item : Item) : List Char := item.tokens.flatMap Token.spelling

/-- Whether an item is one that its spelling is read as, apart from stars that may follow it. -/
def IsCanonical : Item → Prop
  | .literal c => ¬ IsReserved c
  | .declaration name constraint =>
    '}' ∉ name.toList ∧ ':' ∉ name.toList ∧ ∀ raw ∈ constraint, Balanced raw.toList
  | _ => True

theorem spelling_ne_nil (item : Item) : item.spelling ≠ [] := by
  cases item with
  | declaration name constraint => cases constraint <;> exact List.cons_ne_nil _ _
  | _ => exact List.cons_ne_nil _ _

theorem spelling_ofChar {c : Char} (hopen : c ≠ '{') (hescape : c ≠ '\\') :
    (ofChar c).spelling = [c] ∧ (ofChar c).IsCanonical := by
  unfold ofChar
  split_ifs with hstop hstar hclose hgroup hend hbar hmark
  case neg =>
    have hc : ¬ IsReserved c := by
      simp [IsReserved, hopen, hclose, hstar, hescape, hstop, hgroup, hend, hbar, hmark]
    exact ⟨rfl, hc⟩
  all_goals
    subst c
    exact ⟨rfl, trivial⟩

theorem ofChar_ne_wildcard {c : Char} (h : c ≠ '*') : ofChar c ≠ .wildcard := by
  unfold ofChar
  split_ifs <;> simp

end Item

/-- How a text that starts at byte `i` falls into items. A single star has no star after it. -/
inductive Cuts : Nat → List Char → List (Located Item) → Prop
  | nil {i : Nat} : Cuts i [] []
  | cons {i : Nat} {item : Item} {rest : List Char} {items : List (Located Item)} :
      item.IsCanonical → (item = .wildcard → rest.head? ≠ some '*') →
      Cuts (i + byteLength item.spelling) rest items →
      Cuts i (item.spelling ++ rest) (⟨i, item⟩ :: items)

variable {i : Nat} {cs : List Char} {items : List (Located Item)} {item : Item} {ts us : List Token}

theorem Scan.cons_eq_ok {scanned : Scan} (h : Scan.cons i item scanned = .ok items) :
    ∃ tail, scanned = .ok tail ∧ items = ⟨i, item⟩ :: tail := by
  cases scanned with
  | error e => cases h
  | ok tail =>
    cases h
    exact ⟨tail, rfl, rfl⟩

/-- An item in front of further text is read off it. -/
theorem scan_item (h : item.IsCanonical) {rest : List Char}
    (hstar : item = .wildcard → rest.head? ≠ some '*') (i : Nat) :
    scan i (item.spelling ++ rest) =
      .cons i item (scan (i + byteLength item.spelling) rest) := by
  cases item with
  | literal c =>
    show scan i (c :: rest) = .cons i (.literal c) (scan (i + c.utf8Size) rest)
    rw [scan_symbol (not_mem_of_not_reserved h), Item.ofChar_of_not_reserved h]
  | escaped c =>
    have hbytes : byteLength ['\\', c] = 1 + c.utf8Size := rfl
    show scan i ('\\' :: c :: rest) = .cons i (.escaped c) (scan (i + byteLength ['\\', c]) rest)
    rw [scan.eq_5, hbytes, Nat.add_assoc]
  | wildcard => exact scan_char (by decide) (by decide) (fun _ => hstar rfl) i
  | recursiveWildcard => exact scan.eq_3 i rest
  | declaration name constraint =>
    obtain ⟨hbrace, hcolon, hraw⟩ := h
    cases constraint with
    | none =>
      have hscan := scan_var hbrace hcolon i rest
      rw [String.ofList_toList] at hscan
      simpa [Item.spelling, Item.tokens, Token.spelling, Nat.add_assoc, Char.utf8Size] using hscan
    | some raw =>
      have hscan := scan_constrained hbrace hcolon (hraw raw rfl) i rest
      rw [String.ofList_toList, String.ofList_toList] at hscan
      simpa [Item.spelling, Item.tokens, Token.spelling, Nat.add_assoc, Char.utf8Size] using hscan
  | fullStop | closingBrace | groupOpen | groupClose | alternation | optional =>
    exact scan_symbol (by decide) i

/-- A text starts with an item if a brace in front opens a declaration that is closed, and a backslash
is not all there is. -/
theorem exists_item {c : Char}
    (hdeclaration : c = '{' → ∃ name, '}' ∉ name ∧ ':' ∉ name ∧
      ((∃ rest, cs = name ++ '}' :: rest) ∨
        ∃ raw rest, cs = name ++ ':' :: raw ++ '}' :: rest ∧ Balanced raw))
    (hbackslash : c = '\\' → cs ≠ []) :
    ∃ (item : Item) (rest : List Char), c :: cs = item.spelling ++ rest ∧ item.IsCanonical ∧
      (item = .wildcard → rest.head? ≠ some '*') := by
  by_cases hopen : c = '{'
  · obtain ⟨name, hbrace, hcolon, hrest⟩ := hdeclaration hopen
    subst hopen
    rcases hrest with ⟨rest, rfl⟩ | ⟨raw, rest, rfl, hraw⟩
    · refine ⟨.declaration (.ofList name) none, rest, ?_, ?_, by simp⟩
      · simp [Item.spelling, Item.tokens, Token.spelling]
      · simpa [Item.IsCanonical] using ⟨hbrace, hcolon⟩
    · refine ⟨.declaration (.ofList name) (some (.ofList raw)), rest, ?_, ?_, by simp⟩
      · simp [Item.spelling, Item.tokens, Token.spelling]
      · simpa [Item.IsCanonical] using ⟨hbrace, hcolon, hraw⟩
  by_cases hescape : c = '\\'
  · obtain ⟨d, rest, rfl⟩ := List.exists_cons_of_ne_nil (hbackslash hescape)
    subst hescape
    exact ⟨.escaped d, rest, rfl, trivial, by simp⟩
  obtain ⟨hspelling, hcanonical⟩ := Item.spelling_ofChar hopen hescape
  by_cases hstars : c = '*' ∧ cs.head? = some '*'
  · obtain ⟨rfl, hhead⟩ := hstars
    obtain ⟨rest, rfl⟩ := List.head?_eq_some_iff.1 hhead
    exact ⟨.recursiveWildcard, rest, rfl, trivial, by simp⟩
  · refine ⟨.ofChar c, cs, by rw [hspelling]; rfl, hcanonical, fun hitem hhead => ?_⟩
    have hstar : c = '*' := Decidable.not_not.1 fun hne => Item.ofChar_ne_wildcard hne hitem
    exact hstars ⟨hstar, hhead⟩

theorem exists_item_of_scan {c : Char} (h : scan i (c :: cs) = .ok items) :
    ∃ (item : Item) (rest : List Char), c :: cs = item.spelling ++ rest ∧ item.IsCanonical ∧
      (item = .wildcard → rest.head? ≠ some '*') := by
  refine exists_item ?_ ?_
  · rintro rfl
    exact exists_declaration_of_scan h
  · rintro rfl rfl
    rw [scan.eq_4] at h
    cases h

/-- Scanning cuts a text into its items. -/
theorem scan_eq_ok_iff : scan i cs = .ok items ↔ Cuts i cs items := by
  constructor
  · intro h
    induction items generalizing i cs with
    | nil =>
      cases cs with
      | nil => exact .nil
      | cons c cs =>
        obtain ⟨item, rest, heq, hitem, hstar⟩ := exists_item_of_scan h
        rw [heq, scan_item hitem hstar] at h
        obtain ⟨_, -, h⟩ := Scan.cons_eq_ok h
        cases h
    | cons x tail ih =>
      cases cs with
      | nil => rw [scan.eq_1] at h; cases h
      | cons c cs =>
        obtain ⟨item, rest, heq, hitem, hstar⟩ := exists_item_of_scan h
        rw [heq, scan_item hitem hstar] at h
        obtain ⟨_, htail, h⟩ := Scan.cons_eq_ok h
        cases h
        rw [heq]
        exact .cons hitem hstar (ih htail)
  · intro h
    induction h with
    | nil => exact scan.eq_1 _
    | cons hitem hstar _ ih =>
      rw [scan_item hitem hstar, ih]
      rfl

theorem Cuts.split {xs ys : List (Located Item)} (h : Cuts i cs (xs ++ ys)) :
    ∃ us vs, cs = us ++ vs ∧ Cuts i us xs ∧ Cuts (i + byteLength us) vs ys := by
  induction xs generalizing i cs with
  | nil => exact ⟨[], cs, rfl, .nil, h⟩
  | cons x xs ih =>
    obtain _ | ⟨hitem, hstar, hrest⟩ := h
    obtain ⟨us, vs, rfl, hus, hvs⟩ := ih hrest
    rw [Nat.add_assoc, ← byteLength_append] at hvs
    refine ⟨_, vs, (List.append_assoc _ us vs).symm, .cons hitem (fun hwild hhead => ?_) hus, hvs⟩
    exact hstar hwild (by rw [List.head?_append, hhead]; rfl)

/-- Texts one after the other fall into the items of both, unless stars would join. -/
theorem Cuts.append {us vs : List Char} {xs ys : List (Located Item)} (h : Cuts i us xs)
    (h' : Cuts (i + byteLength us) vs ys) (hstar : vs.head? ≠ some '*') :
    Cuts i (us ++ vs) (xs ++ ys) := by
  induction h with
  | nil => exact h'
  | @cons i item rest items hitem hwild _ ih =>
    rw [byteLength_append, ← Nat.add_assoc] at h'
    rw [List.append_assoc, List.cons_append]
    refine .cons hitem (fun heq => ?_) (ih h')
    cases rest with
    | nil => exact hstar
    | cons c cs => exact hwild heq

/-- The items of a text determine where they stand. -/
theorem Cuts.eq_of_map_value {us vs : List Char} {xs ys : List (Located Item)} (h : Cuts i us xs)
    (h' : Cuts i vs ys) (heq : xs.map Located.value = ys.map Located.value) : xs = ys := by
  induction h generalizing vs ys with
  | nil => exact (List.map_eq_nil_iff.1 heq.symm).symm
  | cons _ _ _ ih =>
    cases h' with
    | nil => cases heq
    | cons _ _ hrest =>
      obtain ⟨rfl, htail⟩ := List.cons.inj heq
      rw [ih hrest htail]

/-! ## Tokens of a text -/

/-- The text of some tokens. -/
def spell (ts : List Token) : String := .ofList (ts.flatMap Token.spelling)

/-- Whether a token stands by itself. The others are parts of declarations. -/
def Token.IsPlain : Token → Prop
  | .literal c => ¬ IsReserved c
  | .variableOpen | .variableName _ | .variableSeparator | .constraint _ => False
  | _ => True

/-- The token sequences that texts are cut into. A closing token outside of declarations is a stray
brace. -/
inductive Canonical : List Token → Prop
  | nil : Canonical []
  | plain {t : Token} {ts : List Token} :
      t.IsPlain →
      (t = .wildcard → ts.head? ≠ some .wildcard ∧ ts.head? ≠ some .recursiveWildcard) →
      Canonical ts → Canonical (t :: ts)
  | var {name : String} {ts : List Token} :
      '}' ∉ name.toList → ':' ∉ name.toList → Canonical ts →
      Canonical (.variableOpen :: .variableName name :: .variableClose :: ts)
  | constrained {name raw : String} {ts : List Token} :
      '}' ∉ name.toList → ':' ∉ name.toList → Balanced raw.toList → Canonical ts →
      Canonical (.variableOpen :: .variableName name :: .variableSeparator :: .constraint raw ::
        .variableClose :: ts)

/-- Only the tokens for stars are spelled with a star in front. -/
theorem Canonical.head?_of_star (h : Canonical ts)
    (hstar : (ts.flatMap Token.spelling).head? = some '*') :
    ts.head? = some .wildcard ∨ ts.head? = some .recursiveWildcard := by
  cases h with
  | nil => cases hstar
  | @plain t ts ht _ _ =>
    cases t with
    | literal c =>
      obtain rfl : c = '*' := Option.some.inj hstar
      exact absurd (by decide) ht
    | wildcard => exact .inl rfl
    | recursiveWildcard => exact .inr rfl
    | variableOpen | variableName _ | variableSeparator | constraint _ => exact ht.elim
    | _ => exact absurd (Option.some.inj hstar) (by decide)
  | var _ _ _ => exact absurd (Option.some.inj hstar) (by decide)
  | constrained _ _ _ _ => exact absurd (Option.some.inj hstar) (by decide)

theorem head?_spelling_of_star
    (h : ts.head? = some .wildcard ∨ ts.head? = some .recursiveWildcard) :
    (ts.flatMap Token.spelling).head? = some '*' := by
  rcases h with h | h <;> obtain ⟨us, rfl⟩ := List.head?_eq_some_iff.1 h <;> rfl

theorem locate_append (i : Nat) (ts us : List Token) :
    locate i (ts ++ us) =
      locate i ts ++ locate (i + byteLength (ts.flatMap Token.spelling)) us := by
  induction ts generalizing i with
  | nil => rfl
  | cons t ts ih => simp [locate, ih, Nat.add_assoc]

@[simp] theorem map_value_locate (i : Nat) (ts : List Token) :
    (locate i ts).map Located.value = ts := by
  induction ts generalizing i with
  | nil => rfl
  | cons t ts ih => simp [locate, ih]

theorem length_locate (i : Nat) (ts : List Token) : (locate i ts).length = ts.length := by
  rw [← List.length_map Located.value, map_value_locate]

theorem Cuts.spelling_eq (h : Cuts i cs items) :
    (items.flatMap fun x => x.value.tokens).flatMap Token.spelling = cs := by
  induction h with
  | nil => rfl
  | @cons i item rest items _ _ _ ih =>
    rw [List.flatMap_cons, List.flatMap_append, ih]
    rfl

theorem Cuts.locate_eq (h : Cuts i cs items) :
    (items.flatMap fun x => locate x.index x.value.tokens) =
      locate i (items.flatMap fun x => x.value.tokens) := by
  induction h with
  | nil => rfl
  | @cons i item rest items _ _ _ ih =>
    rw [List.flatMap_cons, List.flatMap_cons, locate_append, ih]
    rfl

theorem Cuts.canonical (h : Cuts i cs items) :
    Canonical (items.flatMap fun x => x.value.tokens) := by
  induction h with
  | nil => exact .nil
  | @cons i item rest items hitem hstar hrest ih =>
    rw [List.flatMap_cons]
    cases item with
    | declaration name constraint =>
      obtain ⟨hbrace, hcolon, hraw⟩ := hitem
      cases constraint with
      | none => exact .var hbrace hcolon ih
      | some raw => exact .constrained hbrace hcolon (hraw raw rfl) ih
    | wildcard =>
      have hhead := mt head?_spelling_of_star (hrest.spelling_eq ▸ hstar rfl)
      exact .plain trivial (fun _ => not_or.1 hhead) ih
    | literal c => exact .plain hitem nofun ih
    | _ => exact .plain trivial nofun ih

theorem exists_cuts_cons (item : Item) (hitem : item.IsCanonical)
    (hstar : item = .wildcard → (ts.flatMap Token.spelling).head? ≠ some '*')
    (hts : ∀ i, ∃ items, Cuts i (ts.flatMap Token.spelling) items ∧
      (items.flatMap fun x => x.value.tokens) = ts) (i : Nat) :
    ∃ items, Cuts i ((item.tokens ++ ts).flatMap Token.spelling) items ∧
      (items.flatMap fun x => x.value.tokens) = item.tokens ++ ts := by
  obtain ⟨items, hcuts, htail⟩ := hts (i + byteLength item.spelling)
  refine ⟨⟨i, item⟩ :: items, ?_, by rw [List.flatMap_cons, htail]⟩
  rw [List.flatMap_append]
  exact .cons hitem hstar hcuts

theorem Canonical.cuts (h : Canonical ts) (i : Nat) :
    ∃ items, Cuts i (ts.flatMap Token.spelling) items ∧
      (items.flatMap fun x => x.value.tokens) = ts := by
  induction h generalizing i with
  | nil => exact ⟨[], .nil, rfl⟩
  | @plain t ts ht hstar hts ih =>
    cases t with
    | literal c => exact exists_cuts_cons (.literal c) ht nofun ih i
    | escaped c => exact exists_cuts_cons (.escaped c) trivial nofun ih i
    | fullStop => exact exists_cuts_cons .fullStop trivial nofun ih i
    | wildcard =>
      have hhead : (ts.flatMap Token.spelling).head? ≠ some '*' :=
        fun h => (hts.head?_of_star h).elim (hstar rfl).1 (hstar rfl).2
      exact exists_cuts_cons .wildcard trivial (fun _ => hhead) ih i
    | recursiveWildcard => exact exists_cuts_cons .recursiveWildcard trivial nofun ih i
    | variableClose => exact exists_cuts_cons .closingBrace trivial nofun ih i
    | groupOpen => exact exists_cuts_cons .groupOpen trivial nofun ih i
    | groupClose => exact exists_cuts_cons .groupClose trivial nofun ih i
    | alternation => exact exists_cuts_cons .alternation trivial nofun ih i
    | optional => exact exists_cuts_cons .optional trivial nofun ih i
    | variableOpen | variableName _ | variableSeparator | constraint _ => exact ht.elim
  | @var name ts hbrace hcolon _ ih =>
    exact exists_cuts_cons (.declaration name none) ⟨hbrace, hcolon, nofun⟩ nofun ih i
  | @constrained name raw ts hbrace hcolon hraw _ ih =>
    have hitem : Item.IsCanonical (.declaration name (some raw)) := by
      refine ⟨hbrace, hcolon, ?_⟩
      rintro _ ⟨⟩
      exact hraw
    exact exists_cuts_cons _ hitem nofun ih i

/-! ## Whole texts -/

variable {text : String} {tokens : List (Located Token)}

theorem outcome_tokenize_eq_ok_iff : (tokenize text).outcome = .ok tokens ↔
    ∃ items, Cuts 0 text.toList items ∧
      (items.flatMap fun x => locate x.index x.value.tokens) = tokens := by
  have houtcome : (tokenize text).outcome = ((scan 0 text.toList).map fun items =>
      items.flatMap fun x => locate x.index x.value.tokens).mapError (⟨text, ·⟩) := by
    rw [tokenize, Traced.outcome_mapError, Traced.outcome_bind, itemsOf, Traced.outcome_bind]
    cases scan 0 text.toList <;> rfl
  rw [houtcome]
  simp only [← scan_eq_ok_iff]
  cases scan 0 text.toList with
  | error e =>
    constructor
    · rintro ⟨⟩
    · rintro ⟨_, ⟨⟩, _⟩
  | ok items =>
    constructor
    · rintro ⟨⟩
      exact ⟨items, rfl, rfl⟩
    · rintro ⟨_, ⟨⟩, rfl⟩
      rfl

/-- The tokens of a text are the canonical ones that spell it, placed one after the other. -/
theorem outcome_tokenize_eq_ok_iff_canonical : (tokenize text).outcome = .ok tokens ↔
    ∃ ts, Canonical ts ∧ spell ts = text ∧ tokens = locate 0 ts := by
  rw [outcome_tokenize_eq_ok_iff]
  constructor
  · rintro ⟨items, hcuts, rfl⟩
    refine ⟨_, hcuts.canonical, ?_, hcuts.locate_eq⟩
    rw [spell, hcuts.spelling_eq, String.ofList_toList]
  · rintro ⟨ts, hts, rfl, rfl⟩
    obtain ⟨items, hcuts, rfl⟩ := hts.cuts 0
    refine ⟨items, ?_, hcuts.locate_eq⟩
    rw [spell, String.toList_ofList]
    exact hcuts

/-- Tokens lose nothing of the text they are cut from, and each starts at the byte at which those
before it end. -/
theorem tokenize_tiles_text (h : (tokenize text).outcome = .ok tokens) :
    spell (tokens.map Located.value) = text ∧
      ∀ before t after, tokens = before ++ t :: after →
        t.index = (spell (before.map Located.value)).utf8ByteSize := by
  obtain ⟨ts, -, hspell, rfl⟩ := outcome_tokenize_eq_ok_iff_canonical.1 h
  rw [map_value_locate]
  refine ⟨hspell, fun before t after heq => ?_⟩
  have hvalues := congrArg (List.map Located.value) heq
  rw [map_value_locate, List.map_append, List.map_cons] at hvalues
  rw [hvalues, locate_append] at heq
  obtain ⟨-, hrest⟩ := List.append_inj heq (by rw [length_locate, List.length_map])
  have hindex := congrArg Located.index (List.cons.inj hrest).1
  rw [← hindex, spell, utf8ByteSize_ofList, Nat.zero_add]

/-- Characters of several bytes, and a name and a constraint of none. -/
theorem tokenize_tiles_text_multibyte : ∃ tokens,
    (tokenize "é\x7bü:a\\\x7d\x7bb\x7d\x7d**\\é\x7b:\x7d").outcome = .ok tokens ∧
      tokens.map Located.index = [0, 2, 3, 5, 6, 12, 13, 15, 18, 19, 19, 20, 20] ∧
      spell (tokens.map Located.value) = "é\x7bü:a\\\x7d\x7bb\x7d\x7d**\\é\x7b:\x7d" ∧
      ∀ before t after, tokens = before ++ t :: after →
        t.index = (spell (before.map Located.value)).utf8ByteSize := by
  obtain ⟨tokens, htokens, hindex⟩ : ∃ tokens,
      (tokenize "é\x7bü:a\\\x7d\x7bb\x7d\x7d**\\é\x7b:\x7d").outcome = .ok tokens ∧
        tokens.map Located.index = [0, 2, 3, 5, 6, 12, 13, 15, 18, 19, 19, 20, 20] :=
    ⟨_, rfl, by decide⟩
  exact ⟨tokens, htokens, hindex, tokenize_tiles_text htokens⟩

/-- Canonical tokens are read back from their text, and no text is cut into others. -/
theorem tokenize_spell_canonical :
    (∀ ts, Canonical ts → ∃ tokens, (tokenize (spell ts)).outcome = .ok tokens ∧
      tokens.map Located.value = ts) ∧
    ∀ text tokens, (tokenize text).outcome = .ok tokens → Canonical (tokens.map Located.value) := by
  constructor
  · intro ts hts
    exact ⟨_, outcome_tokenize_eq_ok_iff_canonical.2 ⟨ts, hts, rfl, rfl⟩, map_value_locate 0 ts⟩
  · intro text tokens h
    obtain ⟨ts, hts, -, rfl⟩ := outcome_tokenize_eq_ok_iff_canonical.1 h
    rw [map_value_locate]
    exact hts

/-- Stars before an escaped star, a name of reserved characters, a constraint with an escaped and a
nested brace, and a stray brace. -/
theorem tokenize_spell_canonical_delimiters : ∃ ts tokens,
    Canonical ts ∧ spell ts = "***\\*\x7b\x7b*\\:\\\x7d\x7b\x7d\x7d\x7d" ∧
      (tokenize "***\\*\x7b\x7b*\\:\\\x7d\x7b\x7d\x7d\x7d").outcome = .ok tokens ∧
      tokens.map Located.value = ts := by
  have hts : Canonical [.recursiveWildcard, .wildcard, .escaped '*', .variableOpen,
      .variableName "\x7b*\\", .variableSeparator, .constraint "\\\x7d\x7b\x7d", .variableClose,
      .variableClose] := by
    refine .plain trivial nofun (.plain trivial (fun _ => by simp) (.plain trivial nofun ?_))
    refine .constrained (by decide) (by decide) ?_ (.plain trivial nofun .nil)
    exact Balanced.escape (.braces .nil .nil)
  obtain ⟨tokens, htokens, hvalues⟩ := tokenize_spell_canonical.1 _ hts
  exact ⟨_, tokens, hts, rfl, htokens, hvalues⟩

end PathGlob.Pattern

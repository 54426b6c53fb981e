-- SUMMARY: Reading a part of an expression does not depend on the text after a parenthesis that closes it, comments aside.
import PathGlob.Regex.Parse

/-!
# Reading in front of a parenthesis

Where a reader succeeds on a text, it reads the same from that text with a closing parenthesis and
anything else after it. The one exception is a comment that is open at the end of the text: it goes
on into what follows.
-/

namespace PathGlob.Regex

open PathGlob.Unicode

variable {v : Bool} {x y : List Char} (s : List Char)

/-! ## Blanks -/

/-- Whether a comment is open after a text that starts inside one if `comment` holds. -/
def commentAfter : (comment : Bool) → List Char → Bool
  | comment, [] => comment
  | true, c :: cs => commentAfter (c != '\n') cs
  | false, c :: cs => commentAfter (c = '#') cs

/-- Whether a text is nothing but blanks and comments, with a comment open at its end. -/
def IsOpen (v : Bool) (x : List Char) : Prop :=
  skip v x = [] ∧ v = true ∧ commentAfter false x = true

theorem dropBlanks_append_of_ne_nil {b : Bool} (h : dropBlanks b x ≠ []) :
    dropBlanks b (x ++ s) = dropBlanks b x ++ s := by
  induction x generalizing b with
  | nil => exact absurd rfl h
  | cons c cs ih =>
    rw [List.cons_append]
    unfold dropBlanks at h ⊢
    split
    · next hb => simp only [hb, if_true] at h; exact ih h
    · next hb =>
      simp only [hb] at h
      split
      · next hc => simp only [hc, if_true] at h; exact ih h
      · next hc =>
        simp only [hc] at h
        split
        · next hh => simp only [hh, if_true] at h; exact ih h
        · rfl

theorem dropBlanks_append_of_nil {b : Bool} (h : dropBlanks b x = []) :
    dropBlanks b (x ++ s) = dropBlanks (commentAfter b x) s := by
  induction x generalizing b with
  | nil => rfl
  | cons c cs ih =>
    rw [List.cons_append]
    cases b with
    | true =>
      rw [dropBlanks, if_pos rfl] at h ⊢
      exact ih h
    | false =>
      rw [dropBlanks, if_neg Bool.false_ne_true] at h ⊢
      rw [commentAfter]
      by_cases hb : isBlank c = true
      · have hc : decide (c = '#') = false := by
          rw [decide_eq_false_iff_not]
          rintro rfl
          exact absurd hb (by decide)
        rw [if_pos hb] at h ⊢
        rw [hc]
        exact ih h
      · rw [if_neg hb] at h ⊢
        by_cases hc : c = '#'
        · rw [if_pos hc] at h ⊢
          rw [decide_eq_true hc]
          exact ih h
        · rw [if_neg hc] at h
          cases h

theorem skip_append_of_ne_nil (h : skip v x ≠ []) : skip v (x ++ s) = skip v x ++ s := by
  cases v with
  | false => rfl
  | true => exact dropBlanks_append_of_ne_nil s h

theorem skip_append_of_eq_cons {c : Char} {cs : List Char} (h : skip v x = c :: cs) :
    skip v (x ++ s) = c :: (cs ++ s) := by
  rw [skip_append_of_ne_nil s (by simp [h]), h, List.cons_append]

/-- A parenthesis is no blank. -/
theorem skip_append_of_not_isOpen (h : ¬ IsOpen v x) :
    skip v (x ++ ')' :: s) = skip v x ++ ')' :: s := by
  cases v with
  | false => rfl
  | true =>
    by_cases hx : skip true x = []
    · have hclosed : commentAfter false x = false := by
        cases hc : commentAfter false x with
        | false => rfl
        | true => exact absurd ⟨hx, rfl, hc⟩ h
      rw [hx, List.nil_append]
      show dropBlanks false (x ++ ')' :: s) = _
      rw [dropBlanks_append_of_nil _ hx, hclosed]
      rfl
    · exact skip_append_of_ne_nil _ hx

/-- An open comment takes the parenthesis in. -/
theorem skip_append_of_isOpen (h : IsOpen v x) : skip v (x ++ [')']) = [] := by
  obtain ⟨hx, rfl, hc⟩ := h
  show dropBlanks false (x ++ [')']) = []
  rw [dropBlanks_append_of_nil _ hx, hc]
  rfl

/-! ## Runs of characters -/

variable {p : Char → Bool} {limit : Nat} {ds : List Char}

/-- Once there is enough room, more makes no difference. -/
theorem takeSpaced_add (b : Bool) (limit : Nat) (h : x.length ≤ limit) (more : Nat) :
    takeSpaced v p (limit + more) b x = takeSpaced v p limit b x := by
  induction x generalizing b limit with
  | nil => cases b <;> simp [takeSpaced]
  | cons c cs ih =>
    rw [List.length_cons] at h
    cases b with
    | true => rw [takeSpaced, takeSpaced, ih _ _ (by omega)]
    | false =>
      obtain ⟨limit, rfl⟩ := Nat.exists_eq_succ_of_ne_zero (show limit ≠ 0 by omega)
      rw [show limit.succ + more = limit + more + 1 by omega, takeSpaced, takeSpaced]
      have h₁ := ih false (limit + 1) (by omega)
      have h₂ := ih true (limit + 1) (by omega)
      have h₃ := ih false limit (by omega)
      rw [show limit + 1 + more = limit + more + 1 by omega] at h₁ h₂
      rw [h₁, h₂, h₃]

/-- Characters are taken regardless of what follows if the end of the text did not stop them, but
another character or the limit did. -/
theorem takeSpaced_append {b : Bool} (h : takeSpaced v p limit b x = (ds, y))
    (hstop : y ≠ [] ∨ ds.length = limit ∧ (b = true → 0 < limit)) :
    takeSpaced v p limit b (x ++ s) = (ds, y ++ s) := by
  induction x generalizing b limit ds with
  | nil =>
    have hnil : takeSpaced v p limit b [] = ([], []) := by cases b <;> simp [takeSpaced]
    rw [hnil] at h
    cases h
    obtain ⟨rfl, hb⟩ := hstop.resolve_left (absurd rfl)
    cases b with
    | true => exact absurd (hb rfl) (Nat.lt_irrefl 0)
    | false => cases s <;> simp [takeSpaced]
  | cons c cs ih =>
    rw [List.cons_append]
    cases b with
    | true =>
      rw [takeSpaced] at h ⊢
      exact ih h (hstop.imp_right fun hlimit => ⟨hlimit.1, fun _ => hlimit.2 rfl⟩)
    | false =>
      cases limit with
      | zero =>
        rw [takeSpaced] at h ⊢
        cases h
        rfl
      | succ limit =>
        -- A blank or the start of a comment is passed over, so the limit stays.
        rw [takeSpaced] at h ⊢
        split
        · next hb =>
          exact ih (by rwa [if_pos hb] at h) (hstop.imp_right fun hlimit => ⟨hlimit.1, nofun⟩)
        · next hb =>
          rw [if_neg hb] at h
          split
          · next hc =>
            refine ih (by rwa [if_pos hc] at h) (hstop.imp_right fun hlimit => ?_)
            exact ⟨hlimit.1, fun _ => Nat.succ_pos limit⟩
          · next hc =>
            rw [if_neg hc] at h
            split
            · next hp =>
              rw [if_pos hp] at h
              cases h
              rw [ih rfl (hstop.imp_right fun hlimit => ⟨Nat.succ.inj hlimit.1, nofun⟩)]
            · next hp =>
              rw [if_neg hp] at h
              cases h
              rfl

theorem takeAll_append (h : takeAll v p x = (ds, y)) (hy : y ≠ []) :
    takeAll v p (x ++ s) = (ds, y ++ s) := by
  rw [takeAll, List.length_append]
  refine takeSpaced_append s ?_ (.inl hy)
  rw [takeSpaced_add false _ (Nat.le_refl _)]
  exact h

theorem dropWhile_append (h : x.dropWhile p ≠ []) :
    (x ++ s).dropWhile p = x.dropWhile p ++ s := by
  rw [List.dropWhile_append, if_neg]
  simpa using h

/-! ## Numbers -/

theorem readNumber_append {n : Nat} (h : readNumber v x = some (n, y)) (hy : y ≠ []) :
    readNumber v (x ++ s) = some (n, y ++ s) := by
  unfold readNumber at h ⊢
  generalize htake : takeAll v Char.isDigit (x.dropWhile isBlank) = r at h
  obtain ⟨ds, rest⟩ := r
  dsimp only at h
  split at h
  · cases h
  · next hds =>
    cases h
    have hrest : rest ≠ [] := by
      rintro rfl
      exact hy rfl
    have hx : x.dropWhile isBlank ≠ [] := by
      intro hx
      rw [hx] at htake
      cases htake
      exact hrest rfl
    rw [dropWhile_append s hx, takeAll_append s htake hrest]
    dsimp only
    rw [if_neg hds, dropWhile_append s hy]

theorem readNumber_of_not_isDigit {c : Char} (hblank : isBlank c = false) (hcomment : c ≠ '#')
    (hdigit : c.isDigit = false) : readNumber v (c :: x) = none := by
  have htake : takeAll v Char.isDigit (c :: x) = ([], c :: x) := by
    simp [takeAll, takeSpaced, hblank, hcomment, hdigit]
  rw [readNumber, List.dropWhile_cons_of_neg (by simp [hblank]), htake]
  rfl

theorem skip_ne_nil_of_readNumber {r : Nat × List Char} (h : readNumber v (skip v x) = some r) :
    skip v x ≠ [] := by
  intro hx
  rw [hx] at h
  cases v <;> cases h

/-- The bounds of a repetition are a number, a number with a comma, or two numbers in order. -/
theorem readBounds_eq_some_iff {min : Nat} {max : Option Nat} :
    readBounds v x = some (min, max, y) ↔
      readNumber v (skip v x) = some (min, '}' :: y) ∧ max = some min ∨
      ∃ rest, readNumber v (skip v x) = some (min, ',' :: rest) ∧
        (skip v rest = '}' :: y ∧ max = none ∨
          ∃ m, readNumber v (skip v rest) = some (m, '}' :: y) ∧ min ≤ m ∧ max = some m) := by
  rw [readBounds]
  constructor
  · intro h
    obtain ⟨⟨n, cs⟩, hmin, h⟩ := Option.bind_eq_some_iff.1 h
    dsimp only at h
    split at h
    · cases h
      exact .inl ⟨hmin, rfl⟩
    · next rest =>
      split at h
      · next hskip =>
        cases h
        exact .inr ⟨rest, hmin, .inl ⟨hskip, rfl⟩⟩
      · obtain ⟨⟨m, ds⟩, hmax, h⟩ := Option.bind_eq_some_iff.1 h
        dsimp only at h
        split at h
        · split at h
          · next hle =>
            cases h
            exact .inr ⟨rest, hmin, .inr ⟨m, hmax, hle, rfl⟩⟩
          · cases h
        · cases h
    · cases h
  · rintro (⟨hmin, rfl⟩ | ⟨rest, hmin, ⟨hskip, rfl⟩ | ⟨m, hmax, hle, rfl⟩⟩)
    · rw [hmin]
      rfl
    · simp [hmin, hskip]
    · simp only [hmin, Option.bind_eq_bind, Option.bind_some]
      split
      · next hskip =>
        rw [hskip, readNumber_of_not_isDigit rfl (by decide) rfl] at hmax
        cases hmax
      · simp [hmax, hle]

theorem readBounds_append {min : Nat} {max : Option Nat}
    (h : readBounds v x = some (min, max, y)) :
    readBounds v (x ++ s) = some (min, max, y ++ s) := by
  rw [readBounds_eq_some_iff] at h ⊢
  obtain ⟨hmin, hmax⟩ | ⟨rest, hmin, hrest⟩ := h
  · rw [skip_append_of_ne_nil s (skip_ne_nil_of_readNumber hmin)]
    exact .inl ⟨readNumber_append s hmin (List.cons_ne_nil _ _), hmax⟩
  · rw [skip_append_of_ne_nil s (skip_ne_nil_of_readNumber hmin)]
    refine .inr ⟨rest ++ s, readNumber_append s hmin (List.cons_ne_nil _ _), ?_⟩
    obtain ⟨hskip, hmax⟩ | ⟨m, hm, hle, hmax⟩ := hrest
    · exact .inl ⟨skip_append_of_eq_cons s hskip, hmax⟩
    · rw [skip_append_of_ne_nil s (skip_ne_nil_of_readNumber hm)]
      exact .inr ⟨m, readNumber_append s hm (List.cons_ne_nil _ _), hle, hmax⟩

/-! ## Escapes -/

/-- A code point is written in braces, with any number of digits, or else with a fixed number. -/
theorem readHex_eq_some_iff {width : Nat} {l : Literal} :
    readHex v width x = some (l, y) ↔
      (∃ cs d ds c, skip v x = '{' :: cs ∧ takeAll v isHexDigit cs = (d :: ds, '}' :: y) ∧
        charOfCode? (valueOf 16 (d :: ds)) = some c ∧ l = ⟨c, false⟩) ∨
      ∃ ds c, (∀ cs, skip v x ≠ '{' :: cs) ∧
        takeSpaced v isHexDigit width false (skip v x) = (ds, y) ∧ ds.length = width ∧
        charOfCode? (valueOf 16 ds) = some c ∧ l = ⟨c, width = 2⟩ := by
  rw [readHex]
  generalize skip v x = cs
  constructor
  · intro h
    split at h
    · next cs =>
      split at h
      · next d ds rest htake =>
        obtain ⟨c, hc, heq⟩ := Option.map_eq_some_iff.1 h
        cases heq
        exact .inl ⟨cs, d, ds, c, rfl, htake, hc, rfl⟩
      · cases h
    · next hbrace =>
      split at h
      next ds rest htake =>
      split at h
      · next hlength =>
        obtain ⟨c, hc, heq⟩ := Option.map_eq_some_iff.1 h
        cases heq
        exact .inr ⟨ds, c, hbrace, htake, hlength, hc, rfl⟩
      · cases h
  · rintro (⟨cs, d, ds, c, rfl, htake, hc, rfl⟩ | ⟨ds, c, hbrace, htake, hlength, hc, rfl⟩)
    · simp [htake, hc]
    · split
      · next cs => exact absurd rfl (hbrace cs)
      · rw [htake]
        dsimp only
        rw [if_pos hlength, hc]
        rfl

theorem readHex_append {width : Nat} {l : Literal} (hwidth : 0 < width)
    (h : readHex v width x = some (l, y)) : readHex v width (x ++ s) = some (l, y ++ s) := by
  rw [readHex_eq_some_iff] at h ⊢
  obtain ⟨cs, d, ds, c, hskip, htake, h⟩ | ⟨ds, c, hbrace, htake, hlength, h⟩ := h
  · exact .inl ⟨cs ++ s, d, ds, c, skip_append_of_eq_cons s hskip,
      takeAll_append s htake (List.cons_ne_nil _ _), h⟩
  · obtain ⟨d, rest, hskip⟩ : ∃ d rest, skip v x = d :: rest := by
      refine List.exists_cons_of_ne_nil fun hx => ?_
      have hnil : takeSpaced v isHexDigit width false [] = ([], []) := by simp [takeSpaced]
      rw [hx, hnil] at htake
      cases htake
      exact absurd hlength (Nat.ne_of_lt hwidth)
    have hstop : ds.length = width ∧ (false = true → 0 < width) := ⟨hlength, nofun⟩
    refine .inr ⟨ds, c, fun cs heq => ?_, ?_, hlength, h⟩
    · rw [skip_append_of_eq_cons s hskip] at heq
      cases heq
      exact hbrace rest hskip
    · rw [skip_append_of_ne_nil s (by simp [hskip])]
      exact takeSpaced_append s htake (.inr hstop)

/-- A property is named in braces, or else by a single character. -/
theorem readProperty_eq_some_iff {r : PropertyName × Bool} :
    readProperty v x = some (r, y) ↔
      (∃ cs name, skip v x = '{' :: cs ∧ takeAll v (· != '}') cs = (name, '}' :: y) ∧
        r = propertyOf name) ∨
      ∃ c, skip v x = c :: y ∧ c ≠ '{' ∧ c ≠ '\\' ∧ r = (.binary c.toString, false) := by
  rw [readProperty]
  generalize skip v x = cs
  constructor
  · intro h
    split at h
    · cases h
    · next cs =>
      split at h
      · next htake =>
        cases h
        exact .inl ⟨cs, _, rfl, htake, rfl⟩
      · cases h
    · next c rest hbrace =>
      split at h
      · cases h
      · next hslash =>
        cases h
        exact .inr ⟨c, rfl, hbrace, hslash, rfl⟩
  · rintro (⟨cs, name, rfl, htake, rfl⟩ | ⟨c, rfl, hbrace, hslash, rfl⟩)
    · simp [htake]
    · split
      · next heq => cases heq
      · next heq =>
        cases heq
        exact absurd rfl hbrace
      · next heq =>
        cases heq
        rw [if_neg hslash]

theorem readProperty_append {r : PropertyName × Bool} (h : readProperty v x = some (r, y)) :
    readProperty v (x ++ s) = some (r, y ++ s) := by
  rw [readProperty_eq_some_iff] at h ⊢
  obtain ⟨cs, name, hskip, htake, hr⟩ | ⟨c, hskip, h⟩ := h
  · exact .inl ⟨cs ++ s, name, skip_append_of_eq_cons s hskip,
      takeAll_append s htake (List.cons_ne_nil _ _), hr⟩
  · exact .inr ⟨c, skip_append_of_eq_cons s hskip, h⟩

theorem readPropertyEscape_append {negated : Bool} {e : Escape}
    (h : readPropertyEscape v negated x = some (e, y)) :
    readPropertyEscape v negated (x ++ s) = some (e, y ++ s) := by
  obtain ⟨⟨r, rest⟩, hread, heq⟩ := Option.map_eq_some_iff.1 h
  cases heq
  rw [readPropertyEscape, readProperty_append s hread]
  rfl

/-- A brace after `\b` encloses a name if a letter or hyphen follows, and else it is left alone. -/
theorem readBoundary_eq_some_iff {a : Assertion} :
    readBoundary v x = some (a, y) ↔
      (∃ cs c rest name, x = '{' :: cs ∧ skip v cs = c :: rest ∧ (c.isAlpha || c == '-') = true ∧
        takeAll v (fun c => c.isAlpha || c == '-') cs = (name, '}' :: y) ∧
        boundaryOfName? (.ofList name) = some a) ∨
      a = .wordBoundary ∧ y = x ∧ ∀ cs, x = '{' :: cs →
        ∃ c rest, skip v cs = c :: rest ∧ (c.isAlpha || c == '-') = false := by
  constructor
  · intro h
    unfold readBoundary at h
    split at h
    · next cs =>
      dsimp only at h
      split at h
      · cases h
      · next c rest hskip =>
        split at h
        · next hc =>
          split at h
          · next name _ htake =>
            obtain ⟨b, hb, heq⟩ := Option.map_eq_some_iff.1 h
            cases heq
            exact .inl ⟨cs, c, rest, name, rfl, hskip, hc, htake, hb⟩
          · cases h
        · next hc =>
          cases h
          refine .inr ⟨rfl, rfl, fun cs' heq => ?_⟩
          cases heq
          exact ⟨c, rest, hskip, eq_false_of_ne_true hc⟩
    · next hbrace =>
      cases h
      exact .inr ⟨rfl, rfl, fun cs heq => absurd heq (hbrace cs)⟩
  · rintro (⟨cs, c, rest, name, rfl, hskip, hc, htake, ha⟩ | ⟨rfl, rfl, hbrace⟩)
    · simp [readBoundary, hskip, hc, htake, ha]
    · unfold readBoundary
      split
      · next cs =>
        obtain ⟨c, rest, hskip, hc⟩ := hbrace cs rfl
        simp [hskip, hc]
      · rfl

/-- After `\b` a brace would count, but a parenthesis does not. -/
theorem readBoundary_append {a : Assertion} (h : readBoundary v x = some (a, y)) :
    readBoundary v (x ++ ')' :: s) = some (a, y ++ ')' :: s) := by
  rw [readBoundary_eq_some_iff] at h ⊢
  obtain ⟨cs, c, rest, name, rfl, hskip, hc, htake, ha⟩ | ⟨ha, rfl, hbrace⟩ := h
  · exact .inl ⟨cs ++ ')' :: s, c, rest ++ ')' :: s, name, rfl, skip_append_of_eq_cons _ hskip, hc,
      takeAll_append _ htake (List.cons_ne_nil _ _), ha⟩
  · refine .inr ⟨ha, rfl, fun cs heq => ?_⟩
    cases y with
    | nil => cases heq
    | cons d ds =>
      cases heq
      obtain ⟨c, rest, hskip, hc⟩ := hbrace ds rfl
      exact ⟨c, rest ++ ')' :: s, skip_append_of_eq_cons _ hskip, hc⟩

theorem readEscape_append {e : Escape} (h : readEscape v x = some (e, y)) :
    readEscape v (x ++ ')' :: s) = some (e, y ++ ')' :: s) := by
  cases x with
  | nil => cases h
  | cons c cs =>
    have hhex {width : Nat} (hwidth : 0 < width)
        (h : (readHex v width cs).map (fun r => (Escape.literal r.1, r.2)) = some (e, y)) :
        (readHex v width (cs ++ ')' :: s)).map (fun r => (Escape.literal r.1, r.2)) =
          some (e, y ++ ')' :: s) := by
      obtain ⟨⟨l, rest⟩, hread, heq⟩ := Option.map_eq_some_iff.1 h
      cases heq
      rw [readHex_append _ hwidth hread]
      rfl
    rw [readEscape] at h
    rw [List.cons_append, readEscape]
    by_cases hx : c = 'x'
    · rw [if_pos hx] at h ⊢
      exact hhex (by decide) h
    by_cases hu : c = 'u'
    · rw [if_neg hx, if_pos hu] at h ⊢
      exact hhex (by decide) h
    by_cases hU : c = 'U'
    · rw [if_neg hx, if_neg hu, if_pos hU] at h ⊢
      exact hhex (by decide) h
    by_cases hp : c = 'p'
    · rw [if_neg hx, if_neg hu, if_neg hU, if_pos hp] at h ⊢
      exact readPropertyEscape_append _ h
    by_cases hP : c = 'P'
    · rw [if_neg hx, if_neg hu, if_neg hU, if_neg hp, if_pos hP] at h ⊢
      exact readPropertyEscape_append _ h
    by_cases hb : c = 'b'
    · rw [if_neg hx, if_neg hu, if_neg hU, if_neg hp, if_neg hP, if_pos hb] at h ⊢
      obtain ⟨⟨a, rest⟩, hread, heq⟩ := Option.map_eq_some_iff.1 h
      cases heq
      rw [readBoundary_append _ hread]
      rfl
    -- Any other escape is one character, whatever follows it.
    rw [if_neg hx, if_neg hu, if_neg hU, if_neg hp, if_neg hP, if_neg hb] at h ⊢
    split
    · next hc =>
      rw [if_pos hc] at h
      cases h
      rfl
    · next hc =>
      rw [if_neg hc] at h
      split at h <;> cases h <;> rfl

end PathGlob.Regex

-- SUMMARY: Reading a bracket does not depend on the text after a parenthesis that closes the group around it.
import Mathlib.Data.List.TakeDrop
import PathGlob.Proofs.Regex.Suffix

/-!
# Brackets in front of a parenthesis

A bracket ends with a character of its own, so a comment that is open at the end of the text is no
exception here.
-/

namespace PathGlob.Regex

open PathGlob.Unicode

variable {v : Bool} {x y : List Char} (s : List Char)

/-! ## Members of a bracket -/

theorem asciiClassOfName?_of_mem {name : List Char} (h : ')' ∈ name) :
    asciiClassOfName? (.ofList name) = none := by
  have hnames : ∀ c, asciiClassOfName? (.ofList name) = some c →
      name ∈ ["alnum", "alpha", "ascii", "blank", "cntrl", "digit", "graph", "lower", "print",
        "punct", "space", "upper", "word", "xdigit"].map String.toList := by
    intro c hc
    obtain ⟨before, after, heq, -⟩ := List.lookup_eq_some_iff.1 hc
    have hmem : (String.ofList name, c) ∈ before ++ (String.ofList name, c) :: after := by simp
    rw [← heq] at hmem
    have := List.mem_map_of_mem (f := fun e : String × AsciiClass => e.1.toList) hmem
    rw [String.toList_ofList] at this
    exact this
  cases hc : asciiClassOfName? (.ofList name) with
  | none => rfl
  | some c =>
    have hplain : ∀ ds ∈ ["alnum", "alpha", "ascii", "blank", "cntrl", "digit", "graph", "lower",
        "print", "punct", "space", "upper", "word", "xdigit"].map String.toList, ')' ∉ ds := by
      decide
    exact absurd h (hplain name (hnames c hc))

/-- The rest of `[:name:]` from the name on. -/
def readClassName? (negated : Bool) (cs : List Char) : Option (BracketSet × List Char) :=
  match cs.span (· != ':') with
  | (name, rest) => match rest with
    | ':' :: ']' :: rest => (asciiClassOfName? (.ofList name)).map fun c => (.ascii c negated, rest)
    | _ => none

theorem readAsciiClass?_colon (cs : List Char) :
    readAsciiClass? (':' :: cs) =
      if cs.head? = some '^' then readClassName? true cs.tail else readClassName? false cs := by
  cases cs with
  | nil => rfl
  | cons c cs =>
    by_cases h : c = '^'
    · subst h
      rfl
    · rw [if_neg (by simpa using h), readAsciiClass?]
      · rfl
      · intro _ heq
        cases heq
        exact h rfl

theorem span_append_of_notMem (h : ':' ∉ x) : (x ++ s).span (· != ':') =
    (x ++ (s.span (· != ':')).1, (s.span (· != ':')).2) := by
  have hx : ∀ c ∈ x, (c != ':') = true := fun c hc => bne_iff_ne.2 (ne_of_mem_of_not_mem hc h)
  rw [List.span_eq_takeWhile_dropWhile, List.span_eq_takeWhile_dropWhile,
    List.takeWhile_append_of_pos hx, List.dropWhile_append_of_pos hx]

theorem span_colon {name rest : List Char} (h : ':' ∉ name) :
    (name ++ ':' :: rest).span (· != ':') = (name, ':' :: rest) := by
  rw [span_append_of_notMem _ h, List.span_eq_takeWhile_dropWhile,
    List.takeWhile_cons_of_neg (by decide), List.dropWhile_cons_of_neg (by decide),
    List.append_nil]

theorem readClassName?_of_mem {negated : Bool} (h : ')' ∈ (x.span (· != ':')).1) :
    readClassName? negated x = none := by
  rw [readClassName?]
  dsimp only
  rw [asciiClassOfName?_of_mem h]
  split <;> rfl

theorem readClassName?_append (negated : Bool) (x : List Char) :
    readClassName? negated (x ++ ')' :: s) =
      (readClassName? negated x).map fun r => (r.1, r.2 ++ ')' :: s) := by
  by_cases hcolon : ':' ∈ x
  · obtain ⟨name, rest, rfl, hname⟩ := List.eq_append_cons_of_mem hcolon
    rw [List.append_assoc, List.cons_append, readClassName?, readClassName?, span_colon hname,
      span_colon hname]
    dsimp only
    cases rest with
    | nil => rfl
    | cons d ds =>
      by_cases hd : d = ']'
      · subst hd
        cases hclass : asciiClassOfName? (.ofList name) <;> simp
      · simp [hd]
  -- Without a colon the name would go on into the parenthesis.
  · have hmem : ')' ∈ ((x ++ ')' :: s).span (· != ':')).1 := by
      rw [span_append_of_notMem _ hcolon, List.span_eq_takeWhile_dropWhile,
        List.takeWhile_cons_of_pos (by decide)]
      simp
    have hnone : readClassName? negated x = none := by
      have hspan := span_append_of_notMem [] hcolon
      rw [List.append_nil] at hspan
      rw [readClassName?, hspan]
      rfl
    rw [readClassName?_of_mem hmem, hnone]
    rfl

/-- A name that takes the parenthesis in is the name of no class. -/
theorem readAsciiClass?_append (x : List Char) :
    readAsciiClass? (x ++ ')' :: s) =
      (readAsciiClass? x).map fun r => (r.1, r.2 ++ ')' :: s) := by
  cases x with
  | nil => rfl
  | cons c cs =>
    rw [List.cons_append]
    by_cases hc : c = ':'
    · subst hc
      rw [readAsciiClass?_colon, readAsciiClass?_colon]
      cases cs with
      | nil => exact readClassName?_append s false []
      | cons d ds =>
        rw [List.cons_append, List.head?_cons, List.head?_cons]
        split
        · exact readClassName?_append s true ds
        · exact readClassName?_append s false (d :: ds)
    · rw [readAsciiClass?, readAsciiClass?]
      · rfl
      all_goals
        intro _ heq
        cases heq
        exact hc rfl

theorem readMember_append {e : Escape} (h : readMember v x = some (e, y)) :
    readMember v (x ++ ')' :: s) = some (e, y ++ ')' :: s) := by
  unfold readMember at h
  split at h
  · cases h
  · exact readEscape_append s h
  · next hslash =>
    cases h
    rw [List.cons_append, readMember]
    exact hslash

theorem peekPast_append {b : Bool} {c : Char} (h : peekPast b x = some c) :
    peekPast b (x ++ s) = some c := by
  induction x generalizing b with
  | nil => cases h
  | cons d ds ih =>
    rw [List.cons_append]
    unfold peekPast at h ⊢
    split
    · next hd => exact ih (by rwa [if_pos hd] at h)
    · next hd =>
      rw [if_neg hd] at h
      split
      · next hc => exact ih (by rwa [if_pos hc] at h)
      · next hc => rwa [if_neg hc] at h

/-- If no character follows that counts, none follows the blanks and comments. -/
theorem dropBlanks_of_peekPast {b : Bool} (h : peekPast b x = none) :
    dropBlanks false x = [] ∧ (b = true → dropBlanks true x = []) := by
  induction x generalizing b with
  | nil => exact ⟨rfl, fun _ => rfl⟩
  | cons c cs ih =>
    unfold peekPast at h
    split at h
    · next hc =>
      obtain ⟨hfalse, htrue⟩ := ih h
      refine ⟨?_, fun hb => ?_⟩
      · rw [dropBlanks, if_neg Bool.false_ne_true, if_pos hc]
        exact hfalse
      rw [dropBlanks, if_pos rfl]
      cases hcomment : c != '\n' with
      | false => exact hfalse
      | true => exact htrue hb
    · next hblank =>
      split at h
      · next hc =>
        simp only [Bool.and_eq_true, decide_eq_true_eq, Bool.not_eq_true'] at hc
        obtain ⟨rfl, rfl⟩ := hc
        refine ⟨?_, fun hb => absurd hb Bool.false_ne_true⟩
        rw [dropBlanks, if_neg Bool.false_ne_true, if_neg hblank, if_pos rfl]
        exact (ih h).2 rfl
      · cases h

theorem isPlainHyphen_append (h : skip v x ≠ [] ∨ isPlainHyphen v x = true) :
    isPlainHyphen v (x ++ s) = isPlainHyphen v x := by
  unfold isPlainHyphen at h ⊢
  cases v with
  | false =>
    cases x with
    | nil => exact h.elim (absurd rfl) nofun
    | cons c cs => rfl
  | true =>
    cases hpeek : peekPast false x with
    | none =>
      rw [hpeek] at h
      exact h.elim (absurd (dropBlanks_of_peekPast hpeek).1) nofun
    | some c =>
      dsimp only
      rw [if_pos rfl, if_pos rfl, peekPast_append s hpeek]

theorem skip_ne_nil_of_readMember {r : Escape × List Char} (h : readMember v (skip v x) = some r) :
    skip v x ≠ [] := by
  intro hx
  rw [hx] at h
  cases h

/-- What is read after the first member, which may be the start of a range. -/
def readRangeFrom (v : Bool) (first : Escape) : List Char → Option (BracketSet × List Char)
  | '-' :: rest =>
    if isPlainHyphen v rest then first.toSet?.map (·, '-' :: rest)
    else (readMember v (skip v rest)).bind fun r =>
      match first, r.1 with
      | .literal a, .literal b => if a.char ≤ b.char then some (.range a b, r.2) else none
      | _, _ => none
  | rest => first.toSet?.map (·, rest)

theorem readRange_eq (v : Bool) (x : List Char) : readRange v x =
    (readMember v x).bind fun r => readRangeFrom v r.1 (skip v r.2) := by
  unfold readRange
  refine Option.bind_congr fun r _ => ?_
  dsimp only
  generalize skip v r.2 = cs
  split
  · rw [readRangeFrom]
    split
    · cases r.1.toSet? <;> rfl
    · rfl
  · next hhyphen =>
    rw [readRangeFrom]
    · cases r.1.toSet? <;> rfl
    · exact hhyphen

theorem toSet?_append {first : Escape} {b : BracketSet}
    (h : first.toSet?.map (·, x) = some (b, y)) :
    first.toSet?.map (·, x ++ s) = some (b, y ++ s) := by
  obtain ⟨b', hb, heq⟩ := Option.map_eq_some_iff.1 h
  cases heq
  rw [hb]
  rfl

theorem readRangeFrom_append {first : Escape} {b : BracketSet} (hx : x ≠ [])
    (h : readRangeFrom v first x = some (b, y)) :
    readRangeFrom v first (x ++ ')' :: s) = some (b, y ++ ')' :: s) := by
  obtain ⟨c, cs, rfl⟩ := List.exists_cons_of_ne_nil hx
  rw [List.cons_append]
  by_cases hc : c = '-'
  · subst hc
    rw [readRangeFrom] at h ⊢
    by_cases hplain : isPlainHyphen v cs = true
    · rw [if_pos hplain] at h
      rw [isPlainHyphen_append _ (.inr hplain), if_pos hplain]
      exact toSet?_append _ h
    · rw [if_neg hplain] at h
      obtain ⟨⟨last, rest⟩, hlast, h⟩ := Option.bind_eq_some_iff.1 h
      have hcs := skip_ne_nil_of_readMember hlast
      rw [isPlainHyphen_append _ (.inl hcs), if_neg hplain, skip_append_of_ne_nil _ hcs,
        readMember_append s hlast, Option.bind_some]
      dsimp only at h ⊢
      split at h
      · split at h
        · next hle =>
          cases h
          rw [if_pos hle]
        · cases h
      · cases h
  · rw [readRangeFrom] at h ⊢
    · exact toSet?_append _ h
    all_goals
      rintro ds heq
      exact hc (List.cons.inj heq).1

theorem readRange_append {b : BracketSet} (h : readRange v x = some (b, y)) (hy : y ≠ []) :
    readRange v (x ++ ')' :: s) = some (b, y ++ ')' :: s) := by
  rw [readRange_eq] at h ⊢
  obtain ⟨⟨first, cs⟩, hfirst, h⟩ := Option.bind_eq_some_iff.1 h
  have hcs : skip v cs ≠ [] := by
    intro hcs
    rw [hcs] at h
    obtain ⟨_, -, heq⟩ := Option.map_eq_some_iff.1 h
    cases heq
    exact hy rfl
  rw [readMember_append s hfirst, Option.bind_some, skip_append_of_ne_nil _ hcs]
  exact readRangeFrom_append s hcs h

/-! ## Brackets -/

/-- The start of a set after the negation. -/
def openLevel (v negated : Bool) (cs : List Char) : BracketLevel × List Char :=
  let (hyphens, cs) := takeAll v (· = '-') cs
  let level : BracketLevel := ⟨negated, none, hyphens.map fun c => .literal ⟨c, false⟩⟩
  match hyphens, skip v cs with
  | [], ']' :: cs => (level.push (.literal ⟨']', false⟩), cs)
  | _, cs => (level, cs)

theorem openBracket_eq (v : Bool) (x : List Char) :
    openBracket v x =
      if (skip v x).head? = some '^' then openLevel v true (skip v x).tail
      else openLevel v false (skip v x) := by
  unfold openBracket
  generalize skip v x = cs
  split
  next heq =>
    split at heq
    · cases heq
      rfl
    · next hcaret =>
      cases heq
      rw [if_neg]
      · rfl
      · intro h
        obtain ⟨ds, rfl⟩ := List.head?_eq_some_iff.1 h
        exact hcaret _ rfl

theorem openLevel_append {negated : Bool} {l : BracketLevel}
    (h : openLevel v negated x = (l, y)) (hy : y ≠ []) :
    openLevel v negated (x ++ s) = (l, y ++ s) := by
  unfold openLevel at h ⊢
  generalize htake : takeAll v (· = '-') x = r at h
  obtain ⟨hyphens, cs⟩ := r
  dsimp only at h
  have hcs : skip v cs ≠ [] := by
    intro hcs
    rw [hcs] at h
    split at h
    · next heq => cases heq
    · cases h
      exact hy rfl
  have hne : cs ≠ [] := by
    rintro rfl
    cases v <;> exact hcs rfl
  rw [takeAll_append s htake hne]
  dsimp only
  rw [skip_append_of_ne_nil s hcs]
  generalize skip v cs = ds at h hcs
  obtain ⟨c, ds, rfl⟩ := List.exists_cons_of_ne_nil hcs
  split at h
  · next heq =>
    cases heq
    cases h
    rfl
  · next hbracket =>
    cases h
    split
    · next heq =>
      cases heq
      exact (hbracket _ rfl rfl).elim
    · rfl

theorem openBracket_append {l : BracketLevel} (h : openBracket v x = (l, y)) (hy : y ≠ []) :
    openBracket v (x ++ s) = (l, y ++ s) := by
  rw [openBracket_eq] at h ⊢
  have hx : skip v x ≠ [] := by
    intro hx
    have hnil : openLevel v false [] = (⟨false, none, []⟩, []) := by
      cases v <;> rfl
    rw [hx, if_neg nofun, hnil] at h
    cases h
    exact hy rfl
  rw [skip_append_of_ne_nil s hx]
  generalize skip v x = cs at h hx
  obtain ⟨c, cs, rfl⟩ := List.exists_cons_of_ne_nil hx
  rw [List.cons_append]
  split at h
  · next hc =>
    rw [if_pos (by exact hc)]
    exact openLevel_append s h hy
  · next hc =>
    rw [if_neg (by exact hc)]
    exact openLevel_append s h hy

theorem skip_ne_nil_of_readBracketFrom {fuel : Nat} {l : BracketLevel} {outer : List BracketLevel}
    {r : BracketLevel × List Char} (h : readBracketFrom v fuel l outer x = some r) :
    skip v x ≠ [] := by
  intro hx
  cases fuel with
  | zero => cases h
  | succ fuel =>
    rw [readBracketFrom, hx] at h
    cases h

theorem ne_nil_of_readBracketFrom {fuel : Nat} {l : BracketLevel} {outer : List BracketLevel}
    {r : BracketLevel × List Char} (h : readBracketFrom v fuel l outer x = some r) : x ≠ [] := by
  rintro rfl
  refine skip_ne_nil_of_readBracketFrom h ?_
  cases v <;> rfl

/-- Whether a text starts with a member or a range of characters, and not with what opens, closes
or operates. -/
structure StartsMember (x : List Char) : Prop where
  ne_nil : x ≠ []
  not_open : ∀ rest, x ≠ '[' :: rest
  not_close : ∀ rest, x ≠ ']' :: rest
  not_operator : ∀ d ∈ ['&', '-', '~'], ∀ rest, x ≠ d :: d :: rest

theorem StartsMember.append (h : StartsMember x) : StartsMember (x ++ ')' :: s) := by
  obtain ⟨c, cs, rfl⟩ := List.exists_cons_of_ne_nil h.ne_nil
  refine ⟨nofun, fun rest heq => ?_, fun rest heq => ?_, fun d hd rest heq => ?_⟩
  · cases heq
    exact h.not_open cs rfl
  · cases heq
    exact h.not_close cs rfl
  · -- The parenthesis is no operator, so both characters are in front of it.
    cases cs with
    | nil =>
      cases heq
      exact absurd hd (by decide)
    | cons c' cs =>
      cases heq
      exact h.not_operator c hd cs rfl

theorem readBracketFrom_of_startsMember (hx : StartsMember (skip v x)) (fuel : Nat)
    (l : BracketLevel) (outer : List BracketLevel) :
    readBracketFrom v (fuel + 1) l outer x =
      (readRange v (skip v x)).bind fun r => readBracketFrom v fuel (l.push r.1) outer r.2 := by
  rw [readBracketFrom]
  split
  · next heq => exact absurd heq hx.ne_nil
  · next heq => exact absurd heq (hx.not_open _)
  · next heq => exact absurd heq (hx.not_close _)
  · next heq => exact absurd heq (hx.not_operator _ (by decide) _)
  · next heq => exact absurd heq (hx.not_operator _ (by decide) _)
  · next heq => exact absurd heq (hx.not_operator _ (by decide) _)
  · cases readRange v (skip v x) <;> rfl

theorem readBracketFrom_open {cs : List Char} (hx : skip v x = '[' :: cs) (fuel : Nat)
    (l : BracketLevel) (outer : List BracketLevel) :
    readBracketFrom v (fuel + 1) l outer x =
      match readAsciiClass? cs with
      | some (b, rest) => readBracketFrom v fuel (l.push b) outer rest
      | none => readBracketFrom v fuel (openBracket v cs).1 (l :: outer) (openBracket v cs).2 := by
  rw [readBracketFrom, hx]
  rfl

theorem readBracketFrom_append {fuel : Nat} {l l' : BracketLevel} {outer : List BracketLevel}
    (h : readBracketFrom v fuel l outer x = some (l', y)) (more : Nat) :
    readBracketFrom v (fuel + more) l outer (x ++ ')' :: s) = some (l', y ++ ')' :: s) := by
  induction fuel generalizing l outer x with
  | zero => cases h
  | succ fuel ih =>
    have hx := skip_ne_nil_of_readBracketFrom h
    rw [Nat.succ_add]
    by_cases hmember : StartsMember (skip v x)
    · have hskip := skip_append_of_ne_nil (')' :: s) hx
      rw [readBracketFrom_of_startsMember hmember] at h
      obtain ⟨⟨b, rest⟩, hread, h⟩ := Option.bind_eq_some_iff.1 h
      have hrange := readRange_append s hread (ne_nil_of_readBracketFrom h)
      rw [readBracketFrom_of_startsMember (hskip ▸ hmember.append s), hskip, hrange]
      exact ih h
    · rw [readBracketFrom] at h
      split at h
      · next hnil => exact absurd hnil hx
      · next cs hopen =>
        rw [readBracketFrom_open (skip_append_of_eq_cons _ hopen), readAsciiClass?_append]
        split at h
        · next hclass =>
          rw [hclass]
          exact ih h
        · next hclass =>
          have hopened := openBracket_append (')' :: s) rfl (ne_nil_of_readBracketFrom h)
          rw [hclass, hopened]
          exact ih h
      · next cs hclose =>
        rw [readBracketFrom, skip_append_of_eq_cons _ hclose]
        cases outer with
        | nil =>
          cases h
          rfl
        | cons o outer => exact ih h
      -- Both characters of an operator stand in front of the parenthesis.
      · next hand =>
        rw [readBracketFrom, skip_append_of_eq_cons _ hand]
        exact ih h
      · next hminus =>
        rw [readBracketFrom, skip_append_of_eq_cons _ hminus]
        exact ih h
      · next htilde =>
        rw [readBracketFrom, skip_append_of_eq_cons _ htilde]
        exact ih h
      · next hopen hclose hand hminus htilde =>
        refine absurd ⟨hx, hopen, hclose, fun d hd => ?_⟩ hmember
        simp only [List.mem_cons, List.not_mem_nil, or_false] at hd
        rcases hd with rfl | rfl | rfl
        · exact hand
        · exact hminus
        · exact htilde

theorem readBracket_append {l : BracketLevel} (h : readBracket v x = some (l, y)) :
    readBracket v (x ++ ')' :: s) = some (l, y ++ ')' :: s) := by
  unfold readBracket at h ⊢
  generalize hopen : openBracket v x = r at h
  obtain ⟨inner, rest⟩ := r
  dsimp only at h
  rw [openBracket_append _ hopen (ne_nil_of_readBracketFrom h)]
  dsimp only
  rw [List.length_append, Nat.add_right_comm]
  exact readBracketFrom_append s h _

end PathGlob.Regex

-- SUMMARY: The language of a pattern, and that a matcher without constraints accepts exactly its words.
import Mathlib.Computability.Language
import PathGlob.Proofs.Compiling
import PathGlob.Proofs.Pattern.Expression

/-!
# The language of a pattern

`Pattern.language` follows the tree of a pattern and knows nothing of regular expressions. A passage
takes a language if it leads over its words and over no others; each way to build an expression
takes the language that its parts make up.
-/

namespace PathGlob

open scoped Computability

/-! ## Languages -/

namespace CharSet

/-- The texts of one member. -/
def letters (s : CharSet) : Language Char := {w | ∃ c ∈ s, w = [c]}

/-- The texts of any number of members. -/
def words (s : CharSet) : Language Char := {w | ∀ c ∈ w, c ∈ s}

theorem kstar_letters (s : CharSet) : s.letters∗ = s.words := by
  ext w
  rw [Language.mem_kstar]
  constructor
  · rintro ⟨ws, rfl, hws⟩ c hc
    obtain ⟨v, hv, hmem⟩ := List.mem_flatten.1 hc
    obtain ⟨d, hd, rfl⟩ := hws v hv
    exact List.mem_singleton.1 hmem ▸ hd
  · intro hw
    refine ⟨w.map fun c => [c], by simp [← List.flatMap_def], fun v hv => ?_⟩
    obtain ⟨c, hc, rfl⟩ := List.mem_map.1 hv
    exact ⟨c, hw c hc, rfl⟩

theorem mem_letters_mul_words {s : CharSet} {w : List Char} :
    w ∈ s.letters * s.words ↔ w ≠ [] ∧ w ∈ s.words := by
  rw [Language.mem_mul]
  constructor
  · rintro ⟨_, ⟨c, hc, rfl⟩, cs, hcs, rfl⟩
    refine ⟨nofun, fun d hd => ?_⟩
    rcases List.mem_cons.1 hd with rfl | hd
    · exact hc
    · exact hcs d hd
  · rintro ⟨hne, hw⟩
    cases w with
    | nil => exact absurd rfl hne
    | cons c cs => exact ⟨[c], ⟨c, hw c (by simp), rfl⟩, cs, fun d hd => hw d (by simp [hd]), rfl⟩

end CharSet

namespace Pattern

/-- Texts without a slash. -/
def slashFree : Language Char := {s | '/' ∉ s}

/-- Texts without a slash that are not empty. -/
def segments : Language Char := {s | s ≠ [] ∧ '/' ∉ s}

/-- The texts that a pattern stands for, constraints aside. -/
def language : Pattern → Language Char
  | .empty => 1
  | .literal c => {[c]}
  | .segment => slashFree
  | .directories => (segments * {['/']})∗
  | .anything => {s | '\n' ∉ s}
  | .var _ => segments
  | .seq p q => p.language * q.language
  | .alt p q => p.language + q.language
  | .group p => p.language
  | .optional p => p.language + 1

end Pattern

/-! ## Passages over languages -/

namespace Passage

variable {text : List Char} {T U : Passage} {L M : Language Char}

/-- Whether a passage leads over the words of a language and over nothing else. -/
def Takes (text : List Char) (T : Passage) (L : Language Char) : Prop :=
  ∀ i j, (∃ ms, T i j ms) ↔ ∃ w ∈ L, w <+: text.drop i ∧ j = i + w.length

theorem append_prefix_iff {u v s : List Char} :
    u ++ v <+: s ↔ u <+: s ∧ v <+: s.drop u.length := by
  constructor
  · rintro ⟨t, rfl⟩
    refine ⟨⟨v ++ t, by simp⟩, ⟨t, ?_⟩⟩
    rw [List.append_assoc, List.drop_left]
  · rintro ⟨⟨t, rfl⟩, h⟩
    rw [List.drop_left] at h
    exact (List.prefix_append_right_inj u).2 h

theorem Takes.stay : Takes text stay 1 := by
  intro i j
  constructor
  · rintro ⟨_, rfl, rfl⟩
    exact ⟨[], rfl, List.nil_prefix, rfl⟩
  · rintro ⟨w, hw, -, rfl⟩
    rw [(Language.mem_one w).1 hw]
    exact ⟨[], rfl, rfl⟩

theorem Takes.mark (h : Takes text T L) (group : Nat) : Takes text (mark group T) L := by
  intro i j
  rw [← h i j]
  constructor
  · rintro ⟨_, ms, hT, -⟩
    exact ⟨ms, hT⟩
  · rintro ⟨ms, hT⟩
    exact ⟨_, ms, hT, rfl⟩

theorem Takes.seq (hT : Takes text T L) (hU : Takes text U M) : Takes text (seq T U) (L * M) := by
  intro i k
  constructor
  · rintro ⟨_, j, first, second, hfirst, hsecond, -⟩
    obtain ⟨u, hu, hpu, rfl⟩ := (hT i j).1 ⟨first, hfirst⟩
    obtain ⟨v, hv, hpv, rfl⟩ := (hU _ k).1 ⟨second, hsecond⟩
    rw [← List.drop_drop] at hpv
    exact ⟨u ++ v, Language.mem_mul.2 ⟨u, hu, v, hv, rfl⟩, append_prefix_iff.2 ⟨hpu, hpv⟩,
      by simp [Nat.add_assoc]⟩
  · rintro ⟨w, hw, hp, rfl⟩
    obtain ⟨u, hu, v, hv, rfl⟩ := Language.mem_mul.1 hw
    obtain ⟨hpu, hpv⟩ := append_prefix_iff.1 hp
    rw [List.drop_drop] at hpv
    obtain ⟨first, hfirst⟩ := (hT i _).2 ⟨u, hu, hpu, rfl⟩
    obtain ⟨second, hsecond⟩ := (hU _ _).2 ⟨v, hv, hpv, rfl⟩
    exact ⟨_, _, first, second, hfirst, by simpa [Nat.add_assoc] using hsecond, rfl⟩

theorem Takes.either (hT : Takes text T L) (hU : Takes text U M) :
    Takes text (either T U) (L + M) := by
  intro i j
  simp only [Passage.either, exists_or, hT i j, hU i j, Language.mem_add, or_and_right]

theorem Takes.times (h : Takes text T L) (n : Nat) : Takes text (T.times n) (L ^ n) := by
  induction n with
  | zero => exact .stay
  | succ n ih =>
    rw [pow_succ']
    exact h.seq ih

theorem Takes.star (h : Takes text T L) : Takes text (repeated 0 none T) (L∗) := by
  intro i j
  have hn (n : Nat) := h.times n i j
  simp only [repeated, Nat.zero_le, true_and, Language.kstar_eq_iSup_pow]
  constructor
  · rintro ⟨ms, n, -, ht⟩
    obtain ⟨w, hw, hp⟩ := (hn n).1 ⟨ms, ht⟩
    exact ⟨w, Set.mem_iUnion.2 ⟨n, hw⟩, hp⟩
  · rintro ⟨w, hw, hp⟩
    obtain ⟨n, hw⟩ := Set.mem_iUnion.1 hw
    obtain ⟨ms, ht⟩ := (hn n).2 ⟨w, hw, hp⟩
    exact ⟨ms, n, nofun, ht⟩

theorem Takes.anyOf_singleton (h : Takes text T L) : Takes text (anyOf [T]) L := by
  rwa [Passage.anyOf_singleton]

theorem takes_oneOf (text : List Char) (s : CharSet) : Takes text (oneOf text s) s.letters := by
  intro i j
  have hhead (c : Char) : [c] <+: text.drop i ↔ text[i]? = some c := by
    rw [List.singleton_prefix_iff_head?_eq_some, List.head?_drop]
  constructor
  · rintro ⟨_, ⟨⟨c, hc, hs⟩, rfl⟩, -⟩
    exact ⟨[c], ⟨c, hs, rfl⟩, (hhead c).2 hc, rfl⟩
  · rintro ⟨_, ⟨c, hs, rfl⟩, hp, rfl⟩
    exact ⟨[], ⟨⟨c, (hhead c).1 hp, hs⟩, rfl⟩, rfl⟩

/-- Any number of characters of a set. -/
theorem takes_words (text : List Char) (s : CharSet) :
    Takes text (repeated 0 none (oneOf text s)) s.words := by
  rw [← CharSet.kstar_letters]
  exact (takes_oneOf text s).star

/-- One or more characters of a set. -/
theorem takes_letters_mul_words (text : List Char) (s : CharSet) :
    Takes text (repeated 1 none (oneOf text s)) (s.letters * s.words) := by
  rw [repeated_add (n := 0) 1, times_one]
  exact (takes_oneOf text s).seq (takes_words text s)

end Passage

/-! ## Expressions -/

namespace Pattern

open Passage

variable (text : List Char)

theorem letters_singleton (c : Char) : (CharSet.singleton c).letters = {[c]} := by
  ext w
  simp only [CharSet.letters, CharSet.mem_iff, CharSet.contains_singleton, beq_iff_eq]
  exact ⟨fun ⟨d, hd, hw⟩ => hd ▸ hw, fun hw => ⟨c, rfl, hw⟩⟩

theorem words_notSlash : CharSet.notSlash.words = slashFree := by
  ext w
  simp only [CharSet.words, CharSet.mem_notSlash]
  exact ⟨fun h hmem => h '/' hmem rfl, fun h c hc hslash => h (hslash ▸ hc)⟩

theorem words_notLineFeed : CharSet.notLineFeed.words = anything.language := by
  ext w
  simp only [CharSet.words, CharSet.mem_notLineFeed]
  exact ⟨fun h hmem => h '\n' hmem rfl, fun h c hc hfeed => h (hfeed ▸ hc)⟩

theorem letters_mul_words_notSlash :
    CharSet.notSlash.letters * CharSet.notSlash.words = segments := by
  ext w
  rw [CharSet.mem_letters_mul_words, words_notSlash]
  rfl

theorem takes_ofChar (c : Char) : Takes text ((Regex.ofChar c).passageIn text) {[c]} :=
  letters_singleton c ▸ takes_oneOf text _

theorem takes_slashFree : Takes text ((slashless 0).passageIn text) slashFree :=
  words_notSlash ▸ takes_words text _

theorem takes_segments : Takes text ((slashless 1).passageIn text) segments :=
  letters_mul_words_notSlash ▸ takes_letters_mul_words text _

/-- Induction on the pattern: the alternatives of its expression take its language. -/
theorem takes_expressions (p : Pattern) (n : Nat) :
    Takes text (anyOf ((p.expressions n).map (Regex.passageIn text))) p.language := by
  induction p generalizing n with
  | empty => exact Takes.stay.anyOf_singleton
  | literal c => exact (takes_ofChar text c).anyOf_singleton
  | segment => exact (takes_slashFree text).anyOf_singleton
  | directories =>
    exact ((takes_segments text).seq (takes_ofChar text '/')).star.anyOf_singleton
  | anything =>
    exact (words_notLineFeed ▸ takes_words text _ : Takes text _ anything.language).anyOf_singleton
  | var d => exact ((takes_segments text).mark (n + 1)).anyOf_singleton
  | seq p q ihp ihq =>
    refine Takes.anyOf_singleton ?_
    rw [Regex.passageIn_append, Regex.passageIn_alternation, Regex.passageIn_alternation]
    exact (ihp n).seq (ihq _)
  | alt p q ihp ihq =>
    rw [expressions, List.map_cons, anyOf_cons, Regex.passageIn_alternation]
    exact (ihp n).either (ihq _)
  | group p ih =>
    refine Takes.anyOf_singleton ?_
    rw [Regex.passageIn_alternation]
    exact ih n
  | optional p ih =>
    refine Takes.anyOf_singleton ?_
    rw [Regex.passageIn_optional, Regex.passageIn_alternation]
    exact (ih n).either .stay

theorem takes_expression (p : Pattern) (n : Nat) :
    Takes text ((p.expression n).passageIn text) p.language := by
  rw [expression, Regex.passageIn_alternation]
  exact takes_expressions text p n

end Pattern

/-! ## Matchers -/

section

variable {text : String} {options : Options} {m : Matcher} {p : Pattern}

/-- An expression between anchors matches the words of the language that it takes. -/
theorem Matcher.isMatch_iff_of_takes {r : Regex Atom} {L : Language Char} {path : String}
    (hr : m.regex.regex = Regex.anchored r)
    (htakes : Passage.Takes path.toList (r.passageIn path.toList) L) :
    m.isMatch path = true ↔ path.toList ∈ L := by
  simp only [isMatch, Regex.isMatch_iff, hr, Regex.passageIn_anchored]
  have htakes := htakes 0 path.toList.length
  constructor
  · rintro ⟨_, _, ms, ⟨rfl, rfl, hp⟩, -⟩
    obtain ⟨w, hw, hstart, hlength⟩ := htakes.1 ⟨ms, hp⟩
    rw [List.drop_zero] at hstart
    rwa [hstart.eq_of_length (by omega)] at hw
  · intro hw
    obtain ⟨ms, hp⟩ := htakes.2 ⟨path.toList, hw, by simp, by simp⟩
    exact ⟨0, _, ms, ⟨rfl, rfl, hp⟩, Nat.le_refl _⟩

theorem Matcher.Stages.isMatch_iff (h : m.Stages text options p)
    (hcase : options.caseInsensitive = false) (hc : p.constraints = []) (path : String) :
    m.isMatch path = true ↔ path.toList ∈ p.language := by
  have hregex := h.regex
  rw [hcase] at hregex
  exact isMatch_iff_of_takes (h.spells.ofSource_eq hc hregex)
    (Pattern.takes_expression path.toList p 0)

/-- A matcher of a pattern without constraints accepts the words of the pattern's language. -/
theorem isMatch_iff_mem_language (hm : (Matcher.compile text options).outcome = .ok m)
    (hcase : options.caseInsensitive = false) (hp : Pattern.Spells text p)
    (hc : p.constraints = []) (path : String) :
    m.isMatch path = true ↔ path.toList ∈ p.language := by
  have hstages := Matcher.stages_of_spells hm hp
  exact hstages.isMatch_iff hcase hc path

theorem isMatch_iff_mem_language_directories :
    ∃ m p, (Matcher.compile "**/{name}?").outcome = .ok m ∧ Pattern.Spells "**/{name}?" p ∧
      p.constraints = [] ∧ (m.isMatch "a/b/" = true ↔ "a/b/".toList ∈ p.language) := by
  obtain ⟨m, hm⟩ : ∃ m, (Matcher.compile "**/{name}?").outcome = .ok m := ⟨_, rfl⟩
  obtain ⟨p, hp, hc⟩ : ∃ p, (Pattern.parse "**/{name}?").outcome = .ok p ∧ p.constraints = [] :=
    ⟨_, rfl, rfl⟩
  have hspells := Pattern.spells_of_parse hp
  exact ⟨m, p, hm, hspells, hc, isMatch_iff_mem_language hm rfl hspells hc "a/b/"⟩

end

end PathGlob

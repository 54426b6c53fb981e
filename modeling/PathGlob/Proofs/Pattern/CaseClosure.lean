-- SUMMARY: Ignoring case accepts exactly the paths that are equal up to case to an accepted one.
import PathGlob.Proofs.Pattern.Language
import PathGlob.Proofs.Unicode.CaseFolding

/-!
# Patterns that ignore case

Closing a language under case commutes with everything that patterns are built from. Only literals
compile differently when case is ignored: wildcards and variables are about slashes and line feeds,
which have no case.
-/

namespace PathGlob

open scoped Computability
open Unicode (EqualUpToCase isCaseless)

/-! ## Closure under case -/

/-- The texts that are equal up to case to one of a language. -/
def caseClosure (L : Language Char) : Language Char :=
  {w | ∃ v ∈ L, List.Forall₂ EqualUpToCase w v}

section

variable {L M : Language Char} {w v : List Char} {c : Char}

theorem mem_caseClosure : w ∈ caseClosure L ↔ ∃ v ∈ L, List.Forall₂ EqualUpToCase w v := Iff.rfl

theorem mem_caseClosure_of_mem (h : w ∈ L) : w ∈ caseClosure L :=
  ⟨w, h, List.forall₂_same.2 fun _ _ => rfl⟩

theorem caseClosure_one : caseClosure 1 = 1 := by
  ext w
  constructor
  · rintro ⟨v, hv, hw⟩
    rw [(Language.mem_one v).1 hv, List.forall₂_nil_right_iff] at hw
    exact (Language.mem_one w).2 hw
  · exact mem_caseClosure_of_mem

theorem caseClosure_add : caseClosure (L + M) = caseClosure L + caseClosure M := by
  ext w
  simp only [mem_caseClosure, Language.mem_add, or_and_right, exists_or]

theorem caseClosure_mul : caseClosure (L * M) = caseClosure L * caseClosure M := by
  ext w
  rw [mem_caseClosure, Language.mem_mul]
  constructor
  · rintro ⟨_, hmem, hw⟩
    obtain ⟨u, hu, v, hv, rfl⟩ := Language.mem_mul.1 hmem
    exact ⟨_, ⟨u, hu, List.forall₂_take_append _ _ _ hw⟩, _,
      ⟨v, hv, List.forall₂_drop_append _ _ _ hw⟩, List.take_append_drop _ w⟩
  · rintro ⟨_, ⟨u, hu, hfirst⟩, _, ⟨v, hv, hsecond⟩, rfl⟩
    exact ⟨u ++ v, Language.mem_mul.2 ⟨u, hu, v, hv, rfl⟩, List.rel_append hfirst hsecond⟩

theorem caseClosure_pow (n : Nat) : caseClosure (L ^ n) = caseClosure L ^ n := by
  induction n with
  | zero => exact caseClosure_one
  | succ n ih => rw [pow_succ, pow_succ, caseClosure_mul, ih]

theorem caseClosure_kstar : caseClosure (L∗) = (caseClosure L)∗ := by
  have hmem (K : Language Char) (w : List Char) : w ∈ K∗ ↔ ∃ n, w ∈ K ^ n := by
    rw [Language.kstar_eq_iSup_pow]
    exact Set.mem_iUnion
  ext w
  simp only [mem_caseClosure, hmem, ← caseClosure_pow]
  constructor
  · rintro ⟨v, ⟨n, hv⟩, hw⟩
    exact ⟨n, v, hv, hw⟩
  · rintro ⟨n, v, hv, hw⟩
    exact ⟨v, ⟨n, hv⟩, hw⟩

theorem caseClosure_singleton (c : Char) :
    caseClosure {[c]} = (CharSet.singleton c).foldCase.letters := by
  ext w
  constructor
  · rintro ⟨_, rfl, hw⟩
    obtain ⟨d, ds, hd, hds, rfl⟩ := List.forall₂_cons_right_iff.1 hw
    rw [List.forall₂_nil_right_iff] at hds
    exact ⟨d, CharSet.mem_foldCase_singleton.2 hd, by rw [hds]⟩
  · rintro ⟨d, hd, rfl⟩
    exact ⟨[c], rfl, .cons (CharSet.mem_foldCase_singleton.1 hd) .nil⟩

/-- Texts that are equal up to case have the same characters without case. -/
theorem mem_iff_of_forall₂ (hc : isCaseless c.toNat = true) (h : List.Forall₂ EqualUpToCase w v) :
    c ∈ w ↔ c ∈ v := by
  induction h with
  | nil => rfl
  | @cons a b as bs hab _ ih =>
    have hhead : c = a ↔ c = b := by
      constructor
      · rintro rfl
        exact ((EqualUpToCase.eq_iff hc).1 hab.symm).symm
      · rintro rfl
        exact ((EqualUpToCase.eq_iff hc).1 hab).symm
    rw [List.mem_cons, List.mem_cons, hhead, ih]

/-- A language that asks only for the absence of a character without case, and perhaps not to be
empty, is closed. -/
theorem caseClosure_without (hc : isCaseless c.toNat = true) :
    caseClosure {s | c ∉ s} = {s | c ∉ s} ∧
      caseClosure {s | s ≠ [] ∧ c ∉ s} = {s | s ≠ [] ∧ c ∉ s} := by
  constructor
  · ext w
    refine ⟨?_, mem_caseClosure_of_mem⟩
    rintro ⟨v, hv, hw⟩
    exact mt (mem_iff_of_forall₂ hc hw).1 hv
  · ext w
    refine ⟨?_, mem_caseClosure_of_mem⟩
    rintro ⟨v, ⟨hne, hv⟩, hw⟩
    refine ⟨?_, mt (mem_iff_of_forall₂ hc hw).1 hv⟩
    rintro rfl
    exact hne (List.forall₂_nil_left_iff.1 hw)

end

namespace Pattern

open Unicode (isCaseless_slash isCaseless_lineFeed)

theorem caseClosure_slashFree : caseClosure slashFree = slashFree :=
  (caseClosure_without isCaseless_slash).1

theorem caseClosure_segments : caseClosure segments = segments :=
  (caseClosure_without isCaseless_slash).2

theorem caseClosure_anything : caseClosure anything.language = anything.language :=
  (caseClosure_without isCaseless_lineFeed).1

theorem foldCase_slash : (CharSet.singleton '/').foldCase = CharSet.singleton '/' := by
  decide +kernel

theorem caseClosure_directories : caseClosure directories.language = directories.language := by
  rw [language, caseClosure_kstar, caseClosure_mul, caseClosure_segments, caseClosure_singleton,
    foldCase_slash, letters_singleton]

/-! ## Expressions -/

open Passage
open Regex (Ast Flags)

/-- The flags of an expression that ignores case. -/
def folded : Flags := { caseInsensitive := true }

/-- Whether a tree that ignores case stands for an expression that takes the closure of a
language. -/
def Covers (a : Ast) (L : Language Char) : Prop :=
  ∃ rs, a.alternatives folded = some (rs, folded) ∧
    ∀ text, Takes text (anyOf (rs.map (Regex.passageIn text))) (caseClosure L)

namespace Covers

variable {a b : Ast} {L M : Language Char} {p : Pattern} {n g : Nat}

theorem empty : Covers .empty 1 :=
  ⟨[.empty], rfl, fun _ => caseClosure_one.symm ▸ Takes.stay.anyOf_singleton⟩

theorem literal (c : Char) : Covers (.literal ⟨c, false⟩) {[c]} := by
  refine ⟨[.ofSet (CharSet.singleton c).foldCase], rfl, fun text => ?_⟩
  rw [caseClosure_singleton]
  refine Takes.anyOf_singleton ?_
  rw [Regex.passageIn_ofSet]
  exact takes_oneOf text _

/-- What is written without a cased literal has the same expression as without the flag. -/
theorem of_expressions (h : (p.toAst n g).alternatives folded = some (p.expressions n, folded))
    (hclosed : caseClosure p.language = p.language) : Covers (p.toAst n g) p.language :=
  ⟨_, h, fun text => hclosed.symm ▸ takes_expressions text p n⟩

theorem cat (ha : Covers a L) (hb : Covers b M) : Covers (.cat a b) (L * M) := by
  obtain ⟨rs, hrs, hfirst⟩ := ha
  obtain ⟨ss, hss, hsecond⟩ := hb
  refine ⟨[(Regex.alternation rs).append (.alternation ss)], ?_, fun text => ?_⟩
  · rw [Ast.alternatives, hrs]
    show (b.alternatives folded).bind _ = _
    rw [hss]
    rfl
  · rw [caseClosure_mul]
    refine Takes.anyOf_singleton ?_
    rw [Regex.passageIn_append, Regex.passageIn_alternation, Regex.passageIn_alternation]
    exact (hfirst text).seq (hsecond text)

theorem alt (ha : Covers a L) (hb : Covers b M) : Covers (.alt a b) (L + M) := by
  obtain ⟨rs, hrs, hfirst⟩ := ha
  obtain ⟨ss, hss, hsecond⟩ := hb
  refine ⟨.alternation rs :: ss, ?_, fun text => ?_⟩
  · rw [Ast.alternatives, hrs]
    show (b.alternatives folded).bind _ = _
    rw [hss]
    rfl
  · rw [caseClosure_add, List.map_cons, anyOf_cons, Regex.passageIn_alternation]
    exact (hfirst text).either (hsecond text)

theorem group (ha : Covers a L) : Covers (.group [] a) L := by
  obtain ⟨rs, hrs, htakes⟩ := ha
  refine ⟨[.alternation rs], ?_, fun text => ?_⟩
  · rw [Ast.alternatives, show Flags.update folded [] = folded from rfl, hrs]
    rfl
  · refine Takes.anyOf_singleton ?_
    rw [Regex.passageIn_alternation]
    exact htakes text

theorem optional (ha : Covers a L) : Covers (.repetition 0 (some 1) true a) (L + 1) := by
  obtain ⟨rs, hrs, htakes⟩ := ha
  refine ⟨[.repeated 0 (some 1) true (.alternation rs)], ?_, fun text => ?_⟩
  · rw [Ast.alternatives, hrs]
    rfl
  · rw [caseClosure_add, caseClosure_one]
    refine Takes.anyOf_singleton ?_
    rw [Regex.passageIn_optional, Regex.passageIn_alternation]
    exact (htakes text).either .stay

end Covers

theorem alternatives_notSlashAst :
    notSlashAst.alternatives folded = some ([.atom (.char .notSlash false)], folded) := by
  show some ([Regex.ofSet (CharSet.singleton '/').foldCase.complement], folded) = _
  rw [foldCase_slash]
  rfl

theorem alternatives_slash :
    (Ast.literal ⟨'/', false⟩).alternatives folded = some ([.ofChar '/'], folded) := by
  show some ([Regex.ofSet (CharSet.singleton '/').foldCase], folded) = _
  rw [foldCase_slash]
  rfl

theorem alternatives_slashless (min : Nat) :
    (Ast.repetition min none true notSlashAst).alternatives folded =
      some ([.repeated min none true (.atom (.char .notSlash false))], folded) := by
  rw [Ast.alternatives, alternatives_notSlashAst]
  rfl

section

variable {cs : List Char} {p : Pattern} (n : Nat)

theorem covers_segment (g : Nat) : Covers (segment.toAst n g) segment.language :=
  .of_expressions (alternatives_slashless 0) caseClosure_slashFree

theorem covers_directories (g : Nat) : Covers (directories.toAst n g) directories.language := by
  refine .of_expressions ?_ caseClosure_directories
  have hcat : (Ast.cat (.repetition 1 none true notSlashAst) (.literal ⟨'/', false⟩)).alternatives
      folded = some ([directory], folded) :=
    Regex.Ast.resolve_cat (alternatives_slashless 1) alternatives_slash
  rw [toAst, Ast.alternatives, Ast.alternatives, show Flags.update folded [] = folded from rfl,
    hcat]
  rfl

theorem covers_anything (g : Nat) : Covers (anything.toAst n g) anything.language :=
  .of_expressions rfl caseClosure_anything

theorem covers_var {d : Declaration} (hd : d.constraint = none) :
    Covers ((var d).toAst n n) (var d).language := by
  refine .of_expressions ?_ caseClosure_segments
  have hshift : (Ast.repetition 1 none true notSlashAst).shift (n + 1) =
      .repetition 1 none true notSlashAst := rfl
  rw [toAst, body_of_constraint_eq_none hd, hshift, Ast.alternatives, alternatives_slashless]
  rfl

/-- An item in front of a sequence. Nothing stands for the end of the sequence. -/
theorem covers_seq {q : Pattern} (harity : p.groups = p.arity)
    (hp : Covers (p.toAst n n) p.language)
    (hq : Covers (q.toAst (n + p.arity) (n + p.arity)) q.language) :
    Covers ((seq p q).toAst n n) (seq p q).language := by
  rw [toAst, harity, language]
  split
  · next hempty =>
    subst hempty
    rwa [language, mul_one]
  · exact hp.cat hq

theorem Derives.covers {k : Phrase} (h : Derives k cs p) (hc : p.constraints = []) (n : Nat) :
    Covers (p.toAst n n) p.language := by
  induction h generalizing n with
  | last _ ih => exact ih hc n
  | bar _ _ ihp ihq =>
    obtain ⟨hcp, hcq⟩ := constraints_alt_eq_nil_iff.1 hc
    rw [toAst, groups_eq_arity hcp]
    exact (ihp hcp n).alt (ihq hcq _)
  | nil => exact .empty
  | segment _ _ ih => exact covers_seq n rfl (covers_segment n n) (ih hc _)
  | directories _ ih => exact covers_seq n rfl (covers_directories n n) (ih hc _)
  | anything _ _ ih => exact covers_seq n rfl (covers_anything n n) (ih hc _)
  | cons _ _ ihp ihq =>
    obtain ⟨hcp, hcq⟩ := constraints_seq_eq_nil_iff.1 hc
    exact covers_seq n (groups_eq_arity hcp) (ihp hcp n) (ihq hcq _)
  | consOptional _ _ ihp ihq =>
    obtain ⟨hcp, hcq⟩ := constraints_seq_eq_nil_iff.1 hc
    exact covers_seq n (groups_eq_arity hcp) (ihp hcp n).optional (ihq hcq _)
  | fullStop | literal _ | escaped => exact .literal _
  | var _ => exact covers_var n rfl
  | constrained _ _ _ => simp [constraints, declarations] at hc
  | group _ _ ih => exact (ih hc n).group

/-- The source of a pattern without constraints compiles, if case is ignored, to an expression
between anchors that takes the closure of the pattern's language. -/
theorem Spells.exists_anchored {text : String} {r : Regex Atom} (h : Spells text p)
    (hc : p.constraints = []) (hr : Regex.ofSource? p.source true = some r) :
    ∃ g, r = Regex.anchored g ∧
      ∀ text, Takes text (g.passageIn text) (caseClosure p.language) := by
  obtain ⟨a, ha, hr⟩ := Option.bind_eq_some_iff.1 hr
  rw [h.parse_source (fits_of_constraints_eq_nil hc) ha] at hr
  obtain ⟨g, hg, hanchored⟩ := Ast.resolve_anchored (f := folded) rfl hr
  obtain ⟨rs, hrs, htakes⟩ := (h.covers hc 0).group
  rw [Ast.resolve, hrs] at hg
  cases hg
  refine ⟨_, hanchored, fun text => ?_⟩
  rw [Regex.passageIn_alternation]
  exact htakes text

end

end Pattern

/-! ## Matchers -/

section

variable {text : String} {options : Options} {m m' : Matcher} {p : Pattern}

theorem Matcher.Stages.isMatch_iff_caseClosure (h : m.Stages text options p)
    (hcase : options.caseInsensitive = true) (hc : p.constraints = []) (path : String) :
    m.isMatch path = true ↔ path.toList ∈ caseClosure p.language := by
  have hregex := h.regex
  rw [hcase] at hregex
  obtain ⟨g, hanchored, htakes⟩ := h.spells.exists_anchored hc hregex
  exact isMatch_iff_of_takes hanchored (htakes path.toList)

/-- If case is ignored, a matcher of a pattern without constraints accepts the paths that are equal
up to case to one that it accepts otherwise, among them that one itself. -/
theorem isMatch_caseInsensitive_iff
    (hm : (Matcher.compile text { options with caseInsensitive := false }).outcome = .ok m)
    (hm' : (Matcher.compile text { options with caseInsensitive := true }).outcome = .ok m')
    (hp : Pattern.Spells text p) (hc : p.constraints = []) (path : String) :
    (m'.isMatch path = true ↔ ∃ variant : String,
      List.Forall₂ EqualUpToCase path.toList variant.toList ∧ m.isMatch variant = true) ∧
    (m.isMatch path = true → m'.isMatch path = true) := by
  have hstages := Matcher.stages_of_spells hm hp
  have hstages' := Matcher.stages_of_spells hm' hp
  rw [hstages'.isMatch_iff_caseClosure rfl hc]
  simp only [hstages.isMatch_iff rfl hc]
  constructor
  · constructor
    · rintro ⟨v, hv, hw⟩
      exact ⟨.ofList v, by rwa [String.toList_ofList], by rwa [String.toList_ofList]⟩
    · rintro ⟨variant, hw, hv⟩
      exact ⟨_, hv, hw⟩
  · exact mem_caseClosure_of_mem

/-- The Kelvin sign has two case variants. -/
theorem isMatch_caseInsensitive_iff_kelvin :
    ∃ m m' p, (Matcher.compile "k*" { caseInsensitive := false }).outcome = .ok m ∧
      (Matcher.compile "k*" { caseInsensitive := true }).outcome = .ok m' ∧
      Pattern.Spells "k*" p ∧ p.constraints = [] ∧
      (m'.isMatch "\u212AS" = true ↔ ∃ variant : String,
        List.Forall₂ EqualUpToCase "\u212AS".toList variant.toList ∧ m.isMatch variant = true) ∧
      (m.isMatch "\u212AS" = true → m'.isMatch "\u212AS" = true) := by
  have hcompiles (ignored : Bool) :
      (Matcher.compile "k*" { caseInsensitive := ignored }).yields (fun _ => true) = true := by
    revert ignored
    decide +kernel
  obtain ⟨m, hm, -⟩ := Traced.exists_of_yields (hcompiles false)
  obtain ⟨m', hm', -⟩ := Traced.exists_of_yields (hcompiles true)
  obtain ⟨p, hp, hc⟩ : ∃ p, (Pattern.parse "k*").outcome = .ok p ∧ p.constraints = [] :=
    ⟨_, rfl, rfl⟩
  have hspells := Pattern.spells_of_parse hp
  exact ⟨m, m', p, hm, hm', hspells, hc,
    @isMatch_caseInsensitive_iff "k*" {} m m' p hm hm' hspells hc "\u212AS"⟩

end

end PathGlob

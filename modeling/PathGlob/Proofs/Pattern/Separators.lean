-- SUMMARY: Two patterns with a slash between them match around the first slash of a path.
import PathGlob.Proofs.Pattern.Binding
import PathGlob.Proofs.Pattern.Juxtaposition
import PathGlob.Proofs.Pattern.OrderedChoice
import PathGlob.Proofs.Regex.Moving

/-!
# Separators

A pattern without slashes and double stars never takes a slash, whatever is tried on the way. Put
in front of a slash and another pattern it has the ways that it has over the text before the first
slash of a path, and only those over all of that text go on. So both patterns choose as they do by
themselves.
-/

namespace PathGlob

namespace Regex.Ast

theorem map_fst_captures_regroup (g : Nat → Nat) (a : Ast) :
    (a.regroup g).captures.map Prod.fst = (a.captures.map Prod.fst).map g := by
  induction a with
  | repetition _ _ _ _ ih | group _ _ ih => exact ih
  | capture index name a ih => exact congrArg (g index :: ·) ih
  | cat a b iha ihb | alt a b iha ihb =>
    simp only [regroup, captures_cat, captures_alt, List.map_append, iha, ihb]
  | _ => rfl

end Regex.Ast

namespace Pattern

open Regex (Ast)

variable {p q : Pattern} {cs : List Char} {n : Nat}

/-! ## Expressions -/

/-- The place of a pattern in a text changes the numbers and names of its groups in its expression,
and nothing else. -/
theorem regroup_expression {k : Phrase} (h : Derives k cs q) (hc : q.constraints = [])
    (hnodup : ((q.toAst 0 0).captures.map Prod.fst).Nodup) (n : Nat) :
    (q.expression n).regroup id = (q.expression 0).regroup (· + n) := by
  have htree : (q.toAst n (0 + n)).regroup id = (q.toAst 0 0).regroup (· + n) :=
    regroup_toAst q n 0 0 n id
  rw [Nat.zero_add] at htree
  -- So the numbers of its groups are told apart wherever it stands.
  have hnodup' : ((q.toAst n n).captures.map Prod.fst).Nodup := by
    have hindices := congrArg (fun a => (Ast.captures a).map Prod.fst) htree
    simp only [Ast.map_fst_captures_regroup, List.map_id] at hindices
    rw [hindices]
    exact hnodup.map (add_left_injective n)
  have hapart := Regex.apart_of_nodup hnodup (add_left_injective n)
  have hapart' := Regex.apart_of_nodup hnodup' Function.injective_id
  have hfirst := h.alternatives_toAst hc 0
  have hsecond := h.alternatives_toAst hc n
  obtain ⟨rs, hrs, hmap⟩ := Ast.exists_alternatives_of_regroup_eq hapart (List.Subset.refl _)
    hapart' (List.Subset.refl _) htree hfirst
  obtain ⟨rfl, -⟩ := Prod.mk.inj (Option.some.inj (hsecond.symm.trans hrs))
  rw [expression, expression,
    ← Regex.alternation_regroup hapart' (Ast.within_alternatives hsecond (List.Subset.refl _)),
    ← Regex.alternation_regroup hapart (Ast.within_alternatives hfirst (List.Subset.refl _)), hmap]

/-- Whether a pattern has no double stars and no slashes. -/
def IsWithinSegment (p : Pattern) : Prop :=
  Pattern.directories ∉ p.leaves ∧ Pattern.anything ∉ p.leaves ∧ Pattern.literal '/' ∉ p.leaves

instance (p : Pattern) : Decidable p.IsWithinSegment := inferInstanceAs (Decidable (_ ∧ _ ∧ _))

/-- No atom of a pattern without double stars and slashes takes a slash. -/
theorem IsWithinSegment.stopsAt (h : p.IsWithinSegment) (n : Nat) (rest : List Char) :
    (p.expression n).All (Atom.StopsAt ('/' :: rest)) := by
  obtain ⟨hdirectories, hanything, hslash⟩ := h
  have hwild : (Atom.char .notSlash false).StopsAt ('/' :: rest) := by
    intro d hd hmem
    obtain rfl : '/' = d := Option.some.inj hd
    exact (CharSet.mem_notSlash _).1 hmem rfl
  have hliteral (c : Char) (hc : .literal c ∈ p.leaves) :
      (Regex.ofChar c).All (Atom.StopsAt ('/' :: rest)) := by
    intro d hd hmem
    obtain rfl : '/' = d := Option.some.inj hd
    rw [CharSet.mem_iff, CharSet.contains_singleton, beq_iff_eq] at hmem
    exact hslash (hmem ▸ hc)
  have hstops := Regex.hereditary_stopsAt ('/' :: rest)
  exact hstops.alternation (forall_expressions hstops hliteral hwild
    (absurd · hdirectories) (absurd · hanything) (fun _ => hwild) (fun _ hr => hr)
    (List.Subset.refl _) n)

/-! ## Joined patterns -/

/-- Two patterns with a slash between them. -/
def join (p q : Pattern) : Pattern := p.andThen (.seq (.literal '/') q)

theorem leaves_subset_of_mem_items {x : Pattern} (h : x ∈ p.items) : x.leaves ⊆ p.leaves := by
  induction p with
  | seq p q _ ih =>
    rcases List.mem_cons.1 h with rfl | h
    · exact List.subset_append_left _ _
    · exact List.Subset.trans (ih h) (List.subset_append_right _ _)
  | _ => cases h

theorem Derives.join {ds : List Char} (hp : Derives .sequence cs p) (hq : Derives .sequence ds q)
    (h : .anything ∉ p.leaves) : Derives .sequence (cs ++ '/' :: ds) (p.join q) := by
  refine hp.andThen (.cons (.literal (by decide)) hq) ⟨fun _ => by simp, fun hlast => ?_⟩
  have hmem := leaves_subset_of_mem_items (List.mem_of_getLast? hlast) (List.mem_singleton_self _)
  exact absurd hmem h

theorem Derives.sequence (h : Derives .alternatives cs p) (hp : p.IsSequence) :
    Derives .sequence cs p := by
  cases h with
  | last h => exact h
  | bar _ _ => cases hp

theorem Spells.join {first second : String} (hp : Spells first p) (hq : Spells second q)
    (hpseq : p.IsSequence) (hqseq : q.IsSequence) (h : .anything ∉ p.leaves) :
    Spells (first ++ "/" ++ second) (p.join q) := by
  have hderives := (Derives.sequence hp hpseq).join (Derives.sequence hq hqseq) h
  rw [Spells, String.toList_append, String.toList_append, List.append_assoc]
  exact .last hderives

theorem IsSequence.waysIn_andThen (h : p.IsSequence) (q : Pattern) (n : Nat) (text : List Char) :
    ((p.andThen q).expression n).waysIn text =
      .seq ((p.expression n).waysIn text) ((q.expression (n + p.arity)).waysIn text) := by
  induction h generalizing n with
  | empty => exact Ways.stay_seq.symm
  | seq x _ ih =>
    show Regex.waysIn text (Regex.append _ _) = .seq (Regex.waysIn text (Regex.append _ _)) _
    rw [Regex.waysIn_append, Regex.waysIn_append, Ways.seq_assoc, arity, ← Nat.add_assoc]
    exact congrArg _ (ih _)

theorem IsSequence.waysIn_join (h : p.IsSequence) (q : Pattern) (text : List Char) :
    ((p.join q).expression 0).waysIn text = .seq ((p.expression 0).waysIn text)
      (.seq (letter text '/') ((q.expression p.arity).waysIn text)) := by
  have hrest : ((Pattern.seq (.literal '/') q).expression p.arity).waysIn text =
      .seq (letter text '/') ((q.expression p.arity).waysIn text) := by
    rw [← waysIn_ofChar]
    exact Regex.waysIn_append text _ _
  rw [join, h.waysIn_andThen, Nat.zero_add, hrest]

theorem IsSequence.variableNames_join (h : p.IsSequence) (q : Pattern) :
    (p.join q).variableNames = p.variableNames ++ q.variableNames := by
  rw [variableNames, join, (h.juxtaposes _).declarations, List.map_append]
  rfl

theorem IsSequence.constraints_join (h : p.IsSequence) (q : Pattern) :
    (p.join q).constraints = p.constraints ++ q.constraints := by
  rw [constraints, join, (h.juxtaposes _).declarations, List.filterMap_append]
  rfl

section

variable {text : List Char} {c : Char} {i : Nat}

theorem first?_seq_letter (h : text[i]? = some c) (T : Ways) (j : Nat) :
    (Ways.seq (letter text c) T).first? i j = T.first? (i + 1) j := by
  have hseq : Ways.seq (letter text c) T i = T (i + 1) := by
    rw [Ways.seq, letter, if_pos h]
    simp
  rw [Ways.first?, hseq, Ways.first?]

theorem seq_letter_of_ne (h : text[i]? ≠ some c) (T : Ways) :
    Ways.seq (letter text c) T i = [] := by
  rw [Ways.seq, letter, if_neg h]
  rfl

end

theorem stopsAt_nil (p : Pattern) (n : Nat) : (p.expression n).All (Atom.StopsAt []) := by
  have hstops := Regex.hereditary_stopsAt []
  have hdirectories : (Regex.repetition 0 none true directory).All (Atom.StopsAt []) :=
    ⟨nofun, nofun⟩
  exact hstops.alternation (forall_expressions hstops (fun _ _ => nofun) nofun
    (fun _ => hdirectories) (fun _ => nofun) (fun _ => nofun) (fun _ hr => hr)
    (List.Subset.refl p.leaves) n)

section

variable {s : List Char}

/-- Before a slash, a pattern that stays within a segment has the ways that it has by itself. -/
theorem IsWithinSegment.moves (h : p.IsWithinSegment) (s t : List Char) :
    Ways.Moves id 0 s.length ((p.expression 0).waysIn s)
      ((p.expression 0).waysIn (s ++ '/' :: t)) := by
  have hmoves := Regex.moves_waysIn (isBrisk_expression p 0) (h.stopsAt 0 t) id [] s
  rwa [Regex.waysIn_regroup_id] at hmoves

theorem IsWithinSegment.stop_le (h : p.IsWithinSegment) {t : List Char} {e : Nat × List Mark}
    (he : e ∈ (p.expression 0).waysIn (s ++ '/' :: t) 0) : e.1 ≤ s.length := by
  have hmoved := h.moves s t 0 (Nat.zero_le _)
  rw [Nat.zero_add] at hmoved
  rw [hmoved] at he
  obtain ⟨f, hf, rfl⟩ := List.mem_map.1 he
  rw [Nat.zero_add]
  exact (Regex.forward_ways (Atom.forward_ways s) _ 0 (Nat.zero_le _) f hf).2

theorem IsWithinSegment.first?_eq (h : p.IsWithinSegment) (s t : List Char) :
    Ways.first? ((p.expression 0).waysIn (s ++ '/' :: t)) 0 s.length = p.preferred s := by
  have hmoved := (h.moves s t).first?_eq (Nat.zero_le _) s.length
  rwa [Mark.move_id, List.map_id_fun, Option.map_id_fun, Nat.zero_add, Nat.zero_add] at hmoved

/-- After a slash, a pattern has the ways that it has by itself, with other groups. -/
theorem first?_of_regroup (hq : (q.expression n).regroup id = (q.expression 0).regroup (· + n))
    (s t : List Char) :
    Ways.first? ((q.expression n).waysIn (s ++ '/' :: t)) (s.length + 1) (s ++ '/' :: t).length =
      (q.preferred t).map (List.map (Mark.move (· + n) (s.length + 1))) := by
  have hmoves := Regex.moves_waysIn (isBrisk_expression q 0) (stopsAt_nil q 0) (· + n)
    (s ++ ['/']) t
  have htext : s ++ ['/'] ++ t ++ [] = s ++ '/' :: t := by simp
  have hstart : (s ++ ['/']).length = s.length + 1 := by simp
  have hstop : (s ++ '/' :: t).length = s.length + 1 + t.length := by
    rw [List.length_append, List.length_cons]
    omega
  rw [← hq, Regex.waysIn_regroup_id, htext, hstart] at hmoves
  rw [hstop]
  exact hmoves.first?_eq (Nat.zero_le _) t.length

/-- A slash follows nowhere but after the text before the first one. -/
theorem seq_slash_eq_nil (hs : '/' ∉ s) {i : Nat} (hi : i < s.length) (t : List Char) (T : Ways) :
    Ways.seq (letter (s ++ '/' :: t) '/') T i = [] := by
  refine seq_letter_of_ne (fun h => hs ?_) T
  rw [List.getElem?_append_left hi] at h
  exact List.mem_of_getElem? h

/-- The marks over a text, a slash and another text: those over the second, which are of groups
after the first `k` ones, and then those over the first. -/
def joinMarks (k : Nat) (s : List Char) (ms ms' : List Mark) : List Mark :=
  ms'.map (Mark.move (· + k) (s.length + 1)) ++ ms

variable (hs : '/' ∉ s) (hp : p.IsSequence)
include hs hp

theorem preferred_join_eq_none (q : Pattern) : (p.join q).preferred s = none := by
  have hnil : ((p.join q).expression 0).waysIn s 0 = [] := by
    rw [hp.waysIn_join]
    refine List.flatMap_eq_nil_iff.2 fun e _ => ?_
    rw [seq_letter_of_ne fun h => hs (List.mem_of_getElem? h)]
    rfl
  rw [preferred, Ways.whole?, hnil]
  rfl

/-- What a joined pattern prefers is what the first pattern prefers before the first slash and the
second after it. -/
theorem preferred_join (hwithin : p.IsWithinSegment)
    (hq : (q.expression p.arity).regroup id = (q.expression 0).regroup (· + p.arity))
    (t : List Char) : (p.join q).preferred (s ++ '/' :: t) = (p.preferred s).bind fun ms =>
      (q.preferred t).map (joinMarks p.arity s ms) := by
  have honly : ∀ e ∈ (p.expression 0).waysIn (s ++ '/' :: t) 0, e.1 ≠ s.length →
      Ways.seq (letter (s ++ '/' :: t) '/') ((q.expression p.arity).waysIn (s ++ '/' :: t)) e.1 =
        [] :=
    fun e he hne => seq_slash_eq_nil hs (Nat.lt_of_le_of_ne (hwithin.stop_le he) hne) t _
  have hslash : (s ++ '/' :: t)[s.length]? = some '/' := by simp
  calc (p.join q).preferred (s ++ '/' :: t)
      = Ways.first? (.seq ((p.expression 0).waysIn (s ++ '/' :: t)) (.seq (letter _ '/')
          ((q.expression p.arity).waysIn (s ++ '/' :: t)))) 0 (s ++ '/' :: t).length := by
        rw [← hp.waysIn_join]
        rfl
    _ = (p.preferred s).bind fun ms =>
          ((q.preferred t).map (List.map (Mark.move (· + p.arity) (s.length + 1)))).map
            fun ms' => ms' ++ ms := by
        rw [Ways.first?_seq honly, first?_seq_letter hslash, hwithin.first?_eq,
          first?_of_regroup hq]
    _ = _ := by
        simp only [Option.map_map]
        rfl

end

/-! ## Values -/

/-- What the `n`-th declaration took of a text. -/
def slotValue? (text : List Char) (ms : List Mark) (n : Nat) : Option String :=
  (ms.find? fun m => m.group = n + 1).map fun m => .ofList (m.slice text)

/-- The last value of a name, given the value of every declaration. -/
def lastValue? (names : List String) (value : Nat → Option String) (name : String) :
    Option String :=
  names.zipIdx.reverse.findSome? fun (declared, n) => if declared = name then value n else none

theorem value?_eq_lastValue? (p : Pattern) (text : List Char) (ms : List Mark) :
    p.value? text ms = lastValue? p.variableNames (slotValue? text ms) := rfl

section

variable {names names' : List String} {value value' : Nat → Option String} {name : String}

theorem lastValue?_append : lastValue? (names ++ names') value name =
    (lastValue? names' (fun n => value (n + names.length)) name).or
      (lastValue? names value name) := by
  have hlater : names'.zipIdx (0 + names.length) =
      names'.zipIdx.map (Prod.map id (· + names.length)) := by
    rw [List.map_snd_add_zipIdx_eq_zipIdx, Nat.zero_add, Nat.add_zero]
  rw [lastValue?, List.zipIdx_append, hlater, List.reverse_append, List.findSome?_append,
    ← List.map_reverse, List.findSome?_map]
  rfl

theorem lastValue?_congr (h : ∀ n < names.length, value n = value' n) :
    lastValue? names value name = lastValue? names value' name := by
  have hsame : ∀ e ∈ names.zipIdx.reverse, (if e.1 = name then value e.2 else none) =
      if e.1 = name then value' e.2 else none := by
    intro e he
    rw [h e.2 (List.snd_lt_of_mem_zipIdx (List.mem_reverse.1 he))]
  have hmap := congrArg (List.findSome? id) (List.map_congr_left hsame)
  rwa [List.findSome?_map, List.findSome?_map] at hmap

end

section

variable {s : List Char} {ms ms' : List Mark} {k n : Nat}

theorem slotValue?_joinMarks_right (hms : ∀ m ∈ ms, m.group ≤ k) (n : Nat) (t : List Char) :
    slotValue? (s ++ '/' :: t) (joinMarks k s ms ms') (n + k) = slotValue? t ms' n := by
  have hnone : (ms.find? fun m => m.group = n + k + 1) = none := by
    refine List.find?_eq_none.2 fun m hm => ?_
    have hle := hms m hm
    rw [decide_eq_true_eq]
    omega
  have hgroup : (fun m : Mark => decide (m.group = n + k + 1)) ∘
      Mark.move (· + k) (s.length + 1) = fun m => decide (m.group = n + 1) := by
    funext m
    rw [Function.comp_apply, Mark.move, decide_eq_decide]
    show m.group + k = n + k + 1 ↔ _
    omega
  have hslice (m : Mark) :
      (m.move (· + k) (s.length + 1)).slice (s ++ '/' :: t) = m.slice t := by
    simpa using m.slice_move (· + k) (s ++ ['/']) t
  rw [slotValue?, joinMarks, List.find?_append, hnone, Option.or_none, List.find?_map, hgroup,
    Option.map_map]
  exact congrArg (Option.map · _) (funext fun m => congrArg String.ofList (hslice m))

theorem slotValue?_joinMarks_left (hms : ∀ m ∈ ms, m.stop ≤ s.length)
    (hms' : ∀ m ∈ ms', 1 ≤ m.group) (hn : n < k) (t : List Char) :
    slotValue? (s ++ '/' :: t) (joinMarks k s ms ms') n = slotValue? s ms n := by
  have hnone : ((ms'.map (Mark.move (· + k) (s.length + 1))).find? fun m => m.group = n + 1) =
      none := by
    refine List.find?_eq_none.2 fun m hm => ?_
    obtain ⟨m', hm', rfl⟩ := List.mem_map.1 hm
    have hle := hms' m' hm'
    rw [decide_eq_true_eq]
    show ¬ m'.group + k = n + 1
    omega
  rw [slotValue?, joinMarks, List.find?_append, hnone, Option.none_or]
  refine Option.map_congr fun m hm => ?_
  rw [Mark.slice_append (hms m (List.mem_of_find?_eq_some hm))]

end

/-- Values of the second pattern take precedence over those of the first. -/
theorem IsSequence.value?_join (h : p.IsSequence) (q : Pattern) {s : List Char}
    {ms ms' : List Mark} (hms : ∀ m ∈ ms, m.group ≤ p.arity ∧ m.stop ≤ s.length)
    (hms' : ∀ m ∈ ms', 1 ≤ m.group) (t : List Char) (name : String) :
    (p.join q).value? (s ++ '/' :: t) (joinMarks p.arity s ms ms') name =
      (q.value? t ms' name).or (p.value? s ms name) := by
  have hlength : p.variableNames.length = p.arity := by
    rw [variableNames, List.length_map, length_declarations]
  rw [value?_eq_lastValue?, h.variableNames_join, lastValue?_append, hlength,
    value?_eq_lastValue?, value?_eq_lastValue?]
  refine congrArg₂ Option.or (lastValue?_congr fun n _ => ?_) (lastValue?_congr fun n hn => ?_)
  · exact slotValue?_joinMarks_right (fun m hm => (hms m hm).1) n t
  · exact slotValue?_joinMarks_left (fun m hm => (hms m hm).2) hms' (hlength ▸ hn) t

end Pattern

/-! ## Matchers -/

namespace Matcher.Stages

section

variable {text : String} {options : Options} {m : Matcher} {p : Pattern}
  (h : m.Stages text options p) (hcase : options.caseInsensitive = false)
  (hc : p.constraints = [])
include h hcase hc

/-- The marks that a matcher of a pattern without constraints leaves are of groups of the pattern,
and stay within the path. -/
theorem bounds_of_preferred {path : List Char} {ms : List Mark}
    (hms : p.preferred path = some ms) :
    ∀ mark ∈ ms, 1 ≤ mark.group ∧ mark.group ≤ p.arity ∧ mark.stop ≤ path.length := by
  have hfind : m.regex.regex.find? path = some ⟨0, path.length, ms⟩ := by
    rw [h.find?_eq hcase hc, hms]
    rfl
  have hfits := Pattern.fits_of_constraints_eq_nil hc
  intro mark hmark
  have hgroup := h.group_of_mem_marks hfits hfind mark hmark
  rw [Pattern.groups_eq_arity hc] at hgroup
  have hstop := Regex.stop_le_of_mem_marks (fun _ _ _ => Atom.le_of_leads)
    (Regex.passageIn_of_find? hfind).1 mark hmark
  exact ⟨hgroup.1, hgroup.2, hstop⟩

end

end Matcher.Stages

section

variable {first second : String} {options : Options} {m m' n : Matcher} {p q : Pattern}

/-- A pattern that stays within a segment, a slash and another pattern match around the first slash
of a path. Each matches as it does by itself, and values of the second take precedence. -/
theorem run_slash_splits_at_first (hm : (Matcher.compile first options).outcome = .ok m)
    (hm' : (Matcher.compile second options).outcome = .ok m')
    (hn : (Matcher.compile (first ++ "/" ++ second) options).outcome = .ok n)
    (hcase : options.caseInsensitive = false)
    (hp : Pattern.Spells first p) (hq : Pattern.Spells second q)
    (hpc : p.constraints = []) (hqc : q.constraints = [])
    (hpseq : p.IsSequence) (hqseq : q.IsSequence) (hwithin : p.IsWithinSegment) :
    (∀ path : String, '/' ∉ path.toList → n.run path = .noMatch) ∧
      ∀ s t : String, '/' ∉ s.toList →
        (n.run (s ++ "/" ++ t)).isMatch = ((m.run s).isMatch && (m'.run t).isMatch) ∧
          ∀ ps qs, m.run s = .matched ps → m'.run t = .matched qs →
            ∃ rs, n.run (s ++ "/" ++ t) = .matched rs ∧
              ∀ name, rs.get? name = (qs.get? name).or (ps.get? name) := by
  have h := Matcher.stages_of_spells hm hp
  have h' := Matcher.stages_of_spells hm' hq
  have hr := Matcher.stages_of_spells hn (hp.join hq hpseq hqseq hwithin.2.1)
  have hc : (p.join q).constraints = [] := by rw [hpseq.constraints_join, hpc, hqc, List.nil_append]
  have hregroup := Pattern.regroup_expression hq hqc
    (h'.nodup_captures (Pattern.fits_of_constraints_eq_nil hqc)) p.arity
  refine ⟨fun path hpath => ?_, fun s t hs => ?_⟩
  · cases hresult : n.run path with
    | noMatch => rfl
    | matched rs =>
      obtain ⟨ms, hms, -⟩ := hr.exists_preferred_of_run hcase hc hresult
      rw [Pattern.preferred_join_eq_none hpath hpseq] at hms
      cases hms
  · have hpath : (s ++ "/" ++ t).toList = s.toList ++ '/' :: t.toList := by
      rw [String.toList_append, String.toList_append, List.append_assoc]
      rfl
    have hpreferred := Pattern.preferred_join hs hpseq hwithin hregroup t.toList
    rw [← hpath] at hpreferred
    constructor
    · rw [hr.isMatch_run_eq_isSome hcase hc, h.isMatch_run_eq_isSome hcase hpc,
        h'.isMatch_run_eq_isSome hcase hqc, hpreferred]
      cases p.preferred s.toList <;> cases q.preferred t.toList <;> rfl
    · intro ps qs hps hqs
      obtain ⟨ms, hms, hvalue⟩ := h.exists_preferred_of_run hcase hpc hps
      obtain ⟨ms', hms', hvalue'⟩ := h'.exists_preferred_of_run hcase hqc hqs
      rw [hms, hms'] at hpreferred
      obtain ⟨rs, hrs, hvalues⟩ := hr.exists_run_of_preferred hcase hc hpreferred
      have hmarks := h.bounds_of_preferred hcase hpc hms
      have hmarks' := h'.bounds_of_preferred hcase hqc hms'
      refine ⟨rs, hrs, fun name => ?_⟩
      rw [hvalues, hvalue, hvalue', hpath]
      exact hpseq.value?_join q (fun mark hmark => (hmarks mark hmark).2)
        (fun mark hmark => (hmarks' mark hmark).1) t.toList name

/-- The first pattern has groups, an optional part and a choice. The second has a name in common
with it and takes further slashes. -/
theorem run_slash_splits_at_first_releases : ∃ m m' n p q,
    (Matcher.compile "{a}-({b}|*)?").outcome = .ok m ∧
      (Matcher.compile "**/{a}").outcome = .ok m' ∧
      (Matcher.compile ("{a}-({b}|*)?" ++ "/" ++ "**/{a}")).outcome = .ok n ∧
      Pattern.Spells "{a}-({b}|*)?" p ∧ Pattern.Spells "**/{a}" q ∧
      p.constraints = [] ∧ q.constraints = [] ∧ p.IsSequence ∧ q.IsSequence ∧
      p.IsWithinSegment ∧
      (∀ path : String, '/' ∉ path.toList → n.run path = .noMatch) ∧
      ∀ s t : String, '/' ∉ s.toList →
        (n.run (s ++ "/" ++ t)).isMatch = ((m.run s).isMatch && (m'.run t).isMatch) ∧
          ∀ ps qs, m.run s = .matched ps → m'.run t = .matched qs →
            ∃ rs, n.run (s ++ "/" ++ t) = .matched rs ∧
              ∀ name, rs.get? name = (qs.get? name).or (ps.get? name) := by
  obtain ⟨m, hm, -⟩ := Matcher.exists_of_compiles
    (show Matcher.compiles "{a}-({b}|*)?" (fun _ => true) = true by decide +kernel)
  obtain ⟨m', hm', -⟩ := Matcher.exists_of_compiles
    (show Matcher.compiles "**/{a}" (fun _ => true) = true by decide +kernel)
  obtain ⟨n, hn, -⟩ := Matcher.exists_of_compiles
    (show Matcher.compiles ("{a}-({b}|*)?" ++ "/" ++ "**/{a}") (fun _ => true) = true by
      decide +kernel)
  obtain ⟨p, hp, hpc, hpseq, hwithin⟩ : ∃ p, (Pattern.parse "{a}-({b}|*)?").outcome = .ok p ∧
      p.constraints = [] ∧ p.IsSequence ∧ p.IsWithinSegment :=
    ⟨.seq (.var ⟨"a", none⟩) (.seq (.literal '-') (.seq (.optional (.group
      (.alt (.seq (.var ⟨"b", none⟩) .empty) (.seq .segment .empty)))) .empty)),
      rfl, rfl, .seq _ (.seq _ (.seq _ .empty)), by decide⟩
  obtain ⟨q, hq, hqc, hqseq⟩ : ∃ q, (Pattern.parse "**/{a}").outcome = .ok q ∧
      q.constraints = [] ∧ q.IsSequence :=
    ⟨.seq .directories (.seq (.var ⟨"a", none⟩) .empty), rfl, rfl, .seq _ (.seq _ .empty)⟩
  have hpspells := Pattern.spells_of_parse hp
  have hqspells := Pattern.spells_of_parse hq
  exact ⟨m, m', n, p, q, hm, hm', hn, hpspells, hqspells, hpc, hqc, hpseq, hqseq, hwithin,
    run_slash_splits_at_first hm hm' hn rfl hpspells hqspells hpc hqc hpseq hqseq hwithin⟩

end

end PathGlob

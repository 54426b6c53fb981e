-- SUMMARY: The ways an expression can take from a place of a text, in order of preference.
import Mathlib.Data.List.Basic
import PathGlob.Proofs.Regex.Passage

/-!
# Ways

Where a passage says which ways there are, `Ways` lists them from every place, preferred ones first:
an earlier part decides before a later one, the first of two alternatives comes before the second,
and a greedy repetition goes on for as long as it can.
-/

namespace PathGlob

/-- The places that something leads to from each place, with the marks left on the way, last one
first. Ways that are preferred come first. -/
abbrev Ways := Nat → List (Nat × List Mark)

namespace Ways

variable {T U V : Ways} {length n : Nat}

def stay : Ways := fun i => [(i, [])]

def mark (group : Nat) (T : Ways) : Ways := fun i =>
  (T i).map fun e => (e.1, ⟨group, i, e.1⟩ :: e.2)

/-- One after the other. The first decides before the second. -/
def seq (T U : Ways) : Ways := fun i =>
  (T i).flatMap fun e => (U e.1).map fun e' => (e'.1, e'.2 ++ e.2)

def either (T U : Ways) : Ways := fun i => T i ++ U i

/-- The first of two if `greedy`, or else the second. -/
def prefer (greedy : Bool) (T U : Ways) : Ways := if greedy then either T U else either U T

def times (T : Ways) : Nat → Ways
  | 0 => stay
  | n + 1 => seq T (times T n)

def upTo (greedy : Bool) (T : Ways) : Nat → Ways
  | 0 => stay
  | n + 1 => prefer greedy (seq T (upTo greedy T n)) stay

/-- From `min` to `max` times. In a text of some length, what takes characters can be taken no more
often than that. -/
def repeated (length min : Nat) (max : Option Nat) (greedy : Bool) (T : Ways) : Ways :=
  seq (times T min) (upTo greedy T ((max.map (· - min)).getD length))

/-- The marks of the first way over the whole of a text of some length. -/
def whole? (length : Nat) (T : Ways) : Option (List Mark) :=
  ((T 0).find? fun e => e.1 = length).map Prod.snd

/-- Whether all ways lead on, within a text of some length. -/
def Forward (length : Nat) (T : Ways) : Prop :=
  ∀ i, i ≤ length → ∀ e ∈ T i, i ≤ e.1 ∧ e.1 ≤ length

/-- Whether all ways take a character. -/
def Consuming (length : Nat) (T : Ways) : Prop := ∀ i, i ≤ length → ∀ e ∈ T i, i < e.1

/-! ## Laws -/

@[simp] theorem stay_seq : seq stay T = T := by
  funext i
  simp [seq, stay]

@[simp] theorem seq_stay : seq T stay = T := by
  funext i
  simp [seq, stay]

theorem seq_assoc : seq (seq T U) V = seq T (seq U V) := by
  funext i
  simp [seq, List.flatMap_assoc, List.map_flatMap, List.flatMap_map, List.map_map,
    Function.comp_def]

theorem times_succ' : times T (n + 1) = seq (times T n) T := by
  induction n with
  | zero => simp [times]
  | succ n ih =>
    calc times T (n + 2) = seq T (seq (times T n) T) := congrArg (seq T) ih
      _ = seq (times T (n + 1)) T := seq_assoc.symm

/-! ## Repetition -/

theorem mem_seq {i : Nat} {e : Nat × List Mark} :
    e ∈ seq T U i ↔ ∃ f ∈ T i, ∃ g ∈ U f.1, e = (g.1, g.2 ++ f.2) := by
  simp [seq, eq_comm]

theorem seq_congr {U' : Ways} {i : Nat} (h : ∀ e ∈ T i, U e.1 = U' e.1) :
    seq T U i = seq T U' i := List.flatMap_congr fun e he => by rw [h e he]

theorem eq_nil_of_consuming (hT : T.Forward length) (hc : T.Consuming length) : T length = [] := by
  refine List.eq_nil_iff_forall_not_mem.2 fun e he => ?_
  have := hT length (Nat.le_refl length) e he
  have := hc length (Nat.le_refl length) e he
  omega

theorem upTo_of_eq_nil {i : Nat} (h : T i = []) (greedy : Bool) (n : Nat) :
    upTo greedy T n i = [(i, [])] := by
  cases n with
  | zero => rfl
  | succ n => cases greedy <;> simp [upTo, prefer, either, seq, h, stay]

/-- Once there is room for as many iterations as characters, more makes no difference. -/
theorem upTo_eq_of_le (hT : T.Forward length) (hc : T.Consuming length) (greedy : Bool) {m i : Nat}
    (hi : i ≤ length) (hn : length - i ≤ n) (hm : length - i ≤ m) :
    upTo greedy T n i = upTo greedy T m i := by
  -- Each iteration leaves fewer characters, so both counts can go down together.
  induction n generalizing m i with
  | zero =>
    obtain rfl : i = length := by omega
    have hnil := eq_nil_of_consuming hT hc
    rw [upTo_of_eq_nil hnil, upTo_of_eq_nil hnil]
  | succ n ih =>
    cases m with
    | zero =>
      obtain rfl : i = length := by omega
      have hnil := eq_nil_of_consuming hT hc
      rw [upTo_of_eq_nil hnil, upTo_of_eq_nil hnil]
    | succ m =>
      have hseq : seq T (upTo greedy T n) i = seq T (upTo greedy T m) i := by
        refine seq_congr fun e he => ?_
        have := hT i hi e he
        have := hc i hi e he
        exact ih (by omega) (by omega) (by omega)
      cases greedy <;> simp [upTo, prefer, either, hseq]

/-! ## Direction -/

theorem Forward.stay : Forward length stay := by
  intro i hi e he
  rw [List.mem_singleton.1 he]
  exact ⟨Nat.le_refl i, hi⟩

theorem Forward.mark (h : T.Forward length) (group : Nat) : Forward length (mark group T) := by
  intro i hi e he
  obtain ⟨f, hf, rfl⟩ := List.mem_map.1 he
  exact h i hi f hf

theorem Forward.seq (hT : T.Forward length) (hU : U.Forward length) :
    Forward length (seq T U) := by
  intro i hi e he
  obtain ⟨f, hf, g, hg, rfl⟩ := mem_seq.1 he
  have hfirst := hT i hi f hf
  have hsecond := hU f.1 hfirst.2 g hg
  exact ⟨Nat.le_trans hfirst.1 hsecond.1, hsecond.2⟩

theorem Forward.either (hT : T.Forward length) (hU : U.Forward length) :
    Forward length (either T U) := by
  intro i hi e he
  rcases List.mem_append.1 he with he | he
  · exact hT i hi e he
  · exact hU i hi e he

theorem Forward.prefer (hT : T.Forward length) (hU : U.Forward length) (greedy : Bool) :
    Forward length (prefer greedy T U) := by
  cases greedy with
  | true => exact hT.either hU
  | false => exact hU.either hT

theorem Forward.times (h : T.Forward length) (n : Nat) : Forward length (times T n) := by
  induction n with
  | zero => exact .stay
  | succ n ih => exact h.seq ih

theorem Forward.upTo (h : T.Forward length) (greedy : Bool) (n : Nat) :
    Forward length (upTo greedy T n) := by
  induction n with
  | zero => exact .stay
  | succ n ih => exact (h.seq ih).prefer .stay greedy

theorem Forward.repeated (h : T.Forward length) (min : Nat) (max : Option Nat) (greedy : Bool) :
    Forward length (repeated length min max greedy T) := (h.times _).seq (h.upTo greedy _)

/-! ## Characters -/

theorem Consuming.mark (h : T.Consuming length) (group : Nat) :
    Consuming length (mark group T) := by
  intro i hi e he
  obtain ⟨f, hf, rfl⟩ := List.mem_map.1 he
  exact h i hi f hf

theorem Consuming.seq_left (hT : T.Forward length) (hc : T.Consuming length)
    (hU : U.Forward length) : Consuming length (seq T U) := by
  intro i hi e he
  obtain ⟨f, hf, g, hg, rfl⟩ := mem_seq.1 he
  have hle := (hT i hi f hf).2
  exact Nat.lt_of_lt_of_le (hc i hi f hf) (hU f.1 hle g hg).1

theorem Consuming.seq_right (hT : T.Forward length) (hU : U.Consuming length) :
    Consuming length (seq T U) := by
  intro i hi e he
  obtain ⟨f, hf, g, hg, rfl⟩ := mem_seq.1 he
  have hfirst := hT i hi f hf
  exact Nat.lt_of_le_of_lt hfirst.1 (hU f.1 hfirst.2 g hg)

theorem Consuming.either (hT : T.Consuming length) (hU : U.Consuming length) :
    Consuming length (either T U) := by
  intro i hi e he
  rcases List.mem_append.1 he with he | he
  · exact hT i hi e he
  · exact hU i hi e he

theorem Consuming.repeated (hT : T.Forward length) (hc : T.Consuming length) {min : Nat}
    (hmin : min ≠ 0) (max : Option Nat) (greedy : Bool) :
    Consuming length (repeated length min max greedy T) := by
  obtain ⟨n, rfl⟩ := Nat.exists_eq_succ_of_ne_zero hmin
  rw [Ways.repeated, times, seq_assoc]
  exact .seq_left hT hc ((hT.times n).seq (hT.upTo greedy _))

/-! ## Passages -/

/-- Whether the ways from each place of a text are those of a passage. -/
def Covers (length : Nat) (T : Ways) (P : Passage) : Prop :=
  ∀ i, i ≤ length → ∀ e, e ∈ T i ↔ P i e.1 e.2

variable {P Q : Passage}

theorem Covers.stay : Covers length stay .stay := by
  rintro i - ⟨j, ms⟩
  exact List.mem_singleton.trans (iff_of_eq (Prod.mk.injEq ..))

theorem Covers.mark (h : T.Covers length P) (group : Nat) :
    Covers length (mark group T) (.mark group P) := by
  intro i hi e
  constructor
  · intro he
    obtain ⟨f, hf, rfl⟩ := List.mem_map.1 he
    exact ⟨f.2, (h i hi f).1 hf, rfl⟩
  · rintro ⟨inner, hinner, hms⟩
    exact List.mem_map.2 ⟨(e.1, inner), (h i hi _).2 hinner, Prod.ext rfl hms.symm⟩

theorem Covers.seq (hforward : T.Forward length) (hT : T.Covers length P)
    (hU : U.Covers length Q) : Covers length (seq T U) (.seq P Q) := by
  intro i hi e
  rw [mem_seq]
  constructor
  · rintro ⟨f, hf, g, hg, rfl⟩
    have hle := (hforward i hi f hf).2
    exact ⟨f.1, f.2, g.2, (hT i hi f).1 hf, (hU f.1 hle g).1 hg, rfl⟩
  · rintro ⟨j, first, second, hfirst, hsecond, hms⟩
    have hf := (hT i hi (j, first)).2 hfirst
    have hle := (hforward i hi _ hf).2
    exact ⟨_, hf, _, (hU j hle (e.1, second)).2 hsecond, Prod.ext rfl hms⟩

theorem Covers.either (hT : T.Covers length P) (hU : U.Covers length Q) :
    Covers length (either T U) (.either P Q) := by
  intro i hi e
  exact List.mem_append.trans (or_congr (hT i hi e) (hU i hi e))

theorem Covers.times (hforward : T.Forward length) (h : T.Covers length P) (n : Nat) :
    Covers length (times T n) (.times P n) := by
  induction n with
  | zero => exact .stay
  | succ n ih => exact .seq hforward h ih

theorem Covers.upTo (hforward : T.Forward length) (h : T.Covers length P) (greedy : Bool)
    (n : Nat) : Covers length (upTo greedy T n) (.repeated 0 (some n) P) := by
  induction n with
  | zero =>
    rw [Passage.repeated_zero_zero]
    exact .stay
  | succ n ih =>
    have hmore := Covers.seq hforward h ih
    rw [Passage.repeated_zero_succ]
    cases greedy with
    | true => exact hmore.either .stay
    | false =>
      rw [Passage.either_comm]
      exact Covers.stay.either hmore

/-- In a text, what takes characters can be taken as often as there are some. -/
theorem Covers.length_le (hforward : T.Forward length) (hc : T.Consuming length)
    (h : T.Covers length P) {i j n : Nat} {ms : List Mark} (hi : i ≤ length)
    (hn : P.times n i j ms) : n ≤ length - i := by
  induction n generalizing i ms with
  | zero => exact Nat.zero_le _
  | succ n ih =>
    obtain ⟨k, first, second, hfirst, hsecond, rfl⟩ := hn
    have hf := (h i hi (k, first)).2 hfirst
    have hle : i < k := hc i hi _ hf
    have hk : k ≤ length := (hforward i hi _ hf).2
    have := ih hk hsecond
    omega

theorem Covers.repeated (hforward : T.Forward length) (h : T.Covers length P) (min : Nat)
    {max : Option Nat} (greedy : Bool) (hc : max = none → T.Consuming length) :
    Covers length (repeated length min max greedy T) (.repeated min max P) := by
  have hadd : Passage.repeated min max P =
      .seq (.times P min) (.repeated 0 (max.map (· - min)) P) :=
    Passage.repeated_add (n := 0) min max
  rw [hadd]
  refine .seq (hforward.times min) (.times hforward h min) ?_
  cases max with
  | some m => exact .upTo hforward h greedy (m - min)
  -- The bound by the length of the text leaves no way out.
  | none =>
    intro i hi e
    rw [Option.map_none, Option.getD_none, Covers.upTo hforward h greedy length i hi e]
    constructor
    · rintro ⟨n, hmin, -, hn⟩
      exact ⟨n, hmin, nofun, hn⟩
    · rintro ⟨n, hmin, -, hn⟩
      have := Covers.length_le hforward (hc rfl) h hi hn
      refine ⟨n, hmin, fun m hm => ?_, hn⟩
      cases hm
      omega

end Ways

/-! ## Expressions -/

namespace Regex

variable {α β : Type}

/-- The ways of an expression in a text of some length, given the ways of its atoms. -/
def ways (length : Nat) (step : α → Ways) : Regex α → Ways
  | .empty => .stay
  | .atom a => step a
  | .capture index _ r => .mark index (r.ways length step)
  | .cat r s => .seq (r.ways length step) (s.ways length step)
  | .alt r s => .either (r.ways length step) (s.ways length step)
  | .repetition min max greedy r => .repeated length min max greedy (r.ways length step)

theorem isNullable_map (f : α → β) (isStill : β → Bool) (r : Regex α) :
    (r.map f).isNullable isStill = r.isNullable fun a => isStill (f a) := by
  induction r with
  | empty | atom a => rfl
  | capture index name r ih => simp only [map, isNullable, ih]
  | cat r s ihr ihs | alt r s ihr ihs => simp only [map, isNullable, ihr, ihs]
  | repetition min max greedy r ih => simp only [map, isNullable, ih]

theorem forward_ways {length : Nat} {step : α → Ways} (h : ∀ a, (step a).Forward length)
    (r : Regex α) : (r.ways length step).Forward length := by
  induction r with
  | empty => exact .stay
  | atom a => exact h a
  | capture index name r ih => exact ih.mark index
  | cat r s ihr ihs => exact ihr.seq ihs
  | alt r s ihr ihs => exact ihr.either ihs
  | repetition min max greedy r ih => exact ih.repeated min max greedy

/-- What is not nullable takes a character. -/
theorem consuming_ways {length : Nat} {step : α → Ways} {isStill : α → Bool}
    (h : ∀ a, (step a).Forward length)
    (hstep : ∀ a, isStill a = false → (step a).Consuming length) {r : Regex α}
    (hr : r.isNullable isStill = false) : (r.ways length step).Consuming length := by
  induction r with
  | empty => cases hr
  | atom a => exact hstep a hr
  | capture index name r ih => exact (ih hr).mark index
  | cat r s ihr ihs =>
    rw [isNullable, Bool.and_eq_false_iff] at hr
    rcases hr with hr | hs
    · exact .seq_left (forward_ways h r) (ihr hr) (forward_ways h s)
    · exact .seq_right (forward_ways h r) (ihs hs)
  | alt r s ihr ihs =>
    rw [isNullable, Bool.or_eq_false_iff] at hr
    exact (ihr hr.1).either (ihs hr.2)
  | repetition min max greedy r ih =>
    rw [isNullable, Bool.or_eq_false_iff, decide_eq_false_iff_not] at hr
    exact .repeated (forward_ways h r) (ih hr.2) hr.1 max greedy

/-- Whether nothing that can be taken without a character is repeated without bound. -/
def isBrisk (isStill : α → Bool) : Regex α → Bool
  | .empty | .atom _ => true
  | .capture _ _ r => r.isBrisk isStill
  | .cat r s | .alt r s => r.isBrisk isStill && s.isBrisk isStill
  | .repetition _ max _ r => r.isBrisk isStill && (max.isSome || !r.isNullable isStill)

/-- The ways of an expression are its passages. -/
theorem covers_ways {length : Nat} {step : α → Ways} {leads : α → Nat → Nat → Prop}
    {isStill : α → Bool} (hforward : ∀ a, (step a).Forward length)
    (hconsuming : ∀ a, isStill a = false → (step a).Consuming length)
    (hstep : ∀ a, (step a).Covers length fun i j ms => leads a i j ∧ ms = []) {r : Regex α}
    (hr : r.isBrisk isStill = true) : (r.ways length step).Covers length (r.passage leads) := by
  induction r with
  | empty => exact .stay
  | atom a => exact hstep a
  | capture index name r ih => exact (ih hr).mark index
  | cat r s ihr ihs =>
    rw [isBrisk, Bool.and_eq_true] at hr
    exact .seq (forward_ways hforward r) (ihr hr.1) (ihs hr.2)
  | alt r s ihr ihs =>
    rw [isBrisk, Bool.and_eq_true] at hr
    exact (ihr hr.1).either (ihs hr.2)
  | repetition min max greedy r ih =>
    rw [isBrisk, Bool.and_eq_true] at hr
    refine .repeated (forward_ways hforward r) (ih hr.1) min greedy fun hmax => ?_
    refine consuming_ways hforward hconsuming ?_
    simpa [hmax] using hr.2

end Regex

/-- The way of an atom in a text. -/
def Atom.ways (text : List Char) (a : Atom) : Ways := fun i =>
  match a with
  | .char s _ => if text[i]?.any s.contains then [(i + 1, [])] else []
  | .look l =>
    if i ≤ text.length ∧ l.holds (if i = 0 then none else text[i - 1]?) text[i]? then [(i, [])]
    else []

theorem Atom.forward_ways (text : List Char) (a : Atom) : (a.ways text).Forward text.length := by
  intro i hi e he
  cases a with
  | char s ascii =>
    simp only [ways, List.mem_ite_nil_right, List.mem_singleton] at he
    obtain ⟨hany, rfl⟩ := he
    obtain ⟨c, hc, -⟩ := (Option.any_eq_true _ _).1 hany
    obtain ⟨hlt, -⟩ := List.getElem?_eq_some_iff.1 hc
    exact ⟨Nat.le_succ i, hlt⟩
  | look l =>
    simp only [ways, List.mem_ite_nil_right, List.mem_singleton] at he
    obtain ⟨-, rfl⟩ := he
    exact ⟨Nat.le_refl i, hi⟩

/-- The way of a site. -/
def Site.ways : Site → Ways
  | .step places => fun i => if places.testBit i then [(i + 1, [])] else []
  | .stand places => fun i => if places.testBit i then [(i, [])] else []

theorem Atom.ways_site (text : List Char) (a : Atom) :
    (a.site text (charPlaces text)).ways = a.ways text := by
  funext i
  have hleads (j : Nat) : (a.site text (charPlaces text)).Leads i j ↔ a.Leads text i j := by
    rw [a.leads_site text]
  cases a with
  | char s ascii =>
    refine if_congr ?_ rfl rfl
    have h := hleads (i + 1)
    simp only [Site.Leads, Atom.Leads, Atom.site, and_true] at h
    rw [h, Option.any_eq_true]
    rfl
  | look l =>
    refine if_congr ?_ rfl rfl
    have h := hleads i
    simpa only [Site.Leads, Atom.Leads, Atom.site, and_true] using h

theorem Atom.consuming_ways (text : List Char) {a : Atom} (h : a.isLook = false) :
    (a.ways text).Consuming text.length := by
  cases a with
  | look l => cases h
  | char s ascii =>
    intro i _ e he
    simp only [ways, List.mem_ite_nil_right, List.mem_singleton] at he
    rw [he.2]
    exact Nat.lt_succ_self i

theorem Atom.covers_ways (text : List Char) (a : Atom) :
    (a.ways text).Covers text.length fun i j ms => a.Leads text i j ∧ ms = [] := by
  rintro i - ⟨j, ms⟩
  cases a with
  | char s ascii =>
    simp only [ways, Leads, List.mem_ite_nil_right, List.mem_singleton, Prod.mk.injEq,
      Option.any_eq_true, CharSet.mem_iff, and_assoc]
  | look l =>
    simp only [ways, Leads, List.mem_ite_nil_right, List.mem_singleton, Prod.mk.injEq, and_assoc]

namespace Regex

/-- The ways of an expression in a text. -/
abbrev waysIn (text : List Char) (r : Regex Atom) : Ways := r.ways text.length (Atom.ways text)

theorem covers_waysIn (text : List Char) {r : Regex Atom} (hr : r.isBrisk Atom.isLook = true) :
    (r.waysIn text).Covers text.length (r.passageIn text) :=
  covers_ways (Atom.forward_ways text) (fun _ => Atom.consuming_ways text)
    (Atom.covers_ways text) hr

end Regex

end PathGlob

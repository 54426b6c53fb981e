-- SUMMARY: What an expression takes from a text: the places it leads between, with the marks of its groups.
import PathGlob.Regex.Search

/-!
# Passages

The meaning of an expression in a text is a relation between two places and the marks that are
left on the way. It says which matches there are and leaves open which of them is preferred.
-/

namespace PathGlob

/-- From which place to which place something leads, with the marks it leaves, last one first. -/
abbrev Passage := Nat → Nat → List Mark → Prop

namespace Passage

variable {T U V : Passage} {i j k n : Nat} {ms : List Mark}

/-- Taking nothing. -/
def stay : Passage := fun i j ms => j = i ∧ ms = []

/-- A passage whose ends a group notes. -/
def mark (group : Nat) (T : Passage) : Passage := fun i j ms =>
  ∃ inner, T i j inner ∧ ms = ⟨group, i, j⟩ :: inner

/-- One passage after the other. -/
def seq (T U : Passage) : Passage := fun i k ms =>
  ∃ j first second, T i j first ∧ U j k second ∧ ms = second ++ first

/-- Leading nowhere. -/
def never : Passage := fun _ _ _ => False

def either (T U : Passage) : Passage := fun i j ms => T i j ms ∨ U i j ms

def times (T : Passage) : Nat → Passage
  | 0 => stay
  | n + 1 => seq T (times T n)

/-- From `min` to `max` times, without bound if `max` is absent, and always `min` times. -/
def repeated (min : Nat) (max : Option Nat) (T : Passage) : Passage := fun i j ms =>
  ∃ n, min ≤ n ∧ (∀ m, max = some m → n ≤ min ∨ n ≤ m) ∧ T.times n i j ms

/-- A passage that ends in a set of places. -/
def into (goal : Nat) (T : Passage) : Passage := fun i j ms => T i j ms ∧ goal.testBit j

/-- Whether a passage leads from a place to a set of places if it is taken often enough. -/
def Reaches (T : Passage) (goal i : Nat) : Prop :=
  ∃ j n ms, T.times n i j ms ∧ goal.testBit j = true

/-- Whether a passage never leads back. -/
def IsForward (T : Passage) : Prop := ∀ i j ms, T i j ms → i ≤ j

@[ext] theorem ext (h : ∀ i j ms, T i j ms ↔ U i j ms) : T = U := by
  funext i j ms
  exact propext (h i j ms)

/-! ## Laws -/

@[simp] theorem seq_stay : seq T stay = T := by
  ext i k ms
  constructor
  · rintro ⟨j, first, _, hT, ⟨rfl, rfl⟩, rfl⟩
    exact hT
  · intro h
    exact ⟨k, ms, [], h, ⟨rfl, rfl⟩, rfl⟩

@[simp] theorem stay_seq : seq stay T = T := by
  ext i k ms
  constructor
  · rintro ⟨_, _, second, ⟨rfl, rfl⟩, hT, rfl⟩
    simpa using hT
  · intro h
    exact ⟨i, [], ms, ⟨rfl, rfl⟩, h, by simp⟩

theorem seq_assoc : seq (seq T U) V = seq T (seq U V) := by
  ext i k ms
  constructor
  · rintro ⟨j, _, c, ⟨l, a, b, hT, hU, rfl⟩, hV, rfl⟩
    exact ⟨l, a, c ++ b, hT, ⟨j, b, c, hU, hV, rfl⟩, by simp⟩
  · rintro ⟨l, a, _, hT, ⟨j, b, c, hU, hV, rfl⟩, rfl⟩
    exact ⟨j, b ++ a, c, ⟨l, a, b, hT, hU, rfl⟩, hV, by simp⟩

theorem either_assoc : either (either T U) V = either T (either U V) := by
  ext i j ms
  exact or_assoc

theorem never_either : either never T = T := by
  ext i j ms
  exact iff_of_eq (false_or _)

theorem either_never : either T never = T := by
  ext i j ms
  exact iff_of_eq (or_false _)

theorem seq_never : seq T never = never := by
  ext i k ms
  constructor
  · rintro ⟨_, _, _, -, h, -⟩
    exact h
  · exact False.elim

theorem either_comm : either T U = either U T := by
  ext i j ms
  exact or_comm

theorem seq_either : seq T (either U V) = either (seq T U) (seq T V) := by
  ext i k ms
  constructor
  · rintro ⟨j, a, b, hT, hU | hV, rfl⟩
    · exact .inl ⟨j, a, b, hT, hU, rfl⟩
    · exact .inr ⟨j, a, b, hT, hV, rfl⟩
  · rintro (⟨j, a, b, hT, hU, rfl⟩ | ⟨j, a, b, hT, hV, rfl⟩)
    · exact ⟨j, a, b, hT, .inl hU, rfl⟩
    · exact ⟨j, a, b, hT, .inr hV, rfl⟩

@[simp] theorem times_zero : times T 0 = stay := rfl

theorem times_succ : times T (n + 1) = seq T (times T n) := rfl

@[simp] theorem times_one : times T 1 = T := seq_stay

theorem times_add (m : Nat) : times T (m + n) = seq (times T m) (times T n) := by
  induction m with
  | zero => simp
  | succ m ih => rw [Nat.succ_add, times_succ, times_succ, ih, seq_assoc]

theorem repeated_none_zero : repeated 0 none T = either stay (repeated 1 none T) := by
  ext i j ms
  constructor
  · rintro ⟨n, -, -, h⟩
    cases n with
    | zero => exact .inl h
    | succ n => exact .inr ⟨n + 1, by omega, nofun, h⟩
  · rintro (h | ⟨n, -, -, h⟩)
    · exact ⟨0, by omega, nofun, h⟩
    · exact ⟨n, by omega, nofun, h⟩

/-- The times that are due come first. -/
theorem repeated_add (m : Nat) (max : Option Nat) :
    repeated (m + n) max T = seq (times T m) (repeated n (max.map (· - m)) T) := by
  ext i k ms
  constructor
  · rintro ⟨l, hmin, hmax, h⟩
    -- Of the `l` rounds the first `m` are due; the bound is left to the `d` others.
    obtain ⟨d, rfl⟩ := Nat.exists_eq_add_of_le (show m ≤ l by omega)
    rw [times_add] at h
    obtain ⟨j, a, b, ha, hb, rfl⟩ := h
    refine ⟨j, a, b, ha, ⟨d, by omega, ?_, hb⟩, rfl⟩
    intro x hx
    obtain ⟨y, rfl, rfl⟩ := Option.map_eq_some_iff.1 hx
    have := hmax y rfl
    omega
  · rintro ⟨j, a, b, ha, ⟨d, hmin, hmax, hb⟩, rfl⟩
    refine ⟨m + d, by omega, ?_, by rw [times_add]; exact ⟨j, a, b, ha, hb, rfl⟩⟩
    rintro x rfl
    have := hmax (x - m) rfl
    omega

theorem repeated_zero_succ (m : Nat) :
    repeated 0 (some (m + 1)) T = either (seq T (repeated 0 (some m) T)) stay := by
  ext i k ms
  constructor
  · rintro ⟨n, -, hmax, h⟩
    have := hmax _ rfl
    cases n with
    | zero => exact .inr h
    | succ n =>
      obtain ⟨j, a, b, ha, hb, rfl⟩ := h
      refine .inl ⟨j, a, b, ha, ⟨n, by omega, fun l hl => ?_, hb⟩, rfl⟩
      cases hl
      omega
  · rintro (⟨j, a, b, ha, ⟨n, -, hmax, hb⟩, rfl⟩ | h)
    · have := hmax _ rfl
      refine ⟨n + 1, by omega, fun l hl => ?_, j, a, b, ha, hb, rfl⟩
      cases hl
      omega
    · exact ⟨0, by omega, by omega, h⟩

theorem repeated_zero_zero : repeated 0 (some 0) T = stay := by
  ext i j ms
  constructor
  · rintro ⟨n, -, hmax, h⟩
    obtain rfl : n = 0 := by
      have := hmax 0 rfl
      omega
    exact h
  · intro h
    exact ⟨0, by omega, by omega, h⟩

theorem repeated_zero_one : repeated 0 (some 1) T = either T stay := by
  rw [repeated_zero_succ, repeated_zero_zero, seq_stay]

/-! ## Lists of passages -/

def seqOf (Ts : List Passage) : Passage := Ts.foldr seq stay

def anyOf (Ts : List Passage) : Passage := Ts.foldr either never

theorem anyOf_cons (T : Passage) (Ts : List Passage) : anyOf (T :: Ts) = either T (anyOf Ts) := rfl

@[simp] theorem anyOf_singleton (T : Passage) : anyOf [T] = T := either_never

theorem anyOf_iff {Ts : List Passage} {i j : Nat} {ms : List Mark} :
    anyOf Ts i j ms ↔ ∃ T ∈ Ts, T i j ms := by
  induction Ts with
  | nil => simp [anyOf, never]
  | cons T Ts ih => simp [anyOf_cons, either, ih]

theorem seq_anyOf (T : Passage) (Us : List Passage) :
    seq T (anyOf Us) = anyOf (Us.map (seq T)) := by
  induction Us with
  | nil => exact seq_never
  | cons U Us ih => rw [anyOf_cons, seq_either, ih, List.map_cons, anyOf_cons]

/-! ## Direction -/

theorem IsForward.stay : IsForward stay := by
  rintro i j ms ⟨rfl, -⟩
  exact Nat.le_refl _

theorem IsForward.mark (h : IsForward T) (group : Nat) : IsForward (mark group T) := by
  rintro i j ms ⟨inner, hT, -⟩
  exact h i j inner hT

theorem IsForward.seq (hT : IsForward T) (hU : IsForward U) : IsForward (seq T U) := by
  rintro i k ms ⟨j, a, b, ha, hb, -⟩
  exact Nat.le_trans (hT i j a ha) (hU j k b hb)

theorem IsForward.either (hT : IsForward T) (hU : IsForward U) : IsForward (either T U) := by
  rintro i j ms (h | h)
  · exact hT i j ms h
  · exact hU i j ms h

theorem IsForward.times (h : IsForward T) (n : Nat) : IsForward (times T n) := by
  induction n with
  | zero => exact .stay
  | succ n ih => exact h.seq ih

theorem IsForward.repeated (h : IsForward T) (min : Nat) (max : Option Nat) :
    IsForward (repeated min max T) := by
  rintro i j ms ⟨n, -, -, hn⟩
  exact h.times n i j ms hn

theorem IsForward.seqOf {Ts : List Passage} (h : ∀ T ∈ Ts, IsForward T) :
    IsForward (seqOf Ts) := by
  induction Ts with
  | nil => exact .stay
  | cons T Ts ih => exact (h T (by simp)).seq (ih fun U hU => h U (by simp [hU]))

end Passage

/-! ## Expressions -/

namespace Regex

variable {α β : Type}

/-- The passages of an expression, given where its atoms lead. -/
def passage (step : α → Nat → Nat → Prop) : Regex α → Passage
  | .empty => .stay
  | .atom a => fun i j ms => step a i j ∧ ms = []
  | .capture index _ r => .mark index (r.passage step)
  | .cat r s => .seq (r.passage step) (s.passage step)
  | .alt r s => .either (r.passage step) (s.passage step)
  | .repetition min max _ r => .repeated min max (r.passage step)

theorem passage_map (f : α → β) (step : β → Nat → Nat → Prop) (r : Regex α) :
    (r.map f).passage step = r.passage fun a => step (f a) := by
  induction r with
  | empty | atom a => rfl
  | capture index name r ih => simp only [map, passage, ih]
  | cat r s ihr ihs | alt r s ihr ihs => simp only [map, passage, ihr, ihs]
  | repetition min max greedy r ih => simp only [map, passage, ih]

theorem isForward_passage {step : α → Nat → Nat → Prop} (h : ∀ a i j, step a i j → i ≤ j)
    (r : Regex α) : (r.passage step).IsForward := by
  induction r with
  | empty => exact .stay
  | atom a => exact fun i j _ ha => h a i j ha.1
  | capture index name r ih => exact ih.mark index
  | cat r s ihr ihs => exact ihr.seq ihs
  | alt r s ihr ihs => exact ihr.either ihs
  | repetition min max greedy r ih => exact ih.repeated min max

end Regex

/-! ## Places of a text -/

/-- Where a site leads. -/
def Site.Leads (s : Site) (i j : Nat) : Prop :=
  match s with
  | .step places => places.testBit i ∧ j = i + 1
  | .stand places => places.testBit i ∧ j = i

/-- Where an atom leads in a text. -/
def Atom.Leads (text : List Char) (a : Atom) (i j : Nat) : Prop :=
  match a with
  | .char s _ => (∃ c, text[i]? = some c ∧ c ∈ s) ∧ j = i + 1
  | .look l =>
    (i ≤ text.length ∧ l.holds (if i = 0 then none else text[i - 1]?) text[i]?) ∧ j = i

theorem Site.le_of_leads {s : Site} {i j : Nat} (h : s.Leads i j) : i ≤ j := by
  cases s with
  | step places => exact h.2 ▸ Nat.le_succ i
  | stand places => exact h.2 ▸ Nat.le_refl i

theorem Atom.le_of_leads {text : List Char} {a : Atom} {i j : Nat} (h : a.Leads text i j) :
    i ≤ j := by
  cases a with
  | char s ascii => exact h.2 ▸ Nat.le_succ i
  | look l => exact h.2 ▸ Nat.le_refl i

theorem testBit_double_add (n i : Nat) (b : Bool) :
    (2 * n + b.toNat).testBit i = if i = 0 then b else n.testBit (i - 1) := by
  cases i with
  | zero => cases b <;> simp [Nat.testBit_zero, Nat.add_mod]
  | succ i =>
    rw [Nat.testBit_succ, if_neg (by omega), Nat.add_sub_cancel]
    congr 1
    cases b <;> simp
    omega

theorem testBit_placesOf (c : Char) (text : List Char) (i : Nat) :
    (placesOf c text).testBit i = true ↔ text[i]? = some c := by
  induction text generalizing i with
  | nil => simp [placesOf]
  | cons d ds ih =>
    rw [placesOf, testBit_double_add]
    cases i with
    | zero => simp
    | succ i => simpa using ih i

theorem CharSet.testBit_places (s : CharSet) (index : List (Char × Nat)) (i : Nat) :
    (s.places index).testBit i = true ↔ ∃ e ∈ index, e.1 ∈ s ∧ e.2.testBit i = true := by
  -- The fold starts from some places, so the induction is for all of them.
  have h (places : Nat) : (index.foldl (fun places e =>
        if s.contains e.1 then places ||| e.2 else places) places).testBit i = true ↔
      places.testBit i = true ∨ ∃ e ∈ index, e.1 ∈ s ∧ e.2.testBit i = true := by
    induction index generalizing places with
    | nil => simp
    | cons e es ih =>
      rw [List.foldl_cons, ih]
      simp only [List.mem_cons, exists_eq_or_imp]
      by_cases he : s.contains e.1
      · rw [if_pos he, Nat.testBit_or, Bool.or_eq_true, or_assoc]
        simp [CharSet.mem_iff, he]
      · rw [if_neg he]
        simp [CharSet.mem_iff, he]
  rw [places, h]
  simp

theorem mem_charPlaces {text : List Char} {e : Char × Nat} :
    e ∈ charPlaces text ↔ e.1 ∈ text ∧ e.2 = placesOf e.1 text := by
  simp only [charPlaces, List.mem_map, List.mem_eraseDups]
  constructor
  · rintro ⟨c, hc, rfl⟩
    exact ⟨hc, rfl⟩
  · rintro ⟨hc, he⟩
    exact ⟨e.1, hc, Prod.ext rfl he.symm⟩

theorem Look.testBit_places (l : Look) (before : Option Char) (text : List Char) (i : Nat) :
    (l.places before text).testBit i = true ↔
      i ≤ text.length ∧ l.holds (if i = 0 then before else text[i - 1]?) text[i]? = true := by
  -- Each character is what stands before the rest of the text, so `before` varies.
  induction text generalizing before i with
  | nil =>
    rw [places]
    cases i with
    | zero => cases h : l.holds before none <;> simp [h]
    | succ i =>
      cases h : l.holds before none <;> simp [Nat.testBit_succ]
  | cons c cs ih =>
    rw [places, testBit_double_add]
    cases i with
    | zero => simp
    | succ i =>
      rw [if_neg (by omega), Nat.add_sub_cancel, ih]
      cases i with
      | zero => simp
      | succ i => simp

theorem Atom.leads_site (text : List Char) (a : Atom) :
    (a.site text (charPlaces text)).Leads = a.Leads text := by
  funext i j
  apply propext
  cases a with
  | char s ascii =>
    refine and_congr_left fun _ => ?_
    rw [CharSet.testBit_places]
    constructor
    · rintro ⟨e, he, hs, hbit⟩
      rw [(mem_charPlaces.1 he).2, testBit_placesOf] at hbit
      exact ⟨e.1, hbit, hs⟩
    · rintro ⟨c, hc, hs⟩
      refine ⟨(c, placesOf c text), mem_charPlaces.2 ⟨?_, rfl⟩, hs, (testBit_placesOf ..).2 hc⟩
      exact List.mem_of_getElem? hc
  | look l => exact and_congr_left fun _ => Look.testBit_places l none text i

/-- One character of a set. -/
def Passage.oneOf (text : List Char) (s : CharSet) : Passage := fun i j ms =>
  ((∃ c, text[i]? = some c ∧ c ∈ s) ∧ j = i + 1) ∧ ms = []

namespace Regex

/-- The passages of an expression in a text. -/
abbrev passageIn (text : List Char) (r : Regex Atom) : Passage := r.passage (Atom.Leads text)

theorem passage_sites (text : List Char) (r : Regex Atom) :
    (r.map (Atom.site text (charPlaces text))).passage Site.Leads = r.passageIn text := by
  rw [passage_map]
  simp only [Atom.leads_site]

end Regex

end PathGlob

-- SUMMARY: The groups that a text opens are numbered in its order and named apart, and only its settings change the mode.
import Mathlib.Data.List.Nodup
import PathGlob.Proofs.Regex.Constructs

/-!
# Openings

The groups that a tree opens and the settings that it makes, in the order of the text. A construct
adds its own at the end, whatever levels are open, so what holds of them is an invariant of runs.
-/

namespace PathGlob.Regex

/-- A capture that a tree opens, or settings that it makes. -/
inductive Opening where
  | capture (index : Nat) (name : Option String)
  | settings (s : Settings)

def Opening.capture? : Opening → Option (Nat × Option String)
  | .capture index name => some (index, name)
  | .settings _ => none

/-- Whether settings switch a flag on. -/
def Opening.turnsOn (f : Flag) : Opening → Bool
  | .capture _ _ => false
  | .settings s => s.contains (f, true)

namespace Ast

def openings : Ast → List Opening
  | .settings s => [.settings s]
  | .repetition _ _ _ a => a.openings
  | .capture index name a => .capture index name :: a.openings
  | .group s a => .settings s :: a.openings
  | .cat a b | .alt a b => a.openings ++ b.openings
  | _ => []

/-- The captures of a tree with their names, in the order of the text. -/
def captures (a : Ast) : List (Nat × Option String) := a.openings.filterMap Opening.capture?

/-- Whether settings somewhere in a tree switch a flag on. -/
def turnsOn (f : Flag) (a : Ast) : Bool := a.openings.any (Opening.turnsOn f)

theorem openings_of_isLeaf {a : Ast} (h : a.isLeaf = true) : a.openings = [] := by
  cases a with
  | literal _ | dot | assertion _ | shorthand _ _ | property _ _ | bracket _ _ => rfl
  | _ => cases h

theorem openings_foldl_cat (items : List Ast) (a : Ast) :
    (items.foldl (fun b item => .cat item b) a).openings =
      items.reverse.flatMap openings ++ a.openings := by
  induction items generalizing a with
  | nil => rfl
  | cons item items ih =>
    rw [List.foldl_cons, ih, List.reverse_cons, List.flatMap_append, List.append_assoc,
      List.flatMap_singleton]
    rfl

theorem openings_ofItems (items : List Ast) :
    (ofItems items).openings = items.reverse.flatMap openings := by
  cases items with
  | nil => rfl
  | cons a items =>
    rw [ofItems, openings_foldl_cat, List.reverse_cons, List.flatMap_append,
      List.flatMap_singleton]

theorem openings_ofBranches (last : Ast) (before : List Ast) :
    (ofBranches last before).openings = before.reverse.flatMap openings ++ last.openings := by
  induction before generalizing last with
  | nil => rfl
  | cons branch before ih =>
    show (ofBranches (.alt branch last) before).openings = _
    rw [ih, List.reverse_cons, List.flatMap_append, List.append_assoc, List.flatMap_singleton]
    rfl

end Ast

/-! ## Openings of a state -/

def GroupKind.opening : GroupKind → Opening
  | .capture index name => .capture index name
  | .plain s => .settings s

theorem GroupKind.openings_close (k : GroupKind) (body : Ast) :
    (k.close body).openings = k.opening :: body.openings := by
  cases k <;> rfl

/-- The openings of a level, of which branches and items are given last one first. -/
def levelOpenings (branches items : List Ast) : List Opening :=
  (items ++ branches).reverse.flatMap Ast.openings

theorem levelOpenings_cons (branches items : List Ast) (a : Ast) :
    levelOpenings branches (a :: items) = levelOpenings branches items ++ a.openings := by
  rw [levelOpenings, List.cons_append, List.reverse_cons, List.flatMap_append,
    List.flatMap_singleton]
  rfl

def Frame.openings (f : Frame) : List Opening :=
  levelOpenings f.branches f.items ++ [f.kind.opening]

namespace State

/-- All that has been opened so far. -/
def openings (σ : State) : List Opening :=
  σ.frames.reverse.flatMap Frame.openings ++ levelOpenings σ.branches σ.items

variable {σ σ' τ : State} {k : Construct} {cs : List Char} {fuel : Nat}

theorem openings_body (σ : State) : σ.body.openings = levelOpenings σ.branches σ.items := by
  rw [body, Ast.openings_ofBranches, Ast.openings_ofItems, ← List.flatMap_append,
    ← List.reverse_append]
  rfl

theorem openings_of_frames_nil (h : σ.frames = []) : σ.openings = σ.body.openings := by
  rw [openings, h, openings_body]
  rfl

theorem openings_push (a : Ast) : (σ.push a).openings = σ.openings ++ a.openings := by
  rw [openings, push, levelOpenings_cons, ← List.append_assoc]
  rfl

theorem openings_openGroup (kind : GroupKind) (verbose : Bool) :
    (σ.openGroup kind verbose).openings = σ.openings ++ [kind.opening] := by
  show (⟨kind, σ.branches, σ.items, σ.verbose⟩ :: σ.frames).reverse.flatMap Frame.openings ++
    levelOpenings [] [] = _
  rw [List.reverse_cons, List.flatMap_append, List.flatMap_singleton, List.append_assoc]
  show _ ++ (Frame.openings _ ++ []) = _
  rw [List.append_nil, Frame.openings, ← List.append_assoc]
  rfl

theorem openings_closeGroup (h : σ.closeGroup = some σ') : σ'.openings = σ.openings := by
  obtain ⟨f, frames, hframes, rfl⟩ := closeGroup_eq_some h
  show frames.reverse.flatMap Frame.openings ++
    levelOpenings f.branches (f.kind.close σ.body :: f.items) = _
  rw [levelOpenings_cons, GroupKind.openings_close, openings_body, openings, hframes,
    List.reverse_cons, List.flatMap_append, List.flatMap_singleton, Frame.openings]
  simp only [List.append_assoc, List.singleton_append]

theorem openings_alternate (σ : State) : σ.alternate.openings = σ.openings := by
  show _ ++ (Ast.ofItems σ.items :: σ.branches).reverse.flatMap Ast.openings = _
  rw [List.reverse_cons, List.flatMap_append, List.flatMap_singleton, Ast.openings_ofItems,
    ← List.flatMap_append, ← List.reverse_append]
  rfl

theorem openings_repeatLast {min : Nat} {max : Option Nat} {greedy : Bool}
    (h : σ.repeatLast min max greedy = some σ') : σ'.openings = σ.openings := by
  obtain ⟨a, rest, hitems, rfl⟩ := repeatLast_eq_some h
  show _ ++ levelOpenings σ.branches (.repetition min max greedy a :: rest) = _
  rw [openings, hitems, levelOpenings_cons, levelOpenings_cons]
  rfl

end State

/-! ## Openings of constructs -/

/-- What a construct opens. -/
def Construct.openings (σ : State) : Construct → List Opening
  | .settings s | .openGroup s => [.settings s]
  | .openCapture name => [.capture (σ.captures + 1) name]
  | _ => []

namespace State

variable {σ σ' τ : State} {k : Construct} {cs : List Char} {fuel : Nat}

theorem openings_apply (h : k.apply σ = some σ') : σ'.openings = σ.openings ++ k.openings σ := by
  cases k with
  | item a leaf =>
    cases h
    rw [openings_push, Ast.openings_of_isLeaf leaf]
    rfl
  | settings s =>
    cases h
    exact openings_push (σ := σ) (.settings s)
  | openGroup s =>
    cases h
    exact openings_openGroup (.plain s) _
  | openCapture name =>
    obtain ⟨-, rfl⟩ := Construct.apply_openCapture h
    exact openings_openGroup _ _
  | close => exact (openings_closeGroup h).trans (List.append_nil _).symm
  | bar =>
    cases h
    exact σ.openings_alternate.trans (List.append_nil _).symm
  | repetition min max greedy => exact (openings_repeatLast h).trans (List.append_nil _).symm

/-- What every construct preserves, a run does. -/
theorem run_preserves {P : State → Prop}
    (hP : ∀ σ σ' k, Construct.apply σ k = some σ' → P σ → P σ')
    (h : run fuel σ cs = some τ) (hσ : P σ) : P τ := by
  induction fuel generalizing σ cs with
  | zero => cases h
  | succ fuel ih =>
    obtain ⟨less, hless, ⟨-, rfl⟩ | ⟨c, rest, σ', rest', -, hstep, hrun⟩⟩ := run_eq_some_cases h
    · exact hσ
    · obtain rfl : fuel = less := by omega
      obtain ⟨k, -, happly⟩ := step_eq_some hstep
      exact ih hrun (hP σ σ' k happly hσ)

theorem openings_prefix_of_run (h : run fuel σ cs = some τ) : σ.openings <+: τ.openings := by
  refine run_preserves (P := fun τ => σ.openings <+: τ.openings) ?_ h (List.prefix_refl _)
  intro τ τ' k happly hprefix
  rw [openings_apply happly]
  exact hprefix.trans (List.prefix_append _ _)

/-! ## Numbers and names -/

def captured (σ : State) : List (Nat × Option String) := σ.openings.filterMap Opening.capture?

/-- Whether the captures so far have the numbers and the names that the state keeps count of. -/
structure IsNumbered (σ : State) : Prop where
  indices : σ.captured.map Prod.fst = List.range' 1 σ.captures
  names : σ.captured.filterMap Prod.snd = σ.names.reverse
  nodup : σ.names.Nodup

/-- A construct that opens no capture. -/
theorem IsNumbered.of_eq (h : σ.IsNumbered) (hcaptured : σ'.captured = σ.captured)
    (hcaptures : σ'.captures = σ.captures) (hnames : σ'.names = σ.names) : σ'.IsNumbered := by
  refine ⟨?_, ?_, ?_⟩
  · rw [hcaptured, hcaptures, h.indices]
  · rw [hcaptured, hnames, h.names]
  · rw [hnames]
    exact h.nodup

theorem IsNumbered.openCapture (h : σ.IsNumbered) {name : Option String}
    (hname : ¬ name.any σ.names.contains = true) : (σ.openCapture name).IsNumbered := by
  have hcaptured : (σ.openCapture name).captured = σ.captured ++ [(σ.captures + 1, name)] := by
    have hopenings : (σ.openCapture name).openings = _ := openings_openGroup _ _
    rw [captured, hopenings, List.filterMap_append]
    rfl
  refine ⟨?_, ?_, ?_⟩
  · rw [hcaptured, List.map_append, h.indices]
    show _ = List.range' 1 (σ.captures + 1)
    rw [List.range'_concat, Nat.one_mul, Nat.add_comm 1]
    rfl
  · rw [hcaptured, List.filterMap_append, h.names]
    show _ = (name.toList ++ σ.names).reverse
    rw [List.reverse_append]
    cases name <;> rfl
  · show (name.toList ++ σ.names).Nodup
    cases name with
    | none => exact h.nodup
    | some name =>
      refine List.nodup_cons.2 ⟨fun hmem => hname ?_, h.nodup⟩
      exact List.contains_iff_mem.2 hmem

theorem IsNumbered.apply (happly : k.apply σ = some σ') (h : σ.IsNumbered) : σ'.IsNumbered := by
  have hopenings := openings_apply happly
  have hsame (hk : (k.openings σ).filterMap Opening.capture? = []) :
      σ'.captured = σ.captured := by
    rw [captured, hopenings, List.filterMap_append, hk, List.append_nil]
    rfl
  cases k with
  | openCapture name =>
    obtain ⟨hname, rfl⟩ := Construct.apply_openCapture happly
    exact h.openCapture hname
  | close =>
    obtain ⟨f, frames, -, rfl⟩ := closeGroup_eq_some happly
    exact h.of_eq (hsame rfl) rfl rfl
  | repetition min max greedy =>
    obtain ⟨a, rest, -, rfl⟩ := repeatLast_eq_some happly
    exact h.of_eq (hsame rfl) rfl rfl
  | _ =>
    cases happly
    exact h.of_eq (hsame rfl) rfl rfl

theorem isNumbered_of_run (h : run fuel {} cs = some τ) : τ.IsNumbered :=
  run_preserves (fun _ _ _ => IsNumbered.apply) h ⟨rfl, rfl, .nil⟩

/-! ## The mode -/

/-- Whether verbose mode, here or at a level around, has been switched on by settings. -/
def OwesMode (σ : State) : Prop :=
  (σ.verbose = true ∨ ∃ f ∈ σ.frames, f.verbose = true) →
    ∃ o ∈ σ.openings, o.turnsOn .verbose = true

theorem owesMode_update {v : Bool} {s : Settings} (h : (s.get? .verbose).getD v = true) :
    v = true ∨ (Opening.settings s).turnsOn .verbose = true := by
  cases hs : s.get? .verbose with
  | none =>
    rw [hs] at h
    exact .inl h
  | some b =>
    rw [hs] at h
    obtain ⟨before, after, heq, -⟩ := List.lookup_eq_some_iff.1 hs
    have hb : b = true := h
    rw [heq, hb]
    exact .inr (List.contains_iff_mem.2 (by simp))

theorem OwesMode.apply (happly : k.apply σ = some σ') (h : σ.OwesMode) : σ'.OwesMode := by
  have hopenings := openings_apply happly
  -- What has been switched on stays so, and settings say when they switch it on.
  have hkeep (hmode : σ.verbose = true ∨ ∃ f ∈ σ.frames, f.verbose = true) :
      ∃ o ∈ σ'.openings, o.turnsOn .verbose = true := by
    obtain ⟨o, ho, hv⟩ := h hmode
    rw [hopenings]
    exact ⟨o, List.mem_append_left _ ho, hv⟩
  have hupdate {s : Settings} (hk : .settings s ∈ k.openings σ)
      (hv : (s.get? .verbose).getD σ.verbose = true) :
      ∃ o ∈ σ'.openings, o.turnsOn .verbose = true := by
    rcases owesMode_update hv with hv | hv
    · exact hkeep (.inl hv)
    · rw [hopenings]
      exact ⟨_, List.mem_append_right _ hk, hv⟩
  have hopen {f : Frame} (hf : f.verbose = σ.verbose)
      (hframe : ∃ g ∈ f :: σ.frames, g.verbose = true) :
      ∃ o ∈ σ'.openings, o.turnsOn .verbose = true := by
    obtain ⟨g, hg, hv⟩ := hframe
    rcases List.mem_cons.1 hg with rfl | hg
    · exact hkeep (.inl (hf ▸ hv))
    · exact hkeep (.inr ⟨g, hg, hv⟩)
  cases k with
  | settings s =>
    cases happly
    exact fun hmode => hmode.elim (hupdate List.mem_cons_self) fun hframe => hkeep (.inr hframe)
  | openGroup s =>
    cases happly
    exact fun hmode => hmode.elim (hupdate List.mem_cons_self) (hopen rfl)
  | openCapture name =>
    obtain ⟨-, rfl⟩ := Construct.apply_openCapture happly
    exact fun hmode => hmode.elim (fun hv => hkeep (.inl hv)) (hopen rfl)
  | close =>
    obtain ⟨f, frames, hframes, rfl⟩ := closeGroup_eq_some happly
    refine fun hmode => hkeep (.inr ?_)
    rw [hframes]
    rcases hmode with hv | ⟨g, hg, hv⟩
    · exact ⟨f, List.mem_cons_self, hv⟩
    · exact ⟨g, List.mem_cons_of_mem f hg, hv⟩
  | repetition min max greedy =>
    obtain ⟨a, rest, -, rfl⟩ := repeatLast_eq_some happly
    exact hkeep
  | item _ _ | bar =>
    cases happly
    exact hkeep

end State

/-! ## Parsed trees -/

namespace State

variable {τ : State} {text : List Char} {fuel : Nat}

theorem captured_of_frames_nil (h : τ.frames = []) : τ.captured = τ.body.captures := by
  rw [captured, openings_of_frames_nil h]
  rfl

theorem captures_of_run (hrun : run fuel {} text = some τ) (hframes : τ.frames = []) :
    τ.captures = τ.body.captures.length := by
  have hlength := congrArg List.length (isNumbered_of_run hrun).indices
  rw [List.length_map, List.length_range', captured_of_frames_nil hframes] at hlength
  exact hlength.symm

end State

theorem Ast.parse_isNumbered {text : List Char} {a : Ast} (h : Ast.parse text = some a) :
    a.captures.map Prod.fst = List.range' 1 a.captures.length ∧
      (a.captures.filterMap Prod.snd).Nodup := by
  obtain ⟨τ, hrun, hframes, rfl⟩ := Ast.parse_eq_some h
  have hnumbered := State.isNumbered_of_run hrun
  rw [← State.captured_of_frames_nil hframes]
  refine ⟨?_, ?_⟩
  · rw [hnumbered.indices, State.captures_of_run hrun hframes, State.captured_of_frames_nil hframes]
  · rw [hnumbered.names]
    exact List.nodup_reverse.2 hnumbered.nodup

end PathGlob.Regex

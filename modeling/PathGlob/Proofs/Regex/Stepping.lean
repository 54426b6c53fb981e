-- SUMMARY: Parsing an expression as steps between states, without fuel.
import PathGlob.Regex.Parse

/-!
# Steps of the parser

`State.Reads` follows the parser through a part of a text. A run is such a part up to the end of
the text, however much fuel it is given.
-/

namespace PathGlob.Regex

namespace State

/-- Whether reading some text in one state comes to a rest of it in another one. -/
inductive Reads : State → List Char → State → List Char → Prop
  | refl (σ : State) (cs : List Char) : Reads σ cs σ cs
  | step {σ σ₁ σ' : State} {cs rest rest₁ rest' : List Char} {c : Char} :
      skip σ.verbose cs = c :: rest → σ.step c rest = some (σ₁, rest₁) →
      Reads σ₁ rest₁ σ' rest' → Reads σ cs σ' rest'

variable {σ σ₁ σ' τ : State} {cs rest rest₁ rest' : List Char} {c : Char} {fuel : Nat}

theorem Reads.trans (h : Reads σ cs σ₁ rest₁) (h' : Reads σ₁ rest₁ σ' rest') :
    Reads σ cs σ' rest' := by
  induction h with
  | refl _ _ => exact h'
  | step hskip hstep _ ih => exact .step hskip hstep (ih h')

/-- One step outside verbose mode. -/
theorem Reads.once (hv : σ.verbose = false) (h : σ.step c rest = some (σ', rest')) :
    Reads σ (c :: rest) σ' rest' :=
  .step (by simp [skip, hv]) h (.refl σ' rest')

/-- The characters that begin or end a construct with more to it. -/
def marks : List Char := ['(', ')', '|', '[', '?', '*', '+', '{', '\\']

/-- The item that any other character is by itself. -/
def itemOf (c : Char) : Ast :=
  if c = '.' then .dot
  else if c = '^' then .assertion .lineStart
  else if c = '$' then .assertion .lineEnd
  else .literal ⟨c, false⟩

theorem step_of_not_mem (h : c ∉ marks) : σ.step c cs = some (σ.push (itemOf c), cs) := by
  simp only [marks, List.mem_cons, List.not_mem_nil, or_false, not_or] at h
  obtain ⟨h₁, h₂, h₃, h₄, h₅, h₆, h₇, h₈, h₉⟩ := h
  rw [step, if_neg h₁, if_neg h₂, if_neg h₃, if_neg h₄, if_neg h₅, if_neg h₆, if_neg h₇,
    if_neg h₈, if_neg h₉, itemOf]
  split
  · rfl
  · split
    · rfl
    · split <;> rfl

theorem run_of_skip_nil (h : skip σ.verbose cs = []) : run (fuel + 1) σ cs = some σ := by
  rw [run, h]

theorem run_of_step (hskip : skip σ.verbose cs = c :: rest)
    (hstep : σ.step c rest = some (σ', rest')) : run (fuel + 1) σ cs = run fuel σ' rest' := by
  rw [run, hskip]
  simp only [hstep]

/-- What a run does with the next character that counts. -/
theorem run_eq_some_cases (h : run fuel σ cs = some τ) :
    ∃ less, fuel = less + 1 ∧
      ((skip σ.verbose cs = [] ∧ τ = σ) ∨
        ∃ c rest σ' rest', skip σ.verbose cs = c :: rest ∧ σ.step c rest = some (σ', rest') ∧
          run less σ' rest' = some τ) := by
  cases fuel with
  | zero => cases h
  | succ less =>
    refine ⟨less, rfl, ?_⟩
    cases hskip : skip σ.verbose cs with
    | nil =>
      rw [run_of_skip_nil hskip] at h
      exact .inl ⟨rfl, (Option.some.inj h).symm⟩
    | cons c rest =>
      rw [run, hskip] at h
      dsimp only at h
      cases hstep : σ.step c rest with
      | none => rw [hstep] at h; cases h
      | some r =>
        rw [hstep] at h
        exact .inr ⟨c, rest, r.1, r.2, rfl, hstep, h⟩

theorem run_nil (h : run fuel σ [] = some τ) : τ = σ := by
  obtain ⟨-, -, ⟨-, rfl⟩ | ⟨c, rest, -, -, hskip, -⟩⟩ := run_eq_some_cases h
  · rfl
  · cases hv : σ.verbose <;> simp [skip, hv, dropBlanks] at hskip

theorem run_add (h : run fuel σ cs = some τ) (more : Nat) : run (fuel + more) σ cs = some τ := by
  -- Fuel is used up one step at a time, so what is added is left over.
  induction fuel generalizing σ cs with
  | zero => cases h
  | succ fuel ih =>
    obtain ⟨less, hless, hrun⟩ := run_eq_some_cases h
    obtain rfl : fuel = less := by omega
    rw [Nat.succ_add]
    obtain ⟨hskip, rfl⟩ | ⟨c, rest, σ', rest', hskip, hstep, hrun⟩ := hrun
    · exact run_of_skip_nil hskip
    · rw [run_of_step hskip hstep]
      exact ih hrun

theorem Reads.run (h : Reads σ cs σ' rest') :
    ∃ n, ∀ fuel, State.run (fuel + n) σ cs = State.run fuel σ' rest' := by
  induction h with
  | refl _ _ => exact ⟨0, fun _ => rfl⟩
  | step hskip hstep _ ih =>
    obtain ⟨n, hn⟩ := ih
    refine ⟨n + 1, fun fuel => ?_⟩
    rw [← Nat.add_assoc, run_of_step hskip hstep, hn]

/-- A run that begins with some steps goes on after them. -/
theorem Reads.run_rest (h : Reads σ cs σ' rest') (hrun : State.run fuel σ cs = some τ) :
    ∃ fuel', State.run fuel' σ' rest' = some τ := by
  obtain ⟨n, hn⟩ := h.run
  exact ⟨fuel, by rw [← hn, run_add hrun]⟩

/-! ## Fuel -/

/-- Whether some text is read to its end with the fuel that its length provides. -/
def Succeeds (σ : State) (cs : List Char) : Prop := ∃ τ, run (cs.length + 1) σ cs = some τ

theorem succeeds_nil (σ : State) : σ.Succeeds [] :=
  ⟨σ, run_of_skip_nil (by simp [skip, dropBlanks])⟩

/-- Whether reading some text comes to a rest of it, and on to the end of the text if it does so
from there. -/
structure Advances (σ : State) (cs : List Char) (σ' : State) (rest' : List Char) : Prop where
  reads : Reads σ cs σ' rest'
  succeeds : σ'.Succeeds rest' → σ.Succeeds cs

theorem Advances.trans (h : Advances σ cs σ₁ rest₁) (h' : Advances σ₁ rest₁ σ' rest') :
    Advances σ cs σ' rest' :=
  ⟨h.reads.trans h'.reads, fun hrest => h.succeeds (h'.succeeds hrest)⟩

/-- One step outside verbose mode pays for itself, since it reads a character. -/
theorem Advances.once (hv : σ.verbose = false) (h : σ.step c rest = some (σ', rest'))
    (hle : rest'.length ≤ rest.length) : Advances σ (c :: rest) σ' rest' where
  reads := .once hv h
  succeeds := by
    rintro ⟨τ, hτ⟩
    have hskip : skip σ.verbose (c :: rest) = c :: rest := by simp [skip, hv]
    obtain ⟨more, hmore⟩ := Nat.exists_eq_add_of_le hle
    refine ⟨τ, ?_⟩
    rw [List.length_cons, run_of_step hskip h, hmore, Nat.add_right_comm]
    exact run_add hτ more

end State

theorem Ast.parse_eq_some {text : List Char} {a : Ast} (h : Ast.parse text = some a) :
    ∃ τ, State.run (text.length + 1) {} text = some τ ∧ τ.frames = [] ∧ a = τ.body := by
  unfold Ast.parse at h
  obtain ⟨τ, hτ, h⟩ := Option.bind_eq_some_iff.1 h
  obtain ⟨b, hfin, h⟩ := Option.bind_eq_some_iff.1 h
  split at h
  · cases h
    unfold State.finish at hfin
    split at hfin
    · next hframes =>
      exact ⟨τ, hτ, List.isEmpty_iff.1 hframes, (Option.some.inj hfin).symm⟩
    · cases hfin
  · cases h

/-- The tree of a text that is read to its end. -/
theorem Ast.parse_of_reads {text : List Char} {a : Ast} {σ : State}
    (h : Ast.parse text = some a) (hreads : State.Reads {} text σ []) :
    σ.frames = [] ∧ a = σ.body := by
  obtain ⟨τ, hτ, hframes, rfl⟩ := Ast.parse_eq_some h
  obtain ⟨fuel, hfuel⟩ := hreads.run_rest hτ
  obtain rfl := State.run_nil hfuel
  exact ⟨hframes, rfl⟩

end PathGlob.Regex

-- SUMMARY: An expression that is read to its end by itself is read the same where it is spliced into a group, its captures renumbered.
import PathGlob.Proofs.Regex.Openings

/-!
# Splicing expressions into groups

The parser reads a text inside a group as it reads the text alone, construct by construct: what
comes next depends only on the mode. Its state there mirrors the state it has alone, with the groups
around it open and their captures counted. The parenthesis after the text then closes the group.
What could go wrong is a comment at the end of the text, which takes the parenthesis in. There is
none if the text never switches verbose mode on, or if it stands between parentheses as well.
-/

namespace PathGlob.Regex

variable {k : Nat}

/-! ## Renumbering -/

/-- A tree with `k` more captures before it. -/
def Ast.shift (k : Nat) : Ast → Ast
  | .repetition min max greedy a => .repetition min max greedy (a.shift k)
  | .capture index name a => .capture (index + k) name (a.shift k)
  | .group s a => .group s (a.shift k)
  | .cat a b => .cat (a.shift k) (b.shift k)
  | .alt a b => .alt (a.shift k) (b.shift k)
  | a => a

theorem Ast.shift_of_isLeaf {a : Ast} (h : a.isLeaf = true) : a.shift k = a := by
  cases a with
  | literal _ | dot | assertion _ | shorthand _ _ | property _ _ | bracket _ _ => rfl
  | _ => cases h

theorem Ast.shift_ofItems (items : List Ast) :
    (Ast.ofItems items).shift k = .ofItems (items.map (Ast.shift k)) := by
  cases items with
  | nil => rfl
  | cons a items =>
    show (items.foldl (fun b item => .cat item b) a).shift k =
      (items.map (Ast.shift k)).foldl (fun b item => .cat item b) (a.shift k)
    induction items generalizing a with
    | nil => rfl
    | cons item items ih => exact ih (.cat item a)

theorem Ast.shift_ofBranches (last : Ast) (before : List Ast) :
    (Ast.ofBranches last before).shift k =
      .ofBranches (last.shift k) (before.map (Ast.shift k)) := by
  induction before generalizing last with
  | nil => rfl
  | cons branch before ih => exact ih (.alt branch last)

def GroupKind.shift (k : Nat) : GroupKind → GroupKind
  | .capture index name => .capture (index + k) name
  | .plain s => .plain s

theorem GroupKind.shift_close (kind : GroupKind) (body : Ast) :
    (kind.close body).shift k = (kind.shift k).close (body.shift k) := by
  cases kind <;> rfl

def Frame.shift (k : Nat) (f : Frame) : Frame where
  kind := f.kind.shift k
  branches := f.branches.map (Ast.shift k)
  items := f.items.map (Ast.shift k)
  verbose := f.verbose

namespace State

variable {σ σ' σ₁ τ τ' τ₁ ρ ρ₁ : State} {f g : Frame} {fs base : List Frame} {c : Construct}
  {x y s : List Char} {fuel fuel' : Nat}

/-! ## Mirrored states -/

/-- Whether a state is another one inside some open groups, with `k` more captures before it. -/
structure Mirrors (k : Nat) (base : List Frame) (σ τ : State) : Prop where
  frames : τ.frames = σ.frames.map (Frame.shift k) ++ base
  branches : τ.branches = σ.branches.map (Ast.shift k)
  items : τ.items = σ.items.map (Ast.shift k)
  verbose : τ.verbose = σ.verbose
  captures : τ.captures = σ.captures + k

theorem Mirrors.body (h : Mirrors k base σ τ) : τ.body = σ.body.shift k := by
  rw [State.body, State.body, Ast.shift_ofBranches, Ast.shift_ofItems, h.branches, h.items]

theorem Mirrors.openGroup (h : Mirrors k base σ τ) (kind : GroupKind) {v w : Bool} (hvw : w = v) :
    Mirrors k base (σ.openGroup kind v) (τ.openGroup (kind.shift k) w) where
  frames := by
    show ⟨kind.shift k, τ.branches, τ.items, τ.verbose⟩ :: τ.frames = _
    rw [h.frames, h.branches, h.items, h.verbose]
    rfl
  branches := rfl
  items := rfl
  verbose := hvw
  captures := h.captures

theorem Mirrors.openCapture (h : Mirrors k base σ τ) (name : Option String) :
    Mirrors k base (σ.openCapture name) (τ.openCapture name) := by
  have hcaptures : τ.captures + 1 = σ.captures + 1 + k := by
    rw [h.captures]
    omega
  have hkind : (GroupKind.capture (σ.captures + 1) name).shift k =
      .capture (τ.captures + 1) name := by rw [hcaptures]; rfl
  have hopened := h.openGroup (.capture (σ.captures + 1) name) h.verbose
  rw [hkind] at hopened
  exact ⟨hopened.frames, rfl, rfl, hopened.verbose, hcaptures⟩

theorem Mirrors.closeGroup (h : Mirrors k base σ τ) (hσ : σ.closeGroup = some σ')
    (hτ : τ.closeGroup = some τ') : Mirrors k base σ' τ' := by
  obtain ⟨f, frames, hf, rfl⟩ := closeGroup_eq_some hσ
  obtain ⟨g, gs, hg, rfl⟩ := closeGroup_eq_some hτ
  rw [h.frames, hf] at hg
  cases hg
  refine ⟨rfl, rfl, ?_, rfl, h.captures⟩
  show (f.kind.shift k).close τ.body :: _ = _
  rw [h.body, ← GroupKind.shift_close]
  rfl

theorem Mirrors.repeatLast (h : Mirrors k base σ τ) {min : Nat} {max : Option Nat} {greedy : Bool}
    (hσ : σ.repeatLast min max greedy = some σ') (hτ : τ.repeatLast min max greedy = some τ') :
    Mirrors k base σ' τ' := by
  obtain ⟨a, rest, hitems, rfl⟩ := repeatLast_eq_some hσ
  obtain ⟨b, rest', hitems', rfl⟩ := repeatLast_eq_some hτ
  rw [h.items, hitems] at hitems'
  cases hitems'
  exact ⟨h.frames, h.branches, rfl, h.verbose, h.captures⟩

theorem Mirrors.alternate (h : Mirrors k base σ τ) : Mirrors k base σ.alternate τ.alternate where
  frames := h.frames
  branches := by
    show Ast.ofItems τ.items :: τ.branches = _
    rw [h.items, ← Ast.shift_ofItems, h.branches]
    rfl
  items := rfl
  verbose := h.verbose
  captures := h.captures

theorem Mirrors.apply (h : Mirrors k base σ τ) (hσ : c.apply σ = some σ')
    (hτ : c.apply τ = some τ') : Mirrors k base σ' τ' := by
  cases c with
  | item a leaf =>
    cases hσ
    cases hτ
    refine ⟨h.frames, h.branches, ?_, h.verbose, h.captures⟩
    show a :: τ.items = a.shift k :: σ.items.map (Ast.shift k)
    rw [h.items, Ast.shift_of_isLeaf leaf]
  | settings s =>
    cases hσ
    cases hτ
    refine ⟨h.frames, h.branches, ?_, ?_, h.captures⟩
    · show Ast.settings s :: τ.items = _
      rw [h.items]
      rfl
    · show Option.getD _ τ.verbose = Option.getD _ σ.verbose
      rw [h.verbose]
  | openGroup s =>
    cases hσ
    cases hτ
    exact h.openGroup (.plain s) (by rw [h.verbose])
  | openCapture name =>
    obtain ⟨-, rfl⟩ := Construct.apply_openCapture hσ
    obtain ⟨-, rfl⟩ := Construct.apply_openCapture hτ
    exact h.openCapture name
  | close => exact h.closeGroup hσ hτ
  | bar =>
    cases hσ
    cases hτ
    exact h.alternate
  | repetition min max greedy => exact h.repeatLast hσ hτ

/-! ## Texts read to their end -/

/-- Whether a text is read to its end, every construct in full and with no comment open there. -/
inductive Completes : State → List Char → State → Prop
  | done {σ : State} {x : List Char} (hskip : skip σ.verbose x = [])
      (hopen : ¬ IsOpen σ.verbose x) : Completes σ x σ
  | step {σ σ' τ : State} {x y rest : List Char} {mark : Char} {c : Construct}
      (hskip : skip σ.verbose x = mark :: rest) (hcut : ¬ IsCut σ.verbose mark rest)
      (hread : readConstruct σ.verbose mark rest = some (c, y)) (happly : c.apply σ = some σ')
      (h : Completes σ' y τ) : Completes σ x τ

/-- The parenthesis after a text that is read to its end closes the group around it. -/
theorem Completes.reads_close (h : Completes σ x σ₁) (hframes : σ₁.frames = [])
    (hm : Mirrors k (f :: fs) σ τ) (hrun : run fuel τ (x ++ ')' :: s) = some τ₁) :
    ∃ names, Reads τ (x ++ ')' :: s) ⟨fs, f.branches, f.kind.close (σ₁.body.shift k) :: f.items,
      f.verbose, σ₁.captures + k, names⟩ s := by
  induction h generalizing τ fuel with
  | @done σ x hskip hopen =>
    have hparen : skip τ.verbose (x ++ ')' :: s) = ')' :: s := by
      rw [hm.verbose, skip_append_of_not_isOpen _ hopen, hskip]
      rfl
    have hopened := hm.frames
    rw [hframes] at hopened
    refine ⟨τ.names, .step hparen ?_ (.refl _ s)⟩
    show τ.closeGroup.map _ = _
    rw [State.closeGroup, hopened]
    show some _ = some _
    rw [hm.body, hm.captures]
  | @step σ σ' σ₁ x y rest mark c hskip hcut hread happly _ ih =>
    have hnested : skip τ.verbose (x ++ ')' :: s) = mark :: (rest ++ ')' :: s) := by
      rw [hm.verbose, skip_append_of_ne_nil _ (by rw [hskip]; exact nofun), hskip]
      rfl
    obtain ⟨less, -, ⟨hnil, -⟩ | ⟨mark', rest', τ', z, hcons, hstep, hless⟩⟩ :=
      run_eq_some_cases hrun
    · rw [hnested] at hnil
      cases hnil
    · rw [hnested] at hcons
      cases hcons
      obtain ⟨c', hread', happly'⟩ := step_eq_some hstep
      rw [hm.verbose, readConstruct_append hcut hread] at hread'
      cases hread'
      obtain ⟨names, hreads⟩ := ih hframes (hm.apply happly happly') hless
      exact ⟨names, .step hnested hstep hreads⟩

/-- Had the text ended after an opening parenthesis, the group would still be open. -/
theorem frames_ne_nil_of_skip_nil (hskip : skip σ.verbose x = [])
    (hread : readConstruct σ.verbose '(' x = some (c, y)) (happly : c.apply σ = some σ')
    (hrun : run fuel σ' y = some σ₁) : σ₁.frames ≠ [] := by
  have hopening : readConstruct σ.verbose '(' x = some (.openCapture none, []) := by
    show readOpening σ.verbose x = _
    rw [readOpening, hskip]
  rw [hopening] at hread
  cases hread
  obtain ⟨-, rfl⟩ := Construct.apply_openCapture happly
  rw [run_nil hrun]
  exact List.cons_ne_nil _ _

/-! ## Texts without verbose mode -/

/-- A text that never switches verbose mode on has no comments. -/
theorem completes_of_not_turnsOn (hrun : run fuel σ x = some σ₁) (hframes : σ₁.frames = [])
    (howes : σ.OwesMode) (hplain : σ₁.body.turnsOn .verbose = false) : Completes σ x σ₁ := by
  induction fuel generalizing σ x with
  | zero => cases hrun
  | succ fuel ih =>
    have hv : σ.verbose = false := by
      rw [← Bool.not_eq_true]
      intro hv
      obtain ⟨o, ho, hon⟩ := howes (.inl hv)
      have hmem := (openings_prefix_of_run hrun).subset ho
      rw [openings_of_frames_nil hframes] at hmem
      exact absurd hon (List.any_eq_false.1 hplain o hmem)
    have hclosed (z : List Char) : ¬ IsOpen σ.verbose z := by
      rw [hv]
      exact fun h => nomatch h.2.1
    obtain ⟨less, hless, ⟨hskip, rfl⟩ | ⟨mark, rest, σ', y, hskip, hstep, hthen⟩⟩ :=
      run_eq_some_cases hrun
    · exact .done hskip (hclosed x)
    · obtain rfl : fuel = less := by omega
      obtain ⟨c, hread, happly⟩ := step_eq_some hstep
      refine .step hskip ?_ hread happly (ih hthen (howes.apply happly))
      rintro (⟨rfl, hnil⟩ | ⟨rfl, _, _, rest', -, hopen⟩)
      · exact frames_ne_nil_of_skip_nil hnil hread happly hthen hframes
      · exact hclosed rest' hopen

/-! ## Texts between parentheses -/

theorem Mirrors.frames_ne_nil (h : Mirrors k [g] σ ρ) : ρ.frames ≠ [] := by
  rw [h.frames]
  exact List.append_ne_nil_of_right_ne_nil _ nofun

/-- A comment open at the end of the text takes the parenthesis in. -/
theorem Mirrors.not_isOpen (h : Mirrors k [g] σ ρ) (hρ₁ : ρ₁.frames = [])
    (hwrapped : run fuel ρ (x ++ [')']) = some ρ₁) : ¬ IsOpen σ.verbose x := by
  intro hopen
  obtain ⟨-, -, ⟨-, rfl⟩ | ⟨mark, rest, -, -, hwrap, -⟩⟩ := run_eq_some_cases hwrapped
  · exact h.frames_ne_nil hρ₁
  · rw [h.verbose, skip_append_of_isOpen hopen] at hwrap
    cases hwrap

/-- It does so after a count of repetitions too. -/
theorem Mirrors.not_endsCounted (h : Mirrors k [g] σ ρ) {mark : Char} {z : List Char}
    (hρ₁ : ρ₁.frames = []) (hstep : ρ.step mark (x ++ [')']) = some (τ, z))
    (hrun : run fuel τ z = some ρ₁) : ¬ EndsCounted σ.verbose mark x := by
  rintro ⟨rfl, min, max, rest, hbounds, hopen⟩
  obtain ⟨c, hread, happly⟩ := step_eq_some hstep
  have hgreedy : readConstruct ρ.verbose '{' (x ++ [')']) =
      some (.repetition min max true, []) := by
    show (readBounds ρ.verbose (x ++ [')'])).map _ = _
    rw [h.verbose, readBounds_append _ hbounds]
    show some (withGreed min max (skip σ.verbose (rest ++ [')']))) = _
    rw [skip_append_of_isOpen hopen]
    rfl
  rw [hgreedy] at hread
  cases hread
  obtain ⟨a, items, -, rfl⟩ := repeatLast_eq_some happly
  rw [run_nil hrun] at hρ₁
  exact h.frames_ne_nil hρ₁

/-- Induction on the run of the text by itself, which the run between parentheses follows. -/
theorem completes_of_wrapped (hrun : run fuel σ x = some σ₁) (hframes : σ₁.frames = [])
    (hm : Mirrors k [g] σ ρ) (hwrapped : run fuel' ρ (x ++ [')']) = some ρ₁)
    (hρ₁ : ρ₁.frames = []) : Completes σ x σ₁ := by
  induction fuel generalizing σ ρ x fuel' with
  | zero => cases hrun
  | succ fuel ih =>
    obtain ⟨less, hless, ⟨hskip, rfl⟩ | ⟨mark, rest, σ', y, hskip, hstep, hthen⟩⟩ :=
      run_eq_some_cases hrun
    · exact .done hskip (hm.not_isOpen hρ₁ hwrapped)
    · obtain rfl : fuel = less := by omega
      obtain ⟨c, hread, happly⟩ := step_eq_some hstep
      have hnested : skip ρ.verbose (x ++ [')']) = mark :: (rest ++ [')']) := by
        rw [hm.verbose, skip_append_of_ne_nil _ (by rw [hskip]; exact nofun), hskip]
        rfl
      obtain ⟨less', -, ⟨hnil, -⟩ | ⟨mark', rest', ρ', z, hcons, hstepρ, hthenρ⟩⟩ :=
        run_eq_some_cases hwrapped
      · rw [hnested] at hnil
        cases hnil
      · rw [hnested] at hcons
        cases hcons
        have hcut : ¬ IsCut σ.verbose mark rest := by
          rintro (⟨rfl, hnil⟩ | hends)
          · exact frames_ne_nil_of_skip_nil hnil hread happly hthen hframes
          · exact hm.not_endsCounted hρ₁ hstepρ hthenρ hends
        obtain ⟨c', hread', happly'⟩ := step_eq_some hstepρ
        rw [hm.verbose, readConstruct_append hcut hread] at hread'
        cases hread'
        exact .step hskip hcut hread happly (ih hthen (hm.apply happly happly') hthenρ)

end State

/-! ## Parsed trees -/

/-- Whether a text is read to its end as some tree, so that it is read the same in any group. -/
def Ast.Fits (text : List Char) (a : Ast) : Prop :=
  ∃ σ : State, State.Completes {} text σ ∧ σ.frames = [] ∧ σ.body = a ∧
    σ.captures = a.captures.length

theorem Ast.fits_of_not_turnsOn {text : List Char} {a : Ast} (h : Ast.parse text = some a)
    (hplain : a.turnsOn .verbose = false) : Ast.Fits text a := by
  obtain ⟨σ, hrun, hframes, rfl⟩ := Ast.parse_eq_some h
  have howes : State.OwesMode {} := by
    rintro (hv | ⟨f, hf, -⟩)
    · cases hv
    · cases hf
  exact ⟨σ, State.completes_of_not_turnsOn hrun hframes howes hplain, hframes, rfl,
    State.captures_of_run hrun hframes⟩

end PathGlob.Regex

-- SUMMARY: The source of a pattern without constraints is read to its end and nests little deeper than the pattern's groups.
import PathGlob.Proofs.Pattern.Rendering

/-!
# Sources that are read to their end

What follows a phrase of a rendered pattern is taken as a continuation: a text with the phrase in
front is read to its end if the rest is, from whatever state the phrase leads to. All that has to be
known of this state is that the names given so far are those of earlier slots, so that the name of
the next one is new.
-/

namespace PathGlob

open Regex (Ast State)

namespace Pattern

theorem slotName_inj {m n : Nat} (h : slotName m = slotName n) : m = n := by
  have hdigits : Nat.toDigits 10 m = Nat.toDigits 10 n := by
    have hlist := congrArg String.toList h
    rw [toList_slotName, toList_slotName] at hlist
    simpa using hlist
  have hvalue (k : Nat) : Nat.ofDigitChars 10 (Nat.toDigits 10 k) 0 = k :=
    Nat.ofDigitChars_toDigits (by decide) (by decide)
  rw [← hvalue m, hdigits, hvalue]

/-! ## States between phrases -/

/-- Whether a state is in plain mode, within some groups, and knows the names of the first `n` slots
at most. -/
structure Ready (n : Nat) (fs : List Regex.Frame) (σ : State) : Prop where
  plain : σ.verbose = false
  frames : σ.frames = fs
  names : ∀ name ∈ σ.names, ∃ i < n, name = slotName i

/-- Whether a quantifier may follow. -/
def EndsInItem (σ : State) : Prop := ∃ a as, σ.items = a :: as ∧ ∀ s, a ≠ .settings s

section

variable {n : Nat} {fs : List Regex.Frame} {σ : State}

theorem Ready.push (h : Ready n fs σ) (a : Ast) : Ready n fs (σ.push a) :=
  ⟨h.plain, h.frames, h.names⟩

theorem Ready.openGroup (h : Ready n fs σ) (kind : Regex.GroupKind) :
    Ready n (⟨kind, σ.branches, σ.items, σ.verbose⟩ :: fs) (σ.openGroup kind σ.verbose) :=
  ⟨h.plain, congrArg _ h.frames, h.names⟩

/-- What a closing parenthesis leads to. -/
theorem Ready.exists_closeGroup {f : Regex.Frame} (h : Ready n (f :: fs) σ)
    (hf : f.verbose = false) (rest : List Char) :
    ∃ τ, State.Advances σ (')' :: rest) τ rest ∧ Ready n fs τ ∧ EndsInItem τ := by
  refine ⟨_, advances_closeGroup h.plain h.frames rest, ⟨hf, rfl, h.names⟩, _, _, rfl, ?_⟩
  cases f.kind <;> exact nofun

theorem Ready.notMem (h : Ready n fs σ) : slotName n ∉ σ.names := by
  intro hmem
  obtain ⟨i, hi, heq⟩ := h.names _ hmem
  exact absurd (slotName_inj heq) (by omega)

theorem Ready.openCapture (h : Ready n fs σ) :
    ∃ kind, Ready (n + 1) (⟨kind, σ.branches, σ.items, σ.verbose⟩ :: fs)
      (σ.openCapture (some (slotName n))) := by
  refine ⟨_, h.plain, congrArg _ h.frames, ?_⟩
  refine List.forall_mem_cons.2 ⟨⟨n, Nat.lt_succ_self n, rfl⟩, fun name hname => ?_⟩
  obtain ⟨i, hi, heq⟩ := h.names name hname
  exact ⟨i, Nat.lt_succ_of_lt hi, heq⟩

end

/-! ## Phrases -/

/-- Whether a rendered phrase may stand in front of any text that goes on from where it ends. -/
def IsReadable : Phrase → Pattern → Prop
  | .unit, p => ∀ n fs σ rest, Ready n fs σ →
      (∀ τ, Ready (n + p.arity) fs τ → EndsInItem τ → τ.Succeeds rest) →
      σ.Succeeds (p.render n ++ rest)
  | _, p => ∀ n fs σ rest, Ready n fs σ → rest.head? ≠ some '?' →
      (∀ τ, Ready (n + p.arity) fs τ → τ.Succeeds rest) → σ.Succeeds (p.render n ++ rest)

section

variable {cs : List Char} {p q : Pattern}

theorem IsReadable.literal (c : Char) : IsReadable .unit (.literal c) :=
  fun _ _ _ rest hσ hgo => (advances_quoteChar hσ.plain c rest).succeeds
    (hgo _ (hσ.push _) ⟨_, _, rfl, nofun⟩)

theorem IsReadable.var {d : Declaration} (hd : d.constraint = none) :
    IsReadable .unit (.var d) := by
  intro n fs σ rest hσ hgo
  have htext : (Pattern.var d).render n ++ rest = "(?P<".toList ++ (slotName n).toList ++
      '>' :: ("[^/]".toList ++ '+' :: ')' :: rest) := by
    rw [render_var, Declaration.source, hd, List.append_assoc, List.append_assoc]
    simp [defaultVariable]
  obtain ⟨kind, hopened⟩ := hσ.openCapture
  obtain ⟨τ, hclose, hτ, hitem⟩ := (hopened.push _).exists_closeGroup hσ.plain rest
  rw [htext]
  refine (advances_openSlot hσ.plain hσ.notMem).succeeds ?_
  refine (advances_classes hopened.plain (show ('+', 1) ∈ _ by simp) (by simp)).succeeds ?_
  exact hclose.succeeds (hgo τ hτ hitem)

theorem IsReadable.group (h : IsReadable .alternatives p) : IsReadable .unit (.group p) := by
  intro n fs σ rest hσ hgo
  have htext :
      (Pattern.group p).render n ++ rest = "(?:".toList ++ (p.render n ++ ')' :: rest) := by
    rw [render_group, List.append_assoc, List.append_assoc]
    rfl
  rw [htext]
  refine (advances_openGroup hσ.plain _).succeeds ?_
  refine h n _ _ (')' :: rest) (hσ.openGroup (.plain [])) (by simp) fun τ hτ => ?_
  obtain ⟨ρ, hclose, hρ, hitem⟩ := hτ.exists_closeGroup hσ.plain rest
  exact hclose.succeeds (hgo ρ hρ hitem)

/-- An item in front of a sequence. -/
theorem IsReadable.cons (hq : IsReadable .sequence q) (hd : Derives .sequence cs q)
    (hp : IsReadable .sequence p) : IsReadable .sequence (.seq p q) := by
  intro n fs σ rest hσ hrest hgo
  rw [render_seq, List.append_assoc]
  refine hp n fs σ _ hσ (hd.head?_render _ hrest) fun τ hτ => ?_
  refine hq (n + p.arity) fs τ rest hτ hrest fun ρ hρ => hgo ρ ?_
  rwa [arity, ← Nat.add_assoc]

theorem IsReadable.optional (h : IsReadable .unit p) : IsReadable .sequence (.optional p) := by
  intro n fs σ rest hσ hrest hgo
  rw [render_optional, List.append_assoc]
  refine h n fs σ _ hσ fun τ hτ ⟨a, as, hitems, ha⟩ => ?_
  refine (advances_quantifier hτ.plain (show ('?', 0, some 1) ∈ _ by simp) hrest hitems
    ha).succeeds ?_
  exact hgo _ ⟨hτ.plain, hτ.frames, hτ.names⟩

theorem IsReadable.bar (hp : IsReadable .sequence p) (hq : IsReadable .alternatives q) :
    IsReadable .alternatives (.alt p q) := by
  intro n fs σ rest hσ hrest hgo
  rw [render_alt, List.append_assoc, List.cons_append]
  refine hp n fs σ _ hσ (by simp) fun τ hτ => ?_
  have hbar : State.Advances τ ('|' :: (q.render (n + p.arity) ++ rest)) τ.alternate
      (q.render (n + p.arity) ++ rest) := .once hτ.plain rfl (Nat.le_refl _)
  refine hbar.succeeds (hq (n + p.arity) fs _ rest ⟨hτ.plain, hτ.frames, hτ.names⟩ hrest
    fun ρ hρ => hgo ρ ?_)
  rwa [arity, ← Nat.add_assoc]

/-- A unit needs no care about the text after it. -/
theorem IsReadable.sequence (h : IsReadable .unit p) : IsReadable .sequence p :=
  fun n fs σ rest hσ _ hgo => h n fs σ rest hσ fun τ hτ _ => hgo τ hτ

theorem isReadable_of_advances (harity : p.arity = 0)
    (h : ∀ {σ : State} {n : Nat} {rest : List Char}, σ.verbose = false → rest.head? ≠ some '?' →
      State.Advances σ (p.render n ++ rest) (σ.push (p.toAst n 0)) rest) :
    IsReadable .sequence p := by
  intro n fs σ rest hσ hrest hgo
  refine (h hσ.plain hrest).succeeds (hgo _ ?_)
  rw [harity]
  exact hσ.push _

/-- Induction on the derivation; without constraints nothing is spliced in. -/
theorem Derives.isReadable {k : Phrase} (h : Derives k cs p) (hc : p.constraints = []) :
    IsReadable k p := by
  induction h with
  | last _ ih => exact ih hc
  | bar _ _ ihp ihq =>
    obtain ⟨hcp, hcq⟩ := constraints_alt_eq_nil_iff.1 hc
    exact (ihp hcp).bar (ihq hcq)
  | nil => exact fun n fs σ rest hσ _ hgo => hgo σ hσ
  | segment _ hq ih =>
    exact (ih hc).cons hq (isReadable_of_advances rfl fun hv hrest => advances_segment hv hrest)
  | directories hq ih =>
    exact (ih hc).cons hq (isReadable_of_advances rfl fun hv hrest => advances_directories hv hrest)
  | anything _ hq ih =>
    exact (ih hc).cons hq (isReadable_of_advances rfl fun hv hrest => advances_anything hv hrest)
  | cons _ hq ihp ihq =>
    obtain ⟨hcp, hcq⟩ := constraints_seq_eq_nil_iff.1 hc
    exact (ihq hcq).cons hq (ihp hcp).sequence
  | consOptional _ hq ihp ihq =>
    obtain ⟨hcp, hcq⟩ := constraints_seq_eq_nil_iff.1 hc
    exact (ihq hcq).cons hq (ihp hcp).optional
  | fullStop | literal _ | escaped => exact .literal _
  | group _ _ ih => exact (ih hc).group
  | var _ => exact .var rfl
  | constrained _ _ _ => simp [constraints, declarations] at hc

/-- The source of a pattern without constraints is read to its end. -/
theorem Spells.succeeds_source {text : String} (h : Spells text p) (hc : p.constraints = []) :
    State.Succeeds {} p.source.toList := by
  refine (advances_anchor p).succeeds ?_
  refine h.isReadable hc 0 _ _ ")$".toList ⟨rfl, rfl, nofun⟩ (by decide) fun τ hτ => ?_
  obtain ⟨ρ, hclose, hρ, -⟩ := hτ.exists_closeGroup rfl ['$']
  have hend : State.Advances ρ ['$'] (ρ.push (.assertion .lineEnd)) [] :=
    .once hρ.plain rfl (Nat.le_refl _)
  exact (hclose.trans hend).succeeds (State.succeeds_nil _)

end

/-! ## Nesting -/

/-- How deep the parentheses of a pattern nest. -/
def depth : Pattern → Nat
  | .group p => p.depth + 1
  | .seq p q | .alt p q => max p.depth q.depth
  | .optional p => p.depth
  | _ => 0

section

variable {cs : List Char} {p q : Pattern}

/-- Whether a tree nests to `m` levels at most wherever it stands, as no sequence and no alternation
does. -/
def NestsWithin (m : Nat) (a : Ast) : Prop := ∀ chain, a.nesting chain ≤ m

/-- The levels of the tree of a phrase: four for each level of parentheses, and some within. A
sequence or alternation in a longer one has a level less. -/
def IsShallow : Phrase → Pattern → Prop
  | .unit, p => ∀ n g, NestsWithin (4 * p.depth + 4) (p.toAst n g)
  | .sequence, p => ∀ n g, (p.toAst n g).nesting .cat ≤ 4 * p.depth + 5 ∧
      NestsWithin (4 * p.depth + 6) (p.toAst n g)
  | .alternatives, p => ∀ n g, (p.toAst n g).nesting .alt ≤ 4 * p.depth + 6 ∧
      NestsWithin (4 * p.depth + 7) (p.toAst n g)

theorem NestsWithin.mono {m k : Nat} {a : Ast} (h : NestsWithin m a) (hmk : m ≤ k) :
    NestsWithin k a := fun chain => Nat.le_trans (h chain) hmk

theorem IsShallow.cons (hp : ∀ n g, NestsWithin (4 * p.depth + 5) (p.toAst n g))
    (hq : IsShallow .sequence q) : IsShallow .sequence (.seq p q) := by
  intro n g
  have hitem := hp n g
  rw [toAst, depth]
  split
  · exact ⟨Nat.le_trans (hitem .cat) (by omega), hitem.mono (by omega)⟩
  · have htail := (hq (n + p.arity) (g + p.groups)).1
    have hhead := hitem .none
    refine ⟨?_, fun chain => ?_⟩
    · rw [Ast.nesting, if_pos rfl]
      omega
    · rw [Ast.nesting]
      split <;> omega

theorem IsShallow.bar (hp : IsShallow .sequence p) (hq : IsShallow .alternatives q) :
    IsShallow .alternatives (.alt p q) := by
  intro n g
  have hhead := (hp n g).2 .none
  have htail := (hq (n + p.arity) (g + p.groups)).1
  rw [toAst, depth]
  refine ⟨?_, fun chain => ?_⟩
  · rw [Ast.nesting, if_pos rfl]
    omega
  · rw [Ast.nesting]
    split <;> omega

theorem IsShallow.last (h : IsShallow .sequence p) : IsShallow .alternatives p :=
  fun n g => ⟨(h n g).2 .alt, (h n g).2.mono (Nat.le_succ _)⟩

theorem IsShallow.group (h : IsShallow .alternatives p) : IsShallow .unit (.group p) := by
  intro n g chain
  have hbody := (h n g).2 .none
  rw [toAst, depth, Ast.nesting]
  omega

theorem IsShallow.optional (h : IsShallow .unit p) (n g : Nat) :
    NestsWithin (4 * p.optional.depth + 5) (p.optional.toAst n g) := by
  intro chain
  have hbody := h n g .none
  rw [toAst, depth, Ast.nesting]
  omega

theorem IsShallow.var {d : Declaration} (hd : d.constraint = none) : IsShallow .unit (.var d) := by
  intro n g chain
  rw [toAst, body_of_constraint_eq_none hd]
  show 3 ≤ 4
  decide

theorem Derives.isShallow {k : Phrase} (h : Derives k cs p) (hc : p.constraints = []) :
    IsShallow k p := by
  induction h with
  | last _ ih => exact (ih hc).last
  | bar _ _ ihp ihq =>
    obtain ⟨hcp, hcq⟩ := constraints_alt_eq_nil_iff.1 hc
    exact (ihp hcp).bar (ihq hcq)
  | nil => exact fun n g => ⟨Nat.zero_le _, fun chain => Nat.zero_le _⟩
  | segment _ _ ih => exact (ih hc).cons fun n g chain => (by decide : 2 ≤ 5)
  | directories _ ih => exact (ih hc).cons fun n g chain => (by decide : 5 ≤ 5)
  | anything _ _ ih => exact (ih hc).cons fun n g chain => (by decide : 1 ≤ 5)
  | cons _ _ ihp ihq =>
    obtain ⟨hcp, hcq⟩ := constraints_seq_eq_nil_iff.1 hc
    exact (ihq hcq).cons fun n g => (ihp hcp n g).mono (Nat.le_succ _)
  | consOptional _ _ ihp ihq =>
    obtain ⟨hcp, hcq⟩ := constraints_seq_eq_nil_iff.1 hc
    exact (ihq hcq).cons (ihp hcp).optional
  | fullStop | literal _ | escaped => exact fun n g chain => Nat.zero_le _
  | group _ _ ih => exact (ih hc).group
  | var _ => exact .var rfl
  | constrained _ _ _ => simp [constraints, declarations] at hc

/-- The source of a pattern without constraints is an expression, unless parentheses nest too
deep. -/
theorem Spells.parse_source_of_depth {text : String} (h : Spells text p) (hc : p.constraints = [])
    (hdepth : p.depth ≤ 50) :
    Ast.parse p.source.toList = some (.cat (.assertion .lineStart)
      (.cat (.group [] (p.toAst 0 0)) (.assertion .lineEnd))) := by
  obtain ⟨τ, hrun⟩ := h.succeeds_source hc
  obtain ⟨σ, hreads, hframes, hbody⟩ := h.exists_reads_source (fits_of_constraints_eq_nil hc) hrun
  obtain ⟨fuel, hend⟩ := hreads.run_rest hrun
  obtain rfl := State.run_nil hend
  have hfinish : τ.finish = some (.cat (.assertion .lineStart)
      (.cat (.group [] (p.toAst 0 0)) (.assertion .lineEnd))) := by
    rw [State.finish, hframes, hbody]
    rfl
  have hshallow := (h.isShallow hc 0 0).2 .none
  have hnesting : (Ast.cat (.assertion .lineStart) (.cat (.group [] (p.toAst 0 0))
      (.assertion .lineEnd))).nesting .none ≤ Regex.maxNesting := by
    show max 0 (max ((p.toAst 0 0).nesting .none + 1) 0 + 0) + 1 ≤ 250
    omega
  rw [Ast.parse, hrun]
  show τ.finish.bind _ = _
  rw [hfinish]
  show (if _ then _ else _) = _
  rw [if_pos hnesting]

end

end Pattern

end PathGlob

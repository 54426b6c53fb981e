-- SUMMARY: The regex source of a pattern is parsed into the tree the pattern stands for, constraints included.
import Mathlib.Algebra.GroupWithZero.Nat
import Std.Data.String.ToNat
import PathGlob.Pattern.Source
import PathGlob.Proofs.Pattern.Grammar
import PathGlob.Proofs.Regex.Splicing

/-!
# Reading rendered patterns

`Pattern.toAst` gives the tree that a pattern stands for. Its rendered text is read back as that
tree wherever it stands, under two provisos. No question mark follows that does not belong to it,
since the engine would take one after a quantifier for a sign of laziness. And constraints are
spliced in unread, so each has to be an expression that is read to its end. The engine may still
refuse a text for a name that is given twice, which is why reading follows a run that comes to its
end.
-/

namespace PathGlob

open Regex (Ast State Literal)

namespace Declaration

/-- The regex that the value of a declaration has to match. -/
def source (d : Declaration) : String := d.constraint.getD Pattern.defaultVariable

/-- The tree of a declaration's regex alone. -/
def body (d : Declaration) : Ast := (Ast.parse d.source.toList).getD .empty

/-- The number of groups that a declaration's regex opens. -/
def groups (d : Declaration) : Nat := d.body.captures.length

/-- Whether a declaration's regex can be spliced into a group. -/
def Fits (d : Declaration) : Prop := Ast.Fits d.source.toList d.body

end Declaration

namespace Pattern

/-- The number of groups that a pattern opens. -/
def groups (p : Pattern) : Nat := (p.declarations.map fun d => d.groups + 1).sum

/-- `[^/]` -/
def notSlashAst : Ast := .bracket true (.literal ⟨'/', false⟩)

/-- The tree of the source of a pattern whose first declaration is the `n`-th, with `g` groups
before it. Nothing stands for the end of a sequence that holds anything. -/
def toAst (n g : Nat) : Pattern → Ast
  | .empty => .empty
  | .literal c => .literal ⟨c, false⟩
  | .segment => .repetition 0 none true notSlashAst
  | .directories =>
    .repetition 0 none true
      (.group [] (.cat (.repetition 1 none true notSlashAst) (.literal ⟨'/', false⟩)))
  | .anything => .repetition 0 none true .dot
  | .var d => .capture (g + 1) (some (slotName n)) (d.body.shift (g + 1))
  | .seq p q =>
    if q = .empty then p.toAst n g else .cat (p.toAst n g) (q.toAst (n + p.arity) (g + p.groups))
  | .alt p q => .alt (p.toAst n g) (q.toAst (n + p.arity) (g + p.groups))
  | .group p => .group [] (p.toAst n g)
  | .optional p => .repetition 0 (some 1) true (p.toAst n g)

/-- The trees of the items of a sequence. -/
def itemAsts (n g : Nat) : Pattern → List Ast
  | .seq p q => p.toAst n g :: q.itemAsts (n + p.arity) (g + p.groups)
  | _ => []

theorem groups_seq (p q : Pattern) : (seq p q).groups = p.groups + q.groups := by
  simp [groups, declarations]

theorem ofItems_append_singleton {as : List Ast} (h : as ≠ []) (a : Ast) :
    Ast.ofItems (as ++ [a]) = .cat a (.ofItems as) := by
  cases as with
  | nil => exact absurd rfl h
  | cons b bs => simp [Ast.ofItems, List.foldl_append]

theorem ofItems_itemAsts_seq {cs : List Char} {p q : Pattern} {n g : Nat}
    (hq : Derives .sequence cs q)
    (ih : Ast.ofItems (q.itemAsts (n + p.arity) (g + p.groups)).reverse =
      q.toAst (n + p.arity) (g + p.groups)) :
    Ast.ofItems ((seq p q).itemAsts n g).reverse = (seq p q).toAst n g := by
  rw [itemAsts, List.reverse_cons, toAst]
  split
  · next hempty =>
    subst hempty
    rfl
  · next hempty =>
    have hne : (q.itemAsts (n + p.arity) (g + p.groups)).reverse ≠ [] := by
      cases hq with
      | nil => exact absurd rfl hempty
      | _ => simp [itemAsts]
    rw [ofItems_append_singleton hne, ih]

theorem Derives.ofItems_itemAsts {cs : List Char} {p : Pattern} (h : Derives .sequence cs p)
    (n g : Nat) : Ast.ofItems (p.itemAsts n g).reverse = p.toAst n g := by
  generalize hk : Phrase.sequence = k at h
  induction h generalizing n g with
  | nil => rfl
  | segment _ hq ih | directories hq ih | anything _ hq ih | cons _ hq _ ih
  | consOptional _ hq _ ih => exact ofItems_itemAsts_seq (hk ▸ hq) (ih _ _ hk)
  | _ => cases hk

/-! ## Rendered text -/

section

variable (n : Nat) (p q : Pattern)

theorem render_var (d : Declaration) :
    (Pattern.var d).render n = "(?P<".toList ++ (slotName n).toList ++
      '>' :: d.source.toList ++ [')'] := rfl

theorem render_seq : (seq p q).render n = p.render n ++ q.render (n + p.arity) := rfl

theorem render_alt : (alt p q).render n = p.render n ++ '|' :: q.render (n + p.arity) := rfl

theorem render_group : (group p).render n = "(?:".toList ++ p.render n ++ [')'] := rfl

theorem render_optional : (Pattern.optional p).render n = p.render n ++ ['?'] := rfl

theorem toList_source :
    p.source.toList = "^(?:".toList ++ p.render 0 ++ ")$".toList := String.toList_ofList

end

/-! ## Slots -/

theorem toList_slotName (n : Nat) :
    (slotName n).toList = '_' :: '_' :: 'v' :: 'a' :: 'r' :: Nat.toDigits 10 n := by
  rw [slotName, String.toList_append, show toString n = n.repr from rfl, Nat.toList_repr]
  rfl

theorem readName_append {name : List Char}
    (h : ∀ c ∈ name, c ≠ '>' ∧ Regex.isNameChar false c = true) (rest : List Char) :
    Regex.readName false (name ++ '>' :: rest) = some (name, rest) := by
  induction name with
  | nil => simp [Regex.readName]
  | cons c cs ih =>
    obtain ⟨hne, hc⟩ := h c (by simp)
    rw [List.cons_append, Regex.readName, if_neg hne, if_pos hc, ih fun d hd => h d (by simp [hd])]
    rfl

theorem isNameChar_of_isDigit {c : Char} (h : c.isDigit = true) :
    c ≠ '>' ∧ Regex.isNameChar false c = true := by
  have hlt : c.toNat < 0x80 := by
    simp only [Char.isDigit, Bool.and_eq_true, decide_eq_true_eq] at h
    have hle : c.val.toNat ≤ 57 := UInt32.le_iff_toNat_le.1 h.2
    exact Nat.lt_of_le_of_lt hle (by decide)
  constructor
  · rintro rfl
    exact absurd h (by decide)
  · simp [Regex.isNameChar, Unicode.isNumber, hlt, h]

theorem readName_slotName (n : Nat) (rest : List Char) :
    Regex.readName true ((slotName n).toList ++ '>' :: rest) =
      some ((slotName n).toList, rest) := by
  have htail : ∀ c ∈ '_' :: 'v' :: 'a' :: 'r' :: Nat.toDigits 10 n,
      c ≠ '>' ∧ Regex.isNameChar false c = true := by
    intro c hc
    simp only [List.mem_cons] at hc
    rcases hc with rfl | rfl | rfl | rfl | hc
    iterate 4 exact ⟨by decide, by decide⟩
    exact isNameChar_of_isDigit (Nat.isDigit_of_mem_toDigits (by decide) (by decide) hc)
  rw [toList_slotName, List.cons_append, Regex.readName, readName_append htail rest]
  rfl

/-! ## Small parts -/

theorem readEscape_special {c : Char} (hc : isSpecial c = true) (verbose : Bool)
    (rest : List Char) :
    Regex.readEscape verbose (c :: rest) = some (.literal ⟨c, false⟩, rest) := by
  have hescapable : ("\\.+*?()|[]\x7b\x7d^$".toList.all fun d =>
      decide (d ∉ ['x', 'u', 'U', 'p', 'P', 'b']) && Regex.isEscapable d) = true := by decide
  have hmem := List.all_eq_true.1 hescapable c (List.contains_iff_mem.1 hc)
  rw [Bool.and_eq_true, decide_eq_true_eq] at hmem
  obtain ⟨hne, hesc⟩ := hmem
  simp only [List.mem_cons, List.not_mem_nil, not_or, or_false] at hne
  obtain ⟨h₁, h₂, h₃, h₄, h₅, h₆⟩ := hne
  rw [Regex.readEscape, if_neg h₁, if_neg h₂, if_neg h₃, if_neg h₄, if_neg h₅, if_neg h₆,
    if_pos hesc]

theorem step_literal {c : Char} (hc : ¬ isSpecial c = true) {σ : State} {rest : List Char} :
    σ.step c rest = some (σ.push (.literal ⟨c, false⟩), rest) := by
  have hne (d : Char) (hd : isSpecial d = true) : c ≠ d := fun heq => hc (heq ▸ hd)
  have hmarks : c ∉ State.marks := by
    intro hmem
    have hspecial : State.marks.all isSpecial = true := by decide
    exact hc (List.all_eq_true.1 hspecial c hmem)
  rw [State.step_of_not_mem hmarks, State.itemOf, if_neg (hne '.' (by decide)),
    if_neg (hne '^' (by decide)), if_neg (hne '$' (by decide))]

section

variable {σ : State} {rest : List Char} (hv : σ.verbose = false)
include hv

theorem advances_quoteChar (c : Char) (rest : List Char) :
    State.Advances σ (quoteChar c ++ rest) (σ.push (.literal ⟨c, false⟩)) rest := by
  by_cases hc : isSpecial c = true
  · rw [quoteChar, if_pos hc]
    refine .once hv ?_ (Nat.le_succ _)
    show (Regex.readEscape σ.verbose (c :: rest)).map _ = _
    rw [readEscape_special hc]
    rfl
  · rw [quoteChar, if_neg hc]
    exact .once hv (step_literal hc) (Nat.le_refl _)

theorem advances_class : State.Advances σ ("[^/]".toList ++ rest) (σ.push notSlashAst) rest := by
  refine .once hv ?_ (Nat.le_add_right _ 3)
  show (Regex.readBracket σ.verbose _).map _ = _
  rw [hv]
  rfl

/-- A quantifier applies to the last item. -/
theorem advances_quantifier {min : Nat} {max : Option Nat} {c : Char}
    (hc : (c, min, max) ∈ [('*', 0, none), ('+', 1, none), ('?', 0, some 1)])
    (hrest : rest.head? ≠ some '?') {a : Ast} {as : List Ast} (hitems : σ.items = a :: as)
    (ha : ∀ s, a ≠ .settings s) :
    State.Advances σ (c :: rest) { σ with items := .repetition min max true a :: as } rest := by
  have hgreed : Regex.readGreed σ min max rest =
      some ({ σ with items := .repetition min max true a :: as }, rest) := by
    unfold Regex.readGreed
    split
    · exact absurd rfl hrest
    · simp [State.repeatLast, hitems]
  refine .once hv ?_ (Nat.le_refl _)
  simp only [List.mem_cons, List.not_mem_nil, or_false, Prod.mk.injEq] at hc
  obtain ⟨rfl, rfl, rfl⟩ | ⟨rfl, rfl, rfl⟩ | ⟨rfl, rfl, rfl⟩ := hc <;> exact hgreed

theorem advances_classes {min : Nat} {c : Char} (hc : (c, min) ∈ [('*', 0), ('+', 1)])
    (hrest : rest.head? ≠ some '?') :
    State.Advances σ ("[^/]".toList ++ c :: rest)
      (σ.push (.repetition min none true notSlashAst)) rest := by
  refine (advances_class hv).trans
    (advances_quantifier (σ := σ.push notSlashAst) hv ?_ hrest rfl nofun)
  simp only [List.mem_cons, List.not_mem_nil, or_false, Prod.mk.injEq] at hc ⊢
  grind

theorem advances_openGroup (rest : List Char) :
    State.Advances σ ("(?:".toList ++ rest) (σ.openGroup (.plain []) σ.verbose) rest := by
  refine .once hv ?_ (Nat.le_add_right _ 2)
  show Regex.readGroup σ _ = _
  rw [Regex.readGroup, Regex.skip, hv]
  rfl

theorem advances_closeGroup {f : Regex.Frame} {fs : List Regex.Frame} (hf : σ.frames = f :: fs)
    (rest : List Char) :
    State.Advances σ (')' :: rest) { σ with
      frames := fs
      branches := f.branches
      items := f.kind.close σ.body :: f.items
      verbose := f.verbose } rest := by
  refine .once hv ?_ (Nat.le_refl _)
  show σ.closeGroup.map _ = _
  rw [State.closeGroup, hf]
  rfl

/-- The group of a declaration opens unless its name is taken. -/
theorem step_openSlot (n : Nat) (rest : List Char) :
    σ.step '(' ('?' :: 'P' :: '<' :: ((slotName n).toList ++ '>' :: rest)) =
      if σ.names.contains (slotName n) then none
      else some (σ.openCapture (some (slotName n)), rest) := by
  show Regex.readGroup σ _ = _
  rw [Regex.readGroup, Regex.skip, hv]
  show Regex.openNamed σ _ = _
  rw [Regex.openNamed, readName_slotName]
  show (if σ.names.contains (String.ofList (slotName n).toList) then none else _) = _
  rw [String.ofList_toList]

theorem advances_openSlot {n : Nat} (hnew : slotName n ∉ σ.names) :
    State.Advances σ ("(?P<".toList ++ (slotName n).toList ++ '>' :: rest)
      (σ.openCapture (some (slotName n))) rest := by
  rw [List.append_assoc]
  refine .once hv ?_ (by simp; omega)
  show σ.step '(' ('?' :: 'P' :: '<' :: ((slotName n).toList ++ '>' :: rest)) = _
  rw [step_openSlot hv, if_neg (by simpa using hnew)]

/-- A name that is taken would have ended the run. -/
theorem reads_openSlot {n fuel : Nat} {τ : State}
    (h : State.run fuel σ ("(?P<".toList ++ (slotName n).toList ++ '>' :: rest) = some τ) :
    State.Reads σ ("(?P<".toList ++ (slotName n).toList ++ '>' :: rest)
      (σ.openCapture (some (slotName n))) rest := by
  by_cases hnew : slotName n ∈ σ.names
  · rw [List.append_assoc] at h
    obtain ⟨-, -, ⟨hskip, -⟩ | ⟨c, ds, σ', rest', hskip, hstep, -⟩⟩ := State.run_eq_some_cases h
    · rw [hv] at hskip
      cases hskip
    · rw [hv] at hskip
      cases hskip
      change σ.step '(' ('?' :: 'P' :: '<' :: ((slotName n).toList ++ '>' :: rest)) = _ at hstep
      rw [step_openSlot hv, if_pos (by simpa using hnew)] at hstep
      cases hstep
  · exact (advances_openSlot hv hnew).reads

section

variable (hrest : rest.head? ≠ some '?') {n g : Nat}
include hrest

theorem advances_segment :
    State.Advances σ (Pattern.segment.render n ++ rest) (σ.push (Pattern.segment.toAst n g)) rest :=
  advances_classes hv (show ('*', 0) ∈ _ by simp) hrest

theorem advances_anything : State.Advances σ (Pattern.anything.render n ++ rest)
    (σ.push (Pattern.anything.toAst n g)) rest := by
  have hdot : State.Advances σ (".*".toList ++ rest) (σ.push .dot) ('*' :: rest) :=
    .once hv rfl (Nat.le_refl _)
  exact hdot.trans (advances_quantifier (σ := σ.push .dot) hv (by simp) hrest rfl nofun)

theorem advances_directories : State.Advances σ (Pattern.directories.render n ++ rest)
    (σ.push (Pattern.directories.toAst n g)) rest := by
  have hopen := advances_openGroup hv ("[^/]".toList ++ '+' :: '/' :: ')' :: '*' :: rest)
  have hclasses := advances_classes (σ := σ.openGroup (.plain []) σ.verbose) hv
    (show ('+', 1) ∈ _ by simp) (show ('/' :: ')' :: '*' :: rest).head? ≠ some '?' by simp)
  have hslash := advances_quoteChar (σ := (σ.openGroup (.plain []) σ.verbose).push
    (.repetition 1 none true notSlashAst)) hv '/' (')' :: '*' :: rest)
  have hclose := advances_closeGroup (σ := ((σ.openGroup (.plain []) σ.verbose).push
    (.repetition 1 none true notSlashAst)).push (.literal ⟨'/', false⟩)) hv rfl ('*' :: rest)
  have hstar := advances_quantifier (σ := σ.push (.group [] (.cat (.repetition 1 none true
    notSlashAst) (.literal ⟨'/', false⟩)))) hv (show ('*', 0, none) ∈ _ by simp) hrest rfl nofun
  exact (((hopen.trans hclasses).trans hslash).trans hclose).trans hstar

end

end

/-! ## Phrases -/

/-- Whether a state is another one after some items that opened `k` groups. -/
structure Adds (σ : State) (as : List Ast) (k : Nat) (τ : State) : Prop where
  frames : τ.frames = σ.frames
  branches : τ.branches = σ.branches
  items : τ.items = as.reverse ++ σ.items
  plain : τ.verbose = false
  captures : τ.captures = σ.captures + k

/-- Whether some text is read up to a rest of it as some items that open `k` groups. -/
def ReadsAs (σ : State) (cs rest : List Char) (as : List Ast) (k : Nat) : Prop :=
  ∃ τ, State.Reads σ cs τ rest ∧ Adds σ as k τ

section

variable {σ τ : State} {cs ds rest : List Char} {as bs : List Ast} {k l fuel : Nat}

theorem ReadsAs.refl (hv : σ.verbose = false) (cs : List Char) : ReadsAs σ cs cs [] 0 :=
  ⟨σ, .refl σ cs, rfl, rfl, rfl, hv, rfl⟩

theorem ReadsAs.push {a : Ast} (hv : σ.verbose = false) (h : State.Advances σ cs (σ.push a) rest) :
    ReadsAs σ cs rest [a] 0 :=
  ⟨_, h.reads, rfl, rfl, rfl, hv, rfl⟩

/-- Text after which a run goes on with more of it. -/
theorem ReadsAs.trans (h : ReadsAs σ cs ds as k) (hrun : State.run fuel σ cs = some τ)
    (hnext : ∀ σ' fuel', Adds σ as k σ' → State.run fuel' σ' ds = some τ →
      ReadsAs σ' ds rest bs l) : ReadsAs σ cs rest (as ++ bs) (k + l) := by
  obtain ⟨σ', hreads, hadds⟩ := h
  obtain ⟨fuel', hrun'⟩ := hreads.run_rest hrun
  obtain ⟨σ₁, hreads', hadds'⟩ := hnext σ' fuel' hadds hrun'
  refine ⟨σ₁, hreads.trans hreads', hadds'.frames.trans hadds.frames,
    hadds'.branches.trans hadds.branches, ?_, hadds'.plain, ?_⟩
  · rw [hadds'.items, hadds.items, List.reverse_append, List.append_assoc]
  · rw [hadds'.captures, hadds.captures, Nat.add_assoc]

end

theorem constraints_seq_eq_nil_iff {p q : Pattern} :
    (seq p q).constraints = [] ↔ p.constraints = [] ∧ q.constraints = [] := by
  have happend : (seq p q).constraints = p.constraints ++ q.constraints := List.filterMap_append
  rw [happend, List.append_eq_nil_iff]

theorem constraints_alt_eq_nil_iff {p q : Pattern} :
    (alt p q).constraints = [] ↔ p.constraints = [] ∧ q.constraints = [] := constraints_seq_eq_nil_iff

theorem Derives.head?_render_unit {cs : List Char} {p : Pattern} (h : Derives .unit cs p)
    (n : Nat) (rest : List Char) : (p.render n ++ rest).head? ≠ some '?' := by
  have hquote (c : Char) : (quoteChar c ++ rest).head? ≠ some '?' := by
    by_cases hc : isSpecial c = true
    · simp [quoteChar, hc]
    · rw [quoteChar, if_neg hc]
      simp only [List.cons_append, List.head?_cons, Option.some.injEq, ne_eq]
      rintro rfl
      exact hc (by decide)
  cases h with
  | fullStop | literal _ | escaped => exact hquote _
  | group _ _ | var _ | constrained _ _ _ => exact fun h => absurd (Option.some.inj h) (by decide)

theorem Derives.head?_render {cs : List Char} {p : Pattern} (h : Derives .sequence cs p) (n : Nat)
    {rest : List Char} (hrest : rest.head? ≠ some '?') :
    (p.render n ++ rest).head? ≠ some '?' := by
  cases h with
  | nil => exact hrest
  | segment _ _ | directories _ | anything _ _ =>
    exact fun h => absurd (Option.some.inj h) (by decide)
  | cons hp _ =>
    rw [render_seq, List.append_assoc]
    exact hp.head?_render_unit n _
  | consOptional hp _ =>
    rw [render_seq, render_optional, List.append_assoc, List.append_assoc]
    exact hp.head?_render_unit n _

/-- What reading a rendered phrase in front of more text does to the parser. -/
def IsRead : Phrase → Pattern → Prop
  | .unit, p => ∀ n σ rest fuel τ, σ.verbose = false →
      State.run fuel σ (p.render n ++ rest) = some τ →
      ReadsAs σ (p.render n ++ rest) rest [p.toAst n σ.captures] p.groups
  | .sequence, p => ∀ n σ rest fuel τ, σ.verbose = false → rest.head? ≠ some '?' →
      State.run fuel σ (p.render n ++ rest) = some τ →
      ReadsAs σ (p.render n ++ rest) rest (p.itemAsts n σ.captures) p.groups
  | .alternatives, p => ∀ n σ rest fuel τ, σ.verbose = false → rest.head? ≠ some '?' →
      σ.items = [] → State.run fuel σ (p.render n ++ rest) = some τ →
      ∃ σ', State.Reads σ (p.render n ++ rest) σ' rest ∧
        σ'.body = σ.branches.foldl (fun b branch => .alt branch b) (p.toAst n σ.captures) ∧
          σ'.frames = σ.frames ∧ σ'.verbose = false ∧ σ'.captures = σ.captures + p.groups

section

variable {cs : List Char} {p q : Pattern}

/-- A declaration's regex ends where it is spliced in. -/
theorem IsRead.var {d : Declaration} (hfits : d.Fits) : IsRead .unit (.var d) := by
  intro n σ rest fuel τ hv h
  have htext : (Pattern.var d).render n ++ rest = "(?P<".toList ++ (slotName n).toList ++
      '>' :: (d.source.toList ++ ')' :: rest) := by
    rw [render_var, List.append_assoc, List.append_assoc]
    simp
  rw [htext] at h ⊢
  have hopen := reads_openSlot hv h
  obtain ⟨fuel', hspliced⟩ := hopen.run_rest h
  obtain ⟨σ₁, hcompletes, hframes, hbody, hcaptures⟩ := hfits
  have hmirrors : State.Mirrors (σ.captures + 1) (_ :: σ.frames) {}
      (σ.openCapture (some (slotName n))) := ⟨rfl, rfl, rfl, hv, (Nat.zero_add _).symm⟩
  obtain ⟨names, hclose⟩ := hcompletes.reads_close hframes hmirrors hspliced
  refine ⟨_, hopen.trans hclose, rfl, rfl, ?_, hv, ?_⟩
  · rw [hbody]
    rfl
  · show σ₁.captures + (σ.captures + 1) = σ.captures + (d.body.captures.length + 1 + 0)
    rw [hcaptures]
    omega

theorem IsRead.group (h : IsRead .alternatives p) : IsRead .unit (.group p) := by
  intro n σ rest fuel τ hv hrun
  have htext :
      (Pattern.group p).render n ++ rest = "(?:".toList ++ (p.render n ++ ')' :: rest) := by
    rw [render_group, List.append_assoc, List.append_assoc]
    rfl
  rw [htext] at hrun ⊢
  have hopen := (advances_openGroup hv (p.render n ++ ')' :: rest)).reads
  obtain ⟨fuel', hrun⟩ := hopen.run_rest hrun
  obtain ⟨σ', hbody, heq, hframes, hv', hcaptures⟩ :=
    h n (σ.openGroup (.plain []) σ.verbose) (')' :: rest) fuel' τ hv (by simp) rfl hrun
  have hclose := (advances_closeGroup hv' (hframes.trans rfl) rest).reads
  refine ⟨_, (hopen.trans hbody).trans hclose, rfl, rfl, ?_, hv, hcaptures⟩
  rw [heq]
  rfl

/-- An item in front of a sequence. -/
theorem IsRead.cons (hq : IsRead .sequence q) (hd : Derives .sequence cs q)
    (hp : ∀ n σ rest fuel τ, σ.verbose = false → rest.head? ≠ some '?' →
      State.run fuel σ (p.render n ++ rest) = some τ →
      ReadsAs σ (p.render n ++ rest) rest [p.toAst n σ.captures] p.groups) :
    IsRead .sequence (.seq p q) := by
  intro n σ rest fuel τ hv hrest hrun
  rw [render_seq, List.append_assoc] at hrun ⊢
  rw [groups_seq]
  refine (hp n σ _ fuel τ hv (hd.head?_render _ hrest) hrun).trans hrun ?_
  intro σ' fuel' hadds hrun'
  rw [← hadds.captures]
  exact hq _ σ' rest fuel' τ hadds.plain hrest hrun'

theorem IsRead.optional (h : IsRead .unit p) (hd : Derives .unit cs p) {n fuel : Nat} {σ τ : State}
    {rest : List Char} (hv : σ.verbose = false) (hrest : rest.head? ≠ some '?')
    (hrun : State.run fuel σ ((Pattern.optional p).render n ++ rest) = some τ) :
    ReadsAs σ ((Pattern.optional p).render n ++ rest) rest
      [(Pattern.optional p).toAst n σ.captures] (Pattern.optional p).groups := by
  rw [render_optional, List.append_assoc] at hrun ⊢
  obtain ⟨σ', hunit, hadds⟩ := h n σ ('?' :: rest) fuel τ hv hrun
  have hne (s) : p.toAst n σ.captures ≠ .settings s := by
    cases hd <;> exact nofun
  have hmark := advances_quantifier hadds.plain (show ('?', 0, some 1) ∈ _ by simp) hrest
    hadds.items hne
  exact ⟨_, hunit.trans hmark.reads, hadds.frames, hadds.branches, rfl, hadds.plain, hadds.captures⟩

theorem IsRead.last (h : IsRead .sequence p) (hd : Derives .sequence cs p) :
    IsRead .alternatives p := by
  intro n σ rest fuel τ hv hrest hitems hrun
  obtain ⟨σ', hreads, hadds⟩ := h n σ rest fuel τ hv hrest hrun
  refine ⟨σ', hreads, ?_, hadds.frames, hadds.plain, hadds.captures⟩
  rw [State.body, hadds.items, hadds.branches, hitems, List.append_nil, hd.ofItems_itemAsts]
  rfl

theorem IsRead.bar (hp : IsRead .sequence p) (hd : Derives .sequence cs p)
    (hq : IsRead .alternatives q) : IsRead .alternatives (.alt p q) := by
  intro n σ rest fuel τ hv hrest hitems hrun
  rw [render_alt, List.append_assoc, List.cons_append] at hrun ⊢
  obtain ⟨σ₁, hfirst, hadds⟩ := hp n σ _ fuel τ hv (by simp) hrun
  have hbar : State.Reads σ₁ ('|' :: (q.render (n + p.arity) ++ rest)) σ₁.alternate
      (q.render (n + p.arity) ++ rest) := .once hadds.plain rfl
  obtain ⟨fuel', hrun⟩ := (hfirst.trans hbar).run_rest hrun
  obtain ⟨σ', hthen, hbody, hframes, hv', hcaptures⟩ :=
    hq (n + p.arity) σ₁.alternate rest fuel' τ hadds.plain hrest rfl hrun
  refine ⟨σ', (hfirst.trans hbar).trans hthen, ?_, hframes.trans hadds.frames, hv', ?_⟩
  · rw [hbody]
    show List.foldl _ (q.toAst _ σ₁.captures) (Ast.ofItems σ₁.items :: σ₁.branches) = _
    rw [hadds.items, hadds.branches, hadds.captures, hitems, List.append_nil, hd.ofItems_itemAsts]
    rfl
  · show _ = σ.captures + (seq p q).groups
    rw [hcaptures, groups_seq, ← Nat.add_assoc, ← hadds.captures]
    rfl

/-- Induction on the derivation; regexes of declarations are the only texts that are spliced in. -/
theorem Derives.isRead {k : Phrase} (h : Derives k cs p) (hfits : ∀ d ∈ p.declarations, d.Fits) :
    IsRead k p := by
  induction h with
  | last hp ih => exact (ih hfits).last hp
  | bar hp _ ihp ihq =>
    obtain ⟨hfitsp, hfitsq⟩ := List.forall_mem_append.1 hfits
    exact (ihp hfitsp).bar hp (ihq hfitsq)
  | nil => exact fun n σ rest _ _ hv _ _ => .refl hv rest
  | segment _ hq ih =>
    exact (ih hfits).cons hq fun _ _ _ _ _ hv hrest _ => .push hv (advances_segment hv hrest)
  | directories hq ih =>
    exact (ih hfits).cons hq fun _ _ _ _ _ hv hrest _ =>
      .push hv (advances_directories hv hrest)
  | anything _ hq ih =>
    exact (ih hfits).cons hq fun _ _ _ _ _ hv hrest _ => .push hv (advances_anything hv hrest)
  | cons _ hq ihp ihq =>
    obtain ⟨hfitsp, hfitsq⟩ := List.forall_mem_append.1 hfits
    exact (ihq hfitsq).cons hq fun n σ rest fuel τ hv _ => ihp hfitsp n σ rest fuel τ hv
  | consOptional hp hq ihp ihq =>
    obtain ⟨hfitsp, hfitsq⟩ := List.forall_mem_append.1 hfits
    exact (ihq hfitsq).cons hq fun _ _ _ _ _ hv hrest => (ihp hfitsp).optional hp hv hrest
  | fullStop | literal _ | escaped =>
    exact fun n σ rest _ _ hv _ => .push hv (advances_quoteChar hv _ rest)
  | group _ _ ih => exact (ih hfits).group
  | var _ | constrained _ _ _ => exact .var (List.forall_mem_singleton.1 hfits)

/-- The start of an anchored source. -/
theorem advances_anchor (p : Pattern) :
    State.Advances {} p.source.toList
      ((State.push {} (.assertion .lineStart)).openGroup (.plain []) false)
      (p.render 0 ++ ")$".toList) := by
  have hsource : p.source.toList = '^' :: ("(?:".toList ++ (p.render 0 ++ ")$".toList)) := by
    have hopening : "^(?:".toList = '^' :: "(?:".toList := by decide
    rw [toList_source, hopening, List.append_assoc, List.cons_append]
  have hstart : State.Advances {} p.source.toList (State.push {} (.assertion .lineStart))
      ("(?:".toList ++ (p.render 0 ++ ")$".toList)) := hsource ▸ .once rfl rfl (Nat.le_refl _)
  exact hstart.trans (advances_openGroup (σ := State.push {} (.assertion .lineStart)) rfl _)

/-- An anchored source that is read to its end is read as the group of its pattern between
anchors. -/
theorem Spells.exists_reads_source {text : String} {fuel : Nat} {τ : State} (h : Spells text p)
    (hfits : ∀ d ∈ p.declarations, d.Fits)
    (hrun : State.run fuel {} p.source.toList = some τ) :
    ∃ σ, State.Reads {} p.source.toList σ [] ∧ σ.frames = [] ∧ σ.body =
      .cat (.assertion .lineStart) (.cat (.group [] (p.toAst 0 0)) (.assertion .lineEnd)) := by
  have hanchor := (advances_anchor p).reads
  obtain ⟨fuel, hrun⟩ := hanchor.run_rest hrun
  obtain ⟨σ, hbody, heq, hframes, hv, hcaptures⟩ :=
    h.isRead hfits 0 _ ")$".toList fuel τ rfl (by decide) rfl hrun
  have hclose := (advances_closeGroup hv (hframes.trans rfl) ['$']).reads
  have hread := (hanchor.trans hbody).trans hclose
  rw [heq] at hread
  exact ⟨_, hread.trans (.once rfl rfl), rfl, rfl⟩

/-- The tree of an anchored source. -/
theorem Spells.parse_source {text : String} {a : Ast} (h : Spells text p)
    (hfits : ∀ d ∈ p.declarations, d.Fits) (ha : Ast.parse p.source.toList = some a) :
    a = .cat (.assertion .lineStart) (.cat (.group [] (p.toAst 0 0)) (.assertion .lineEnd)) := by
  obtain ⟨τ, hrun, -, -⟩ := Ast.parse_eq_some ha
  obtain ⟨σ, hreads, -, hbody⟩ := h.exists_reads_source hfits hrun
  exact (Ast.parse_of_reads ha hreads).2.trans hbody

end

/-! ## Unconstrained declarations -/

section

variable {d : Declaration} {p : Pattern}

theorem body_of_constraint_eq_none (h : d.constraint = none) :
    d.body = .repetition 1 none true notSlashAst := by
  rw [Declaration.body, Declaration.source, h]
  rfl

theorem fits_of_constraint_eq_none (h : d.constraint = none) : d.Fits := by
  have hbody := body_of_constraint_eq_none h
  refine Ast.fits_of_not_turnsOn ?_ ?_
  · rw [hbody, Declaration.source, h]
    rfl
  · rw [hbody]
    rfl

theorem groups_of_constraint_eq_none (h : d.constraint = none) : d.groups = 0 := by
  rw [Declaration.groups, body_of_constraint_eq_none h]
  rfl

theorem constraint_eq_none (hc : p.constraints = []) : ∀ d ∈ p.declarations, d.constraint = none :=
  fun d hd => Option.map_eq_none_iff.1 (List.filterMap_eq_nil_iff.1 hc d hd)

theorem fits_of_constraints_eq_nil (hc : p.constraints = []) : ∀ d ∈ p.declarations, d.Fits :=
  fun d hd => fits_of_constraint_eq_none (constraint_eq_none hc d hd)

theorem groups_eq_arity (hc : p.constraints = []) : p.groups = p.arity := by
  have hone : p.declarations.map (fun d => d.groups + 1) = p.declarations.map fun _ => 1 := by
    refine List.map_congr_left fun d hd => ?_
    rw [groups_of_constraint_eq_none (constraint_eq_none hc d hd)]
  rw [groups, hone, List.map_const', List.sum_replicate_nat, Nat.mul_one, length_declarations]

end

end Pattern

end PathGlob

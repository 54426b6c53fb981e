-- SUMMARY: How normal form puts expressions together, and what follows for whatever respects sequences and choices.
import Mathlib.Data.List.SplitBy
import PathGlob.Regex.Normal

/-!
# The shape of normal form

Normal form takes sequences and choices apart and puts them together again, so it keeps every
property and every meaning that goes by their members. `Hereditary` is for properties and
`Respects` for meanings.
-/

namespace PathGlob

namespace Regex

theorem flatten_pieces (r : Regex Atom) : r.pieces.flatten = r.parts := List.flatten_splitBy _ _

/-! ## Alternatives -/

section

variable {α : Type} [DecidableEq α]

theorem commonPrefix_prefix_left (as bs : List α) : commonPrefix as bs <+: as := by
  induction as generalizing bs with
  | nil => exact List.nil_prefix
  | cons a as ih =>
    cases bs with
    | nil => exact List.nil_prefix
    | cons b bs =>
      by_cases h : a = b
      · rw [commonPrefix, if_pos h]
        exact List.cons_prefix_cons.2 ⟨rfl, ih bs⟩
      · rw [commonPrefix, if_neg h]
        exact List.nil_prefix

theorem commonPrefix_prefix_right (as bs : List α) : commonPrefix as bs <+: bs := by
  induction as generalizing bs with
  | nil => exact List.nil_prefix
  | cons a as ih =>
    cases bs with
    | nil => exact List.nil_prefix
    | cons b bs =>
      by_cases h : a = b
      · rw [commonPrefix, if_pos h]
        exact List.cons_prefix_cons.2 ⟨h, ih bs⟩
      · rw [commonPrefix, if_neg h]
        exact List.nil_prefix

theorem foldl_commonPrefix_prefix (as : List α) (bss : List (List α)) :
    bss.foldl commonPrefix as <+: as ∧ ∀ bs ∈ bss, bss.foldl commonPrefix as <+: bs := by
  induction bss generalizing as with
  | nil => exact ⟨List.prefix_refl as, nofun⟩
  | cons bs bss ih =>
    obtain ⟨hhead, htail⟩ := ih (commonPrefix as bs)
    refine ⟨hhead.trans (commonPrefix_prefix_left as bs), fun cs hcs => ?_⟩
    rcases List.mem_cons.1 hcs with rfl | hcs
    · exact hhead.trans (commonPrefix_prefix_right as cs)
    · exact htail cs hcs

end

theorem sharedPieces_prefix {pss : List (List (List (Regex Atom)))} {ps : List (List (Regex Atom))}
    (h : ps ∈ pss) : sharedPieces pss <+: ps := by
  cases pss with
  | nil => cases h
  | cons qs qss =>
    obtain ⟨hhead, htail⟩ := foldl_commonPrefix_prefix qs qss
    rcases List.mem_cons.1 h with rfl | h
    · exact hhead
    · exact htail ps h

/-- What all alternatives of some expressions begin with, if it is taken once before choosing. -/
def shared (rs : List (Regex Atom)) : List (List (Regex Atom)) :=
  if rs.length = 1 then []
  else if ((rs.flatMap branches).map pieces).all fun ps => 1 < ps.length then
    sharedPieces ((rs.flatMap branches).map pieces)
  else []

theorem shared_prefix_pieces {rs : List (Regex Atom)} {r : Regex Atom}
    (hr : r ∈ rs.flatMap branches) :
    shared rs <+: r.pieces := by
  unfold shared
  split
  · exact List.nil_prefix
  · split
    · exact sharedPieces_prefix (List.mem_map_of_mem hr)
    · exact List.nil_prefix

theorem shared_eq_nil {rs : List (Regex Atom)} (h : rs.flatMap branches = []) : shared rs = [] := by
  simp [shared, h, sharedPieces]

theorem exists_of_mem_shared {rs : List (Regex Atom)} {piece : List (Regex Atom)}
    (h : piece ∈ shared rs) : ∃ r ∈ rs.flatMap branches, piece ∈ r.pieces := by
  cases hbranches : rs.flatMap branches with
  | nil =>
    rw [shared_eq_nil hbranches] at h
    cases h
  | cons r rs' =>
    have hr : r ∈ rs.flatMap branches := by simp [hbranches]
    exact ⟨r, by simp, (shared_prefix_pieces hr).subset h⟩

/-- What is left of the alternatives of some expressions after what they share. -/
def rests (rs : List (Regex Atom)) : List (Regex Atom) :=
  (rs.flatMap branches).map fun r => ofPieces (r.pieces.drop (shared rs).length)

theorem set?_eq_some {r : Regex Atom} {s : CharSet} (h : r.set? = some s) :
    ∃ ascii, r = .atom (.char s ascii) := by
  unfold set? at h
  split at h
  · next ascii =>
    cases h
    exact ⟨ascii, rfl⟩
  · cases h

/-- What a choice is built as. -/
inductive IsChoice (rs : List (Regex Atom)) : Regex Atom → Prop
  | branches : IsChoice rs (ofBranches rs)
  | joined {ss : List CharSet} : rs.mapM set? = some ss → IsChoice rs (ofSet (.unions ss))

theorem isChoice (rs : List (Regex Atom)) : IsChoice rs (choice rs) := by
  unfold choice
  cases h : joined? rs with
  | none => exact .branches
  | some s =>
    unfold joined? at h
    split at h
    · obtain ⟨ss, hss, rfl⟩ := Option.map_eq_some_iff.1 h
      exact .joined hss
    · cases h

/-- What may be left out stays a repetition, whether or not it takes characters. -/
theorem repeated_optional (greedy : Bool) (r : Regex Atom) :
    repeated 0 (some 1) greedy r = .repetition 0 (some 1) greedy r := by
  unfold repeated
  cases r.isStill <;> rfl

theorem alternation_eq {rs : List (Regex Atom)} (h : rs.length ≠ 1) : alternation rs =
    if (shared rs).isEmpty then choice (rs.flatMap branches)
    else (ofPieces (shared rs)).append (choice ((rests rs).flatMap branches)) := by
  have hshared : (if ((rs.flatMap branches).map pieces).all fun ps => 1 < ps.length then
      sharedPieces ((rs.flatMap branches).map pieces) else []) = shared rs := by
    rw [shared, if_neg h]
  unfold alternation
  split
  · exact absurd rfl h
  · dsimp only
    rw [hshared, List.map_map]
    rfl

/-- What an alternation is built as. -/
inductive IsAlternation (rs : List (Regex Atom)) : Regex Atom → Prop
  | single {r : Regex Atom} : rs = [r] → IsAlternation rs r
  | choice : IsAlternation rs (choice (rs.flatMap branches))
  | shared : IsAlternation rs
      ((ofPieces (shared rs)).append (Regex.choice ((rests rs).flatMap branches)))

theorem isAlternation (rs : List (Regex Atom)) : IsAlternation rs (alternation rs) := by
  by_cases h : rs.length = 1
  · obtain ⟨r, rfl⟩ := List.length_eq_one_iff.1 h
    exact .single rfl
  · rw [alternation_eq h]
    split
    · exact .choice
    · exact .shared

/-! ## What parts have in common -/

/-- Whether a sequence or choice has a property just if its members have it, and sets that have it
can be joined. -/
structure Hereditary (Q : Regex Atom → Prop) : Prop where
  empty : Q .empty
  never : Q never
  joined {rs : List (Regex Atom)} {ss : List CharSet} :
    (∀ r ∈ rs, Q r) → rs.mapM set? = some ss → Q (ofSet (.unions ss))
  cat (r s : Regex Atom) : Q (.cat r s) ↔ Q r ∧ Q s
  alt (r s : Regex Atom) : Q (.alt r s) ↔ Q r ∧ Q s

namespace Hereditary

variable {Q : Regex Atom → Prop} (hQ : Hereditary Q) {r s : Regex Atom} {rs : List (Regex Atom)}
include hQ

theorem append (hr : Q r) (hs : Q s) : Q (r.append s) := by
  induction r with
  | empty => exact hs
  | cat r r' _ ih =>
    obtain ⟨hr, hr'⟩ := (hQ.cat _ _).1 hr
    exact (hQ.cat _ _).2 ⟨hr, ih hr'⟩
  | _ =>
    cases s with
    | empty => exact hr
    | _ => exact (hQ.cat _ _).2 ⟨hr, hs⟩

theorem parts (hr : Q r) : ∀ s ∈ r.parts, Q s := by
  induction r with
  | empty => exact nofun
  | cat r r' _ ih =>
    obtain ⟨hr, hr'⟩ := (hQ.cat _ _).1 hr
    exact List.forall_mem_cons.2 ⟨hr, ih hr'⟩
  | _ => exact List.forall_mem_singleton.2 hr

theorem ofParts (h : ∀ r ∈ rs, Q r) : Q (ofParts rs) := by
  induction rs with
  | nil => exact hQ.empty
  | cons r rs ih =>
    obtain ⟨hr, hrs⟩ := List.forall_mem_cons.1 h
    cases rs with
    | nil => exact hr
    | cons s rs => exact (hQ.cat _ _).2 ⟨hr, ih hrs⟩

/-- Any pieces of expressions, put together. -/
theorem ofPieces {ps : List (List (Regex Atom))} (h : ∀ piece ∈ ps, ∃ r, Q r ∧ piece ∈ r.pieces) :
    Q (ofPieces ps) := by
  refine hQ.ofParts fun s hs => ?_
  obtain ⟨piece, hpiece, hs⟩ := List.mem_flatten.1 hs
  obtain ⟨r, hr, hpiece⟩ := h piece hpiece
  refine hQ.parts hr s ?_
  rw [← flatten_pieces]
  exact List.mem_flatten.2 ⟨piece, hpiece, hs⟩

theorem branches (hr : Q r) : ∀ s ∈ r.branches, Q s := by
  induction r with
  | alt r s _ ih =>
    obtain ⟨hr, hs⟩ := (hQ.alt _ _).1 hr
    exact List.forall_mem_cons.2 ⟨hr, ih hs⟩
  | _ => exact List.forall_mem_singleton.2 hr

theorem flatMap_branches (h : ∀ r ∈ rs, Q r) : ∀ s ∈ rs.flatMap Regex.branches, Q s := by
  intro s hs
  obtain ⟨r, hr, hs⟩ := List.mem_flatMap.1 hs
  exact hQ.branches (h r hr) s hs

theorem ofBranches (h : ∀ r ∈ rs, Q r) : Q (ofBranches rs) := by
  induction rs with
  | nil => exact hQ.never
  | cons r rs ih =>
    obtain ⟨hr, hrs⟩ := List.forall_mem_cons.1 h
    cases rs with
    | nil => exact hr
    | cons s rs => exact (hQ.alt _ _).2 ⟨hr, ih hrs⟩

theorem choice (h : ∀ r ∈ rs, Q r) : Q (choice rs) := by
  have hbuilt := isChoice rs
  generalize Regex.choice rs = r at hbuilt
  cases hbuilt with
  | branches => exact hQ.ofBranches h
  | joined hss => exact hQ.joined h hss

theorem alternation (h : ∀ r ∈ rs, Q r) : Q (alternation rs) := by
  have hbuilt := isAlternation rs
  generalize Regex.alternation rs = r at hbuilt
  have hbranches := hQ.flatMap_branches h
  cases hbuilt with
  | single hrs => exact h r (by simp [hrs])
  | choice => exact hQ.choice hbranches
  | shared =>
    have hrests : ∀ r ∈ rests rs, Q r := by
      intro r hr
      obtain ⟨s, hs, rfl⟩ := List.mem_map.1 hr
      exact hQ.ofPieces fun piece hpiece => ⟨s, hbranches s hs, List.mem_of_mem_drop hpiece⟩
    refine hQ.append (hQ.ofPieces fun piece hpiece => ?_) (hQ.choice (hQ.flatMap_branches hrests))
    obtain ⟨s, hs, hpiece⟩ := exists_of_mem_shared hpiece
    exact ⟨s, hbranches s hs, hpiece⟩

end Hereditary

/-! ## Meanings -/

/-- Meanings of sequences and choices. -/
structure Joining (M : Type) where
  stay : M
  seq : M → M → M
  never : M
  either : M → M → M
  stay_seq : ∀ T, seq stay T = T
  seq_stay : ∀ T, seq T stay = T
  seq_assoc : ∀ T U V, seq (seq T U) V = seq T (seq U V)
  never_either : ∀ T, either never T = T
  either_never : ∀ T, either T never = T
  either_assoc : ∀ T U V, either (either T U) V = either T (either U V)

namespace Joining

variable {M : Type} (J : Joining M)

def seqOf (Ts : List M) : M := Ts.foldr J.seq J.stay

def anyOf (Ts : List M) : M := Ts.foldr J.either J.never

theorem seqOf_append (Ts Us : List M) : J.seqOf (Ts ++ Us) = J.seq (J.seqOf Ts) (J.seqOf Us) := by
  induction Ts with
  | nil => exact (J.stay_seq _).symm
  | cons T Ts ih =>
    show J.seq T (J.seqOf (Ts ++ Us)) = _
    rw [ih, ← J.seq_assoc]
    rfl

theorem anyOf_append (Ts Us : List M) :
    J.anyOf (Ts ++ Us) = J.either (J.anyOf Ts) (J.anyOf Us) := by
  induction Ts with
  | nil => exact (J.never_either _).symm
  | cons T Ts ih =>
    show J.either T (J.anyOf (Ts ++ Us)) = _
    rw [ih, ← J.either_assoc]
    rfl

@[simp] theorem anyOf_singleton (T : M) : J.anyOf [T] = T := J.either_never T

end Joining

/-- Whether a meaning of expressions goes by the members of sequences and choices. -/
structure Respects {α M : Type} (J : Joining M) (eval : Regex α → M) : Prop where
  empty : eval .empty = J.stay
  cat (r s : Regex α) : eval (.cat r s) = J.seq (eval r) (eval s)
  alt (r s : Regex α) : eval (.alt r s) = J.either (eval r) (eval s)

namespace Respects

section

variable {α M : Type} {J : Joining M} {eval : Regex α → M} (h : Respects J eval)
include h

theorem append (r s : Regex α) : eval (r.append s) = J.seq (eval r) (eval s) := by
  induction r with
  | empty =>
    rw [h.empty, J.stay_seq]
    rfl
  | cat r r' _ ih =>
    show eval (.cat r (r'.append s)) = _
    rw [h.cat, h.cat, ih, J.seq_assoc]
  | _ =>
    cases s with
    | empty =>
      rw [h.empty, J.seq_stay]
      rfl
    | _ => exact h.cat _ _

theorem ofParts (rs : List (Regex α)) : eval (ofParts rs) = J.seqOf (rs.map eval) := by
  induction rs with
  | nil => exact h.empty
  | cons r rs ih =>
    cases rs with
    | nil => exact (J.seq_stay _).symm
    | cons s rs =>
      show eval (.cat r (Regex.ofParts (s :: rs))) = _
      rw [h.cat, ih]
      rfl

theorem seqOf_parts (r : Regex α) : J.seqOf (r.parts.map eval) = eval r := by
  induction r with
  | empty => exact h.empty.symm
  | cat r s _ ih =>
    show J.seq (eval r) (J.seqOf (s.parts.map eval)) = _
    rw [ih, h.cat]
  | _ => exact J.seq_stay _

theorem anyOf_branches (r : Regex α) : J.anyOf (r.branches.map eval) = eval r := by
  induction r with
  | alt r s _ ih =>
    show J.either (eval r) (J.anyOf (s.branches.map eval)) = _
    rw [ih, h.alt]
  | _ => exact J.either_never _

theorem anyOf_flatMap_branches (rs : List (Regex α)) :
    J.anyOf ((rs.flatMap branches).map eval) = J.anyOf (rs.map eval) := by
  induction rs with
  | nil => rfl
  | cons r rs ih =>
    rw [List.flatMap_cons, List.map_append, J.anyOf_append, h.anyOf_branches, ih]
    rfl

end

section

variable {M : Type} {J : Joining M} {eval : Regex Atom → M} (h : Respects J eval)
include h

theorem ofPieces_append (ps qs : List (List (Regex Atom))) :
    eval (ofPieces (ps ++ qs)) = J.seq (eval (ofPieces ps)) (eval (ofPieces qs)) := by
  simp only [ofPieces, h.ofParts, List.flatten_append, List.map_append, J.seqOf_append]

theorem ofPieces_pieces (r : Regex Atom) : eval (ofPieces r.pieces) = eval r := by
  rw [ofPieces, flatten_pieces, h.ofParts, h.seqOf_parts]

theorem ofBranches (hnever : eval never = J.never) (rs : List (Regex Atom)) :
    eval (ofBranches rs) = J.anyOf (rs.map eval) := by
  induction rs with
  | nil => exact hnever
  | cons r rs ih =>
    cases rs with
    | nil => exact (J.either_never _).symm
    | cons s rs =>
      show eval (.alt r (Regex.ofBranches (s :: rs))) = _
      rw [h.alt, ih]
      rfl

/-- Alternatives after what they share, if that can be taken once for all of them. -/
theorem seq_rests {rs : List (Regex Atom)}
    (hseq : ∀ T Ts, J.seq (eval (ofPieces (shared rs))) (J.anyOf (T :: Ts)) =
      J.anyOf ((T :: Ts).map (J.seq (eval (ofPieces (shared rs)))))) :
    J.seq (eval (ofPieces (shared rs))) (J.anyOf ((rests rs).map eval)) =
      J.anyOf (rs.map eval) := by
  have hall : J.seq (eval (ofPieces (shared rs))) (J.anyOf ((rests rs).map eval)) =
      J.anyOf (((rests rs).map eval).map (J.seq (eval (ofPieces (shared rs))))) := by
    cases hrests : (rests rs).map eval with
    | nil =>
      have hnil : shared rs = [] :=
        shared_eq_nil (List.map_eq_nil_iff.1 (List.map_eq_nil_iff.1 hrests))
      have hempty : eval (ofPieces []) = J.stay := h.empty
      rw [hnil, hempty, J.stay_seq]
      rfl
    | cons T Ts => exact hseq T Ts
  rw [hall, rests, List.map_map, List.map_map, ← h.anyOf_flatMap_branches]
  congr 1
  refine List.map_congr_left fun r hr => ?_
  obtain ⟨rest, hrest⟩ := shared_prefix_pieces hr
  show J.seq _ (eval (ofPieces (r.pieces.drop (shared rs).length))) = _
  rw [← h.ofPieces_append, ← hrest, List.drop_left, hrest, h.ofPieces_pieces]

end

end Respects

end Regex

end PathGlob

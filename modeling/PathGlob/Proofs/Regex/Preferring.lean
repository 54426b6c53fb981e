-- SUMMARY: Which first ways an expression in normal form and an anchored expression have.
import PathGlob.Proofs.Regex.Anchors
import PathGlob.Proofs.Regex.Leftmost

/-!
# Ways in normal form

Normal form joins sets, flattens choices and takes what alternatives share once. The first two keep
the first way of every kind. The last does if what is shared leaves nothing to choose; otherwise
that choice comes before the choice between the alternatives.
-/

namespace PathGlob

namespace Ways

variable {T T' U U' V : Ways}

/-! ## Lists of ways -/

def never : Ways := fun _ => []

def joining : Regex.Joining Ways where
  stay := stay
  seq := seq
  never := never
  either := either
  stay_seq _ := stay_seq
  seq_stay _ := seq_stay
  seq_assoc _ _ _ := seq_assoc
  never_either _ := rfl
  either_never _ := funext fun _ => List.append_nil _
  either_assoc _ _ _ := funext fun _ => List.append_assoc _ _ _

/-- Whether there is never more than one way. -/
def IsSingle (T : Ways) : Prop := ∀ i, (T i).length ≤ 1

theorem IsSingle.seq (hT : T.IsSingle) (hU : U.IsSingle) : IsSingle (seq T U) := by
  intro i
  have hfirst := hT i
  show ((T i).flatMap _).length ≤ 1
  match h : T i with
  | [] => simp
  | [e] =>
    have hsecond := hU e.1
    simpa using hsecond
  | _ :: _ :: _ => simp [h] at hfirst

/-- What leaves nothing to choose can be taken before choosing. -/
theorem IsSingle.seq_either (hT : T.IsSingle) :
    Ways.seq T (either U V) = either (Ways.seq T U) (Ways.seq T V) := by
  funext i
  have hfirst := hT i
  show (T i).flatMap _ = (T i).flatMap _ ++ (T i).flatMap _
  match h : T i with
  | [] => rfl
  | [e] => simp [either]
  | _ :: _ :: _ => simp [h] at hfirst

theorem seq_never : seq T never = never := by
  funext i
  simp [seq, never]

theorem IsSingle.seq_anyOf (hT : T.IsSingle) (Us : List Ways) :
    Ways.seq T (joining.anyOf Us) = joining.anyOf (Us.map (Ways.seq T)) := by
  induction Us with
  | nil => exact seq_never
  | cons U Us ih =>
    show Ways.seq T (either U (joining.anyOf Us)) = either _ (joining.anyOf (Us.map _))
    rw [hT.seq_either, ih]

/-! ## First ways -/

/-- Whether two have the same first way of every kind from every place. -/
def Alike (T U : Ways) : Prop := ∀ i P, (T i).find? P = (U i).find? P

theorem Alike.refl (T : Ways) : Alike T T := fun _ _ => rfl

theorem Alike.trans (h : Alike T U) (h' : Alike U V) : Alike T V :=
  fun i P => (h i P).trans (h' i P)

theorem Alike.either (h : Alike T T') (h' : Alike U U') : Alike (either T U) (either T' U') := by
  intro i P
  show (T i ++ U i).find? P = (T' i ++ U' i).find? P
  rw [List.find?_append, List.find?_append, h i P, h' i P]

/-- The first way of a kind in a sequence begins with the first way that has one ahead. -/
theorem find?_seq (i : Nat) (P : Nat × List Mark → Bool) :
    (seq T U i).find? P =
      ((T i).find? fun e => ((U e.1).find? fun e' => P (e'.1, e'.2 ++ e.2)).isSome).bind fun e =>
        ((U e.1).find? fun e' => P (e'.1, e'.2 ++ e.2)).map fun e' => (e'.1, e'.2 ++ e.2) := by
  have hmap (e : Nat × List Mark) : ((U e.1).map fun e' => (e'.1, e'.2 ++ e.2)).find? P =
      ((U e.1).find? fun e' => P (e'.1, e'.2 ++ e.2)).map fun e' => (e'.1, e'.2 ++ e.2) :=
    List.find?_map
  rw [seq, find?_flatMap_of_isSome fun e _ => rfl]
  simp only [hmap, Option.isSome_map]

theorem Alike.seq (h : Alike T T') (h' : Alike U U') : Alike (seq T U) (seq T' U') := by
  intro i P
  rw [find?_seq, find?_seq, h]
  simp only [h' _ _]

end Ways

/-! ## Normal form -/

namespace Regex

open Ways (Alike IsSingle)

variable (text : List Char)

theorem respects_waysIn : Respects Ways.joining (waysIn text) where
  empty := rfl
  cat _ _ := rfl
  alt _ _ := rfl

theorem waysIn_append (r s : Regex Atom) :
    (r.append s).waysIn text = .seq (r.waysIn text) (s.waysIn text) :=
  (respects_waysIn text).append r s

theorem waysIn_never : never.waysIn text = Ways.never := by
  funext i
  show (if text[i]?.any CharSet.empty.contains then [(i + 1, [])] else []) = []
  cases text[i]? <;> rfl

theorem waysIn_ofSet (s : CharSet) (ascii : Bool) :
    (ofSet s ascii).waysIn text = Atom.ways text (.char s false) := by
  funext i
  show (if text[i]?.any s.scalars.contains then _ else _) = if text[i]?.any s.contains then _ else _
  have hcontains : s.scalars.contains = s.contains := funext s.contains_scalars
  rw [hcontains]

theorem find?_ite_or {α : Type} (P : α → Bool) (e : α) (a b : Bool) :
    (if a || b then [e] else []).find? P =
      ((if a then [e] else []).find? P).or ((if b then [e] else []).find? P) := by
  cases a <;> cases b <;> cases h : P e <;> simp [h]

/-- Expressions that are sets, as one set. -/
theorem alike_of_map_set? {rs : List (Regex Atom)} {ss : List CharSet}
    (h : rs.map set? = ss.map some) :
    Alike (Atom.ways text (.char (.unions ss) false))
      (Ways.joining.anyOf (rs.map (waysIn text))) := by
  induction ss generalizing rs with
  | nil =>
    obtain rfl := List.map_eq_nil_iff.1 h
    exact fun i P => congrArg (List.find? P) (congrFun (waysIn_never text) i)
  | cons s ss ih =>
    obtain ⟨r, rs, rfl, hs, hss⟩ := List.map_eq_cons_iff.1 h
    obtain ⟨ascii, rfl⟩ := set?_eq_some hs
    refine .trans (fun i P => ?_) ((Alike.refl (Atom.ways text (.char s ascii))).either (ih hss))
    simp only [Ways.either, Atom.ways, List.find?_append]
    cases text[i]? with
    | none => rfl
    | some c =>
      simp only [Option.any_some, CharSet.contains_unions, List.any_cons]
      exact find?_ite_or P _ _ _

theorem alike_choice (rs : List (Regex Atom)) :
    Alike ((choice rs).waysIn text) (Ways.joining.anyOf (rs.map (waysIn text))) := by
  have hbuilt := isChoice rs
  generalize choice rs = r at hbuilt
  cases hbuilt with
  | branches =>
    rw [(respects_waysIn text).ofBranches (waysIn_never text) rs]
    exact .refl _
  | joined hss =>
    rw [waysIn_ofSet]
    exact alike_of_map_set? text (map_eq_map_some_of_mapM hss)

/-- Whether what some expressions share, if anything, is made of single characters and leaves
nothing to choose. -/
def isDistinct (rs : List (Regex Atom)) : Bool :=
  (shared rs).all fun piece => piece.all fun r => r.set?.isSome

theorem isSingle_char (s : CharSet) (ascii : Bool) :
    (waysIn text (.atom (.char s ascii))).IsSingle := by
  intro i
  show (if text[i]?.any s.contains then [(i + 1, ([] : List Mark))] else []).length ≤ 1
  split
  · exact Nat.le_refl 1
  · exact Nat.zero_le 1

theorem isSingle_shared {rs : List (Regex Atom)} (h : isDistinct rs = true) :
    ((ofPieces (shared rs)).waysIn text).IsSingle := by
  have hparts : ∀ r ∈ (shared rs).flatten, (r.waysIn text).IsSingle := by
    intro r hr
    obtain ⟨piece, hpiece, hr⟩ := List.mem_flatten.1 hr
    have hset := List.all_eq_true.1 (List.all_eq_true.1 h piece hpiece) r hr
    obtain ⟨s, hs⟩ := Option.isSome_iff_exists.1 hset
    obtain ⟨ascii, rfl⟩ := set?_eq_some hs
    exact isSingle_char text s ascii
  rw [ofPieces, (respects_waysIn text).ofParts]
  generalize (shared rs).flatten = parts at hparts
  induction parts with
  | nil => exact fun i => Nat.le_refl 1
  | cons r parts ih =>
    obtain ⟨hr, hparts⟩ := List.forall_mem_cons.1 hparts
    exact hr.seq (ih hparts)

/-- Building an alternation changes no first way if what is shared leaves nothing to choose. -/
theorem alike_alternation {rs : List (Regex Atom)} (h : isDistinct rs = true) :
    Alike ((alternation rs).waysIn text) (Ways.joining.anyOf (rs.map (waysIn text))) := by
  have hrespects := respects_waysIn text
  have hsingle := isSingle_shared text h
  have hbuilt := isAlternation rs
  generalize alternation rs = r at hbuilt
  cases hbuilt with
  | single h =>
    rw [h]
    exact fun i P => congrArg (List.find? P) (List.append_nil _).symm
  | choice =>
    rw [← hrespects.anyOf_flatMap_branches]
    exact alike_choice text _
  | shared =>
    have hrests := alike_choice text ((rests rs).flatMap branches)
    rw [hrespects.anyOf_flatMap_branches] at hrests
    rw [waysIn_append, ← hrespects.seq_rests fun T Ts => hsingle.seq_anyOf (T :: Ts)]
    exact (Alike.refl _).seq hrests

theorem waysIn_optional (r : Regex Atom) :
    (repeated 0 (some 1) true r).waysIn text = .either (r.waysIn text) .stay := by
  rw [repeated_optional]
  show Ways.seq .stay (.either (.seq (r.waysIn text) .stay) .stay) = _
  rw [Ways.stay_seq, Ways.seq_stay]

/-! ## Anchors -/

theorem hereditary_isBrisk : Hereditary fun r => r.isBrisk Atom.isLook = true where
  empty := rfl
  never := rfl
  joined _ _ := rfl
  cat _ _ := iff_of_eq (Bool.and_eq_true _ _)
  alt _ _ := iff_of_eq (Bool.and_eq_true _ _)

theorem isBrisk_anchored {r : Regex Atom} (hr : r.isBrisk Atom.isLook = true) :
    (anchored r).isBrisk Atom.isLook = true :=
  hereditary_isBrisk.append rfl (hereditary_isBrisk.append hr rfl)

theorem waysIn_textStart (i : Nat) :
    waysIn text (.atom (.look .textStart)) i = if i = 0 then [(i, [])] else [] :=
  if_congr (holds_textStart_iff text i) rfl rfl

theorem waysIn_textEnd (i : Nat) :
    waysIn text (.atom (.look .textEnd)) i = if i = text.length then [(i, [])] else [] :=
  if_congr (holds_textEnd_iff text i) rfl rfl

/-- The ways of an anchored expression are those over the whole text. -/
theorem waysIn_anchored (r : Regex Atom) (i : Nat) : (anchored r).waysIn text i =
    if i = 0 then (r.waysIn text i).filter fun e => e.1 = text.length else [] := by
  have hend : Ways.seq (r.waysIn text) (waysIn text (.atom (.look .textEnd))) i =
      (r.waysIn text i).filter fun e => e.1 = text.length := by
    rw [Ways.seq]
    simp only [waysIn_textEnd]
    induction r.waysIn text i with
    | nil => rfl
    | cons e es ih =>
      rw [List.flatMap_cons, ih, List.filter_cons]
      by_cases he : e.1 = text.length
      · rw [if_pos he, if_pos (decide_eq_true he)]
        rfl
      · rw [if_neg he, if_neg (by simpa using he)]
        rfl
  rw [anchored, waysIn_append, waysIn_append, Ways.seq, waysIn_textStart]
  split
  · simp [hend]
  · rfl

/-- A search for an anchored expression takes the first way over the whole text. -/
theorem find?_anchored {r : Regex Atom} (hr : r.isBrisk Atom.isLook = true) :
    (anchored r).find? text =
      ((r.waysIn text).whole? text.length).map fun ms => ⟨0, text.length, ms⟩ := by
  have hlater : ((List.range text.length).map Nat.succ).findSome? (fun i =>
      ((anchored r).waysIn text i).head?.map fun e => (⟨i, e.1, e.2⟩ : Captures)) = none := by
    rw [List.findSome?_eq_none_iff]
    intro i hi
    obtain ⟨j, -, rfl⟩ := List.mem_map.1 hi
    rw [waysIn_anchored, if_neg (Nat.succ_ne_zero j)]
    rfl
  rw [find?_eq (isBrisk_anchored hr), List.range_succ_eq_map, List.findSome?_cons, hlater,
    waysIn_anchored, if_pos rfl, List.head?_filter, Ways.whole?]
  cases he : (r.waysIn text 0).find? fun e => decide (e.1 = text.length) with
  | none => rfl
  | some e =>
    have hwhole := List.find?_some he
    have hstop : e.1 = text.length := of_decide_eq_true hwhole
    simp [hstop]

end Regex

end PathGlob

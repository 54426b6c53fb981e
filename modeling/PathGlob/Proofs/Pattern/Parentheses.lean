-- SUMMARY: The groups that an outline holds open are those that no parenthesis of the text closes.
import PathGlob.Proofs.Pattern.Outlines

/-!
# Matching parentheses

Parentheses match without a look at what stands between them: read from the right, every opening one
takes the first closing one that is left. The open groups of an outline are followed along its items
in these terms.
-/

namespace PathGlob.Pattern

/-- The number of closing parentheses whose group does not begin within some items. -/
def excess : List (Located Item) → Nat
  | [] => 0
  | ⟨_, .groupOpen⟩ :: xs => excess xs - 1
  | ⟨_, .groupClose⟩ :: xs => excess xs + 1
  | _ :: xs => excess xs

/-- Where the opening parentheses stand that nothing closes, leftmost first. -/
def unmatched : List (Located Item) → List Nat
  | [] => []
  | ⟨i, .groupOpen⟩ :: xs => if excess xs = 0 then i :: unmatched xs else unmatched xs
  | _ :: xs => unmatched xs

theorem mem_of_mem_unmatched {start : Nat} {xs : List (Located Item)} (h : start ∈ unmatched xs) :
    ⟨start, .groupOpen⟩ ∈ xs := by
  induction xs with
  | nil => cases h
  | cons x xs ih =>
    obtain ⟨i, item⟩ := x
    cases item with
    | groupOpen =>
      rw [unmatched] at h
      split at h
      · rcases List.mem_cons.1 h with rfl | htail
        · exact List.mem_cons_self
        · exact List.mem_cons_of_mem _ (ih htail)
      · exact List.mem_cons_of_mem _ (ih h)
    | _ => exact List.mem_cons_of_mem _ (ih h)

namespace Outline

variable {policy : DuplicatePolicy} {o o' : Outline} {items : List (Located Item)}

/-- Where the open groups start, innermost group first. -/
def starts (o : Outline) : List Nat := o.enclosing.map Prod.fst

/-- Items close the groups that they have a parenthesis left for, and leave their own ones open. -/
theorem starts_of_steps (h : (o.steps policy items).outcome = .ok o') :
    o'.starts = (unmatched items).reverse ++ o.starts.drop (excess items) := by
  induction items generalizing o with
  | nil =>
    cases h
    rfl
  | cons x items ih =>
    obtain ⟨o₁, hx, hitems⟩ := exists_of_steps_cons h
    rw [ih hitems]
    cases taken_of_step hx with
    | @groupOpen i =>
      have hstarts : (o.openGroup i).starts = i :: o.starts := rfl
      rw [hstarts, unmatched, excess]
      cases excess items with
      | zero => simp
      | succ k => simp
    | @groupClose _ start _ enclosing henclosing =>
      have hstarts : o.starts = start :: enclosing.map Prod.fst := by
        rw [starts, henclosing]
        rfl
      rw [hstarts, unmatched, excess, List.drop_succ_cons]
      · rfl
      · exact nofun
    | _ => rfl

theorem starts_of_steps_empty (h : (Outline.steps policy {} items).outcome = .ok o) :
    o.starts = (unmatched items).reverse := by
  rw [starts_of_steps h, starts]
  simp

/-- What is wrong with an outline at the end of a text is its outermost group. -/
theorem finish_eq (o : Outline) :
    o.finish = match o.starts.getLast? with
      | some start => .error (.unterminatedGroup start)
      | none => .ok o.level.toPattern := by
  rw [starts, List.getLast?_map, finish]
  cases o.enclosing.getLast? <;> rfl

theorem finish_of_steps (h : (Outline.steps policy {} items).outcome = .ok o) :
    o.finish = match (unmatched items).head? with
      | some start => .error (.unterminatedGroup start)
      | none => .ok o.level.toPattern := by
  rw [finish_eq, starts_of_steps_empty h, List.getLast?_reverse]

end Outline

/-! ## Whole texts -/

section

variable {text : String} {options : Options} {items : List (Located Item)} {o : Outline} {f : Fault}

theorem outcome_parse_of_refused (hlength : text.utf8ByteSize ≤ options.maxPatternLength.toNat)
    (hscan : scan 0 text.toList = .ok items)
    (h : (Outline.steps options.duplicates {} items).outcome = .error f) :
    (parse text options).outcome = .error ⟨text, f⟩ := by
  rw [outcome_parse_of_scan hlength hscan, h]
  rfl

/-- A text whose items are all taken is accepted unless it leaves a group open. -/
theorem outcome_parse_of_taken (hlength : text.utf8ByteSize ≤ options.maxPatternLength.toNat)
    (hscan : scan 0 text.toList = .ok items)
    (h : (Outline.steps options.duplicates {} items).outcome = .ok o) :
    (parse text options).outcome = match (unmatched items).head? with
      | some start => .error ⟨text, .unterminatedGroup start⟩
      | none => .ok o.level.toPattern := by
  rw [outcome_parse_of_scan hlength hscan, h, Except.bind, Outline.finish_of_steps h]
  cases (unmatched items).head? <;> rfl

end

end PathGlob.Pattern

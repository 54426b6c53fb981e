-- SUMMARY: Laws of sequencing traced computations, and when two of them agree.
import PathGlob.Trace

/-!
# Agreement of traced computations

Two computations agree if they announce the same and either fail alike or end with related values.
To show it of long computations, their parts are compared one after the other.
-/

namespace PathGlob.Traced

variable {ε ε' α α' β β' : Type}

/-! ## Laws -/

theorem map_eq (x : Traced ε α) (f : α → β) : f <$> x = ⟨x.log, x.outcome.map f⟩ := by
  obtain ⟨log, outcome⟩ := x
  cases outcome with
  | ok a => exact congrArg (fun log => Traced.mk log (.ok (f a))) (List.append_nil log)
  | error e => rfl

theorem bind_pure (x : Traced ε α) : x >>= pure = x := by
  obtain ⟨log, outcome⟩ := x
  cases outcome with
  | ok a => exact congrArg (fun log => Traced.mk log (.ok a)) (List.append_nil log)
  | error e => rfl

theorem bind_assoc (x : Traced ε α) (f : α → Traced ε β) (g : β → Traced ε β') :
    x >>= f >>= g = x >>= fun a => f a >>= g := by
  cases hx : x.outcome with
  | error e => rw [bind_of_error hx, bind_of_error rfl, bind_of_error hx]
  | ok a =>
    rw [bind_of_ok hx, bind_of_ok hx]
    cases hf : (f a).outcome with
    | error e => rw [bind_of_error rfl, bind_of_error hf]
    | ok b => rw [bind_of_ok rfl, bind_of_ok hf, List.append_assoc]

theorem mapError_bind (x : Traced ε α) (f : α → Traced ε β) (g : ε → ε') :
    (x >>= f).mapError g = x.mapError g >>= fun a => (f a).mapError g := by
  obtain ⟨log, outcome⟩ := x
  cases outcome <;> rfl

/-! ## Agreement -/

/-- Whether two computations announce the same, and both fail with the same error or end with values
that are related. -/
inductive Agree (R : α → β → Prop) : Traced ε α → Traced ε β → Prop
  | ok {log : List Entry} {a : α} {b : β} : R a b → Agree R ⟨log, .ok a⟩ ⟨log, .ok b⟩
  | error {log : List Entry} {e : ε} : Agree R ⟨log, .error e⟩ ⟨log, .error e⟩

namespace Agree

variable {R R' : α → β → Prop} {S : α' → β' → Prop} {x : Traced ε α} {y : Traced ε β}
  {f : α → Traced ε α'} {g : β → Traced ε β'}

theorem refl (x : Traced ε α) : Agree Eq x x := by
  obtain ⟨log, outcome⟩ := x
  cases outcome with
  | ok a => exact .ok rfl
  | error e => exact .error

theorem bind (h : Agree R x y) (hf : ∀ a b, R a b → Agree S (f a) (g b)) :
    Agree S (x >>= f) (y >>= g) := by
  cases h with
  | error => exact .error
  | @ok log a b hab =>
    rw [bind_of_ok rfl, bind_of_ok rfl]
    have hnext := hf a b hab
    revert hnext
    generalize f a = fa, g b = gb
    rintro (hab' | _)
    · exact .ok hab'
    · exact .error

theorem imp (h : Agree R x y) (hR : ∀ a b, y.outcome = .ok b → R a b → R' a b) :
    Agree R' x y := by
  cases h with
  | ok hab => exact .ok (hR _ _ rfl hab)
  | error => exact .error

theorem mapError (h : Agree R x y) (f : ε → ε') : Agree R (x.mapError f) (y.mapError f) := by
  cases h with
  | ok hab => exact .ok hab
  | error => exact .error

/-- Something may be kept beside the value of one computation. -/
theorem beside (h : Agree R x y) {γ : Type} (c : γ) :
    Agree (fun r b => r.2 = c ∧ R r.1 b) (do return (← x, c)) y := by
  rw [← bind_pure y]
  exact h.bind fun a b hab => .ok ⟨rfl, hab⟩

theorem eq_map {F : β → α} (h : Agree (fun a b => a = F b) x y) : x = F <$> y := by
  cases h with
  | ok hab =>
    rw [hab, map_eq]
    rfl
  | error => rfl

theorem exists_of_ok (h : Agree R x y) {a : α} (hx : x.outcome = .ok a) :
    ∃ b, y.outcome = .ok b ∧ R a b := by
  cases h with
  | ok hab =>
    cases hx
    exact ⟨_, rfl, hab⟩
  | error => cases hx

theorem outcome_of_error (h : Agree R x y) {e : ε} (hx : x.outcome = .error e) :
    y.outcome = .error e := by
  cases h with
  | ok hab => cases hx
  | error =>
    cases hx
    rfl

end Agree

end PathGlob.Traced

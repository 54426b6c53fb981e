-- SUMMARY: A translator of a text's tokens takes every declaration as a whole, so it never finds one that is not closed.
import PathGlob.Proofs.Pattern.Translating

/-!
# Boundaries of declarations

Whatever turns a translator has taken on the tokens of a text, the tokens that are left are those of
the items that are left. So no turn begins within a declaration, and a declaration that is opened is
closed. A declaration that the text leaves open is found when the text is cut into tokens.
-/

namespace PathGlob.Pattern

/-- Whether a token is a part of a declaration that stands between its braces. -/
inductive Token.IsInner : Token → Prop
  | name (name : String) : IsInner (.variableName name)
  | separator : IsInner .variableSeparator
  | constraint (raw : String) : IsInner (.constraint raw)

/-! ## Boundaries -/

/-- Whether a turn may begin with a token: it is not within a declaration, and if it opens one, the
rest of it comes next. -/
structure IsBoundary (head : Located Token) (rest : List (Located Token)) : Prop where
  not_isInner : ¬ head.value.IsInner
  startsDeclaration : head.value = .variableOpen →
    ∃ d left, StartsDeclaration head.index rest d left

theorem isBoundary_of_tokensOf {items : List (Located Item)} {head : Located Token}
    {rest : List (Located Token)} (h : tokensOf items = head :: rest) : IsBoundary head rest := by
  rcases items with _ | ⟨⟨i, item⟩, items⟩
  · cases h
  cases item with
  | declaration name constraint =>
    obtain ⟨rfl, hrest⟩ := startsDeclaration_of_tokensOf h
    exact ⟨nofun, fun _ => ⟨_, _, hrest⟩⟩
  | _ =>
    cases h
    exact ⟨nofun, nofun⟩

namespace Translator

variable {policy : DuplicatePolicy} {t : Translator} {o : Outline} {items : List (Located Item)}
  {tokens rest : List (Located Token)} {head : Located Token} {f : Fault}

/-! ## Reached states -/

/-- What turns lead to from the start and some tokens: a translator and the tokens left for it. -/
inductive Reaches (policy : DuplicatePolicy) (tokens : List (Located Token)) :
    Translator → List (Located Token) → Prop
  | start : Reaches policy tokens {} tokens
  | turn {t t' : Translator} {head : Located Token} {rest rest' : List (Located Token)} :
      Reaches policy tokens t (head :: rest) →
      (t.turn policy head rest).outcome = .ok (t', rest') →
      Reaches policy tokens (t'.after head) rest'

/-- A turn from where an outline stands leads to where an outline stands. -/
theorem Stands.exists_of_turn (h : Stands t o items) (htokens : tokensOf items = head :: rest)
    {t' : Translator} {rest' : List (Located Token)}
    (hturn : (t.turn policy head rest).outcome = .ok (t', rest')) :
    ∃ o' left, Stands (t'.after head) o' left ∧ tokensOf left = rest' := by
  obtain ⟨taken, left, -, hagree⟩ : TurnAgrees policy t o head rest items := h.turnAgrees htokens
  obtain ⟨o', -, hleft, hstands⟩ := hagree.exists_of_ok hturn
  exact ⟨o', left, hstands, hleft.symm⟩

theorem Reaches.exists_stands (h : Reaches policy (tokensOf items) t tokens) :
    ∃ o left, Stands t o left ∧ tokensOf left = tokens := by
  induction h with
  | start => exact ⟨{}, items, ⟨.start, nofun⟩, rfl⟩
  | turn _ hturn ih =>
    obtain ⟨o, left, hstands, hleft⟩ := ih
    exact hstands.exists_of_turn hleft hturn

/-! ## Faults -/

/-- No item is refused for a declaration that is left open, since a declaration is one item. -/
theorem Stands.ne_unterminatedVariable (h : Stands t o items)
    (htokens : tokensOf items = head :: rest)
    (hturn : (t.turn policy head rest).outcome = .error f) (start : Nat) :
    f ≠ .unterminatedVariable start := by
  rintro rfl
  obtain ⟨taken, left, -, hagree⟩ : TurnAgrees policy t o head rest items := h.turnAgrees htokens
  obtain ⟨read, x, after, o', -, -, hx⟩ :=
    Outline.exists_refused_of_steps (hagree.outcome_of_error hturn)
  cases Outline.refusal_of_step hx with
  | declaration hrefusal => cases hrefusal

/-- A run that fails has come to a turn that fails. -/
theorem Reaches.exists_of_run {fuel : Nat} {left : List (Located Token)}
    (h : Reaches policy tokens t left) (hrun : (run policy fuel t left).outcome = .error f) :
    ∃ t' head rest, Reaches policy tokens t' (head :: rest) ∧
      (t'.turn policy head rest).outcome = .error f := by
  induction fuel generalizing t left with
  | zero => cases hrun
  | succ fuel ih =>
    cases left with
    | nil => cases hrun
    | cons head rest =>
      cases hturn : (t.turn policy head rest).outcome with
      | error e =>
        rw [run, Traced.bind_of_error hturn] at hrun
        cases hrun
        exact ⟨t, head, rest, h, hturn⟩
      | ok r =>
        rw [run, Traced.bind_of_ok hturn] at hrun
        exact ih (h.turn hturn) hrun

theorem ne_unterminatedVariable_of_finish (h : t.finish = .error f) (start : Nat) :
    f ≠ .unterminatedVariable start := by
  unfold finish at h
  split at h
  · cases h
    exact nofun
  · cases h

end Translator

open Translator in
theorem ne_unterminatedVariable_of_ofTokens {policy : DuplicatePolicy}
    {items : List (Located Item)} {f : Fault}
    (h : (ofTokens policy (tokensOf items)).outcome = .error f) (start : Nat) :
    f ≠ .unterminatedVariable start := by
  rw [ofTokens] at h
  cases hrun : (run policy (tokensOf items).length {} (tokensOf items)).outcome with
  | error e =>
    rw [Traced.bind_of_error hrun] at h
    cases h
    obtain ⟨t, head, rest, hreach, hturn⟩ := Reaches.start.exists_of_run hrun
    obtain ⟨o, left, hstands, hleft⟩ := hreach.exists_stands
    exact hstands.ne_unterminatedVariable hleft hturn start
  | ok t =>
    rw [Traced.bind_of_ok hrun] at h
    exact ne_unterminatedVariable_of_finish h start

/-! ## Whole texts -/

section

variable {text : String} {options : Options}

theorem exists_tokensOf {tokens : List (Located Token)} (h : (tokenize text).outcome = .ok tokens) :
    ∃ items, tokensOf items = tokens := by
  obtain ⟨items, -, htokens⟩ := outcome_tokenize_eq_ok_iff.1 h
  exact ⟨items, htokens⟩

theorem outcome_translate_of_lt (h : options.maxPatternLength.toNat < text.utf8ByteSize) :
    (translate text options).outcome =
      .error ⟨text, .tooLong text.utf8ByteSize options.maxPatternLength.toNat⟩ := by
  simp only [translate, if_pos h]
  rfl

theorem outcome_translate_of_le (h : text.utf8ByteSize ≤ options.maxPatternLength.toNat) :
    (translate text options).outcome = (tokenize text).outcome.bind fun tokens =>
      (ofTokens options.duplicates tokens).outcome.mapError (⟨text, ·⟩) := by
  simp only [translate, if_neg (Nat.not_lt.2 h)]
  rw [Traced.outcome_bind]
  exact Traced.outcome_bind _ _

theorem ne_unterminatedVariable_of_translate {tokens : List (Located Token)} {e : Error}
    (htokens : (tokenize text).outcome = .ok tokens)
    (h : (translate text options).outcome = .error e) (start : Nat) :
    e.fault ≠ .unterminatedVariable start := by
  rcases Nat.lt_or_ge options.maxPatternLength.toNat text.utf8ByteSize with hlong | hlength
  · rw [outcome_translate_of_lt hlong] at h
    cases h
    exact nofun
  · obtain ⟨items, rfl⟩ := exists_tokensOf htokens
    rw [outcome_translate_of_le hlength, htokens, Except.bind] at h
    cases hof : (ofTokens options.duplicates (tokensOf items)).outcome with
    | error f =>
      rw [hof] at h
      cases h
      exact ne_unterminatedVariable_of_ofTokens hof start
    | ok a =>
      rw [hof] at h
      cases h

theorem outcome_translate_eq_error_iff {e : Error} {start : Nat}
    (he : e.fault = .unterminatedVariable start) :
    (translate text options).outcome = .error e ↔
      text.utf8ByteSize ≤ options.maxPatternLength.toNat ∧ (tokenize text).outcome = .error e := by
  constructor
  · intro h
    cases htokens : (tokenize text).outcome with
    | ok tokens => exact absurd he (ne_unterminatedVariable_of_translate htokens h start)
    | error e' =>
      rcases Nat.lt_or_ge options.maxPatternLength.toNat text.utf8ByteSize with hlong | hlength
      · rw [outcome_translate_of_lt hlong] at h
        cases h
        cases he
      · rw [outcome_translate_of_le hlength, htokens] at h
        cases h
        exact ⟨hlength, rfl⟩
  · rintro ⟨hlength, htokens⟩
    rw [outcome_translate_of_le hlength, htokens]
    rfl

end

/-- Translating a text in one pass over its tokens comes to the same as rendering its tree. Every
turn begins where a declaration is not under way, and one that is opened there is closed. So a
declaration that is left open is reported only where the text cannot be cut into tokens for it. -/
theorem translate_takes_whole_declarations (text : String) (options : Options) :
    translate text options = translation <$> parse text options ∧
      (∀ tokens, (tokenize text).outcome = .ok tokens →
        (∀ t head rest, Translator.Reaches options.duplicates tokens t (head :: rest) →
          IsBoundary head rest) ∧
        ∀ e start, (translate text options).outcome = .error e →
          e.fault ≠ .unterminatedVariable start) ∧
      ∀ e start, e.fault = .unterminatedVariable start →
        ((translate text options).outcome = .error e ↔
          text.utf8ByteSize ≤ options.maxPatternLength.toNat ∧
            (tokenize text).outcome = .error e) := by
  refine ⟨translate_eq text options, fun tokens htokens => ⟨fun t head rest hreach => ?_, ?_⟩, ?_⟩
  · obtain ⟨items, rfl⟩ := exists_tokensOf htokens
    obtain ⟨o, left, -, hleft⟩ := hreach.exists_stands
    exact isBoundary_of_tokensOf hleft
  · exact fun e start h => ne_unterminatedVariable_of_translate htokens h start
  · exact fun e start he => outcome_translate_eq_error_iff he

/-- A declaration behind stars and a slash, which one turn takes, and a declaration left open. -/
theorem translate_takes_whole_declarations_behind_stars :
    (∃ tokens t rest, (tokenize "**/\x7bb:x\x7d").outcome = .ok tokens ∧
      Translator.Reaches .lastWins tokens t (⟨3, .variableOpen⟩ :: rest) ∧
      IsBoundary ⟨3, .variableOpen⟩ rest) ∧
    (tokenize "/\x7bb:x").outcome = .error ⟨"/\x7bb:x", .unterminatedVariable 1⟩ ∧
      (translate "/\x7bb:x").outcome = .error ⟨"/\x7bb:x", .unterminatedVariable 1⟩ := by
  obtain ⟨tokens, t, rest, htokens, hreach⟩ : ∃ tokens t rest,
      (tokenize "**/\x7bb:x\x7d").outcome = .ok tokens ∧
        Translator.Reaches .lastWins tokens t (⟨3, .variableOpen⟩ :: rest) :=
    ⟨_, _, _, rfl, .turn .start rfl⟩
  have hopen : (tokenize "/\x7bb:x").outcome = .error ⟨"/\x7bb:x", .unterminatedVariable 1⟩ := rfl
  obtain ⟨-, hwhole, -⟩ := translate_takes_whole_declarations "**/\x7bb:x\x7d" {}
  obtain ⟨-, -, herror⟩ := translate_takes_whole_declarations "/\x7bb:x" {}
  exact ⟨⟨tokens, t, rest, htokens, hreach, (hwhole tokens htokens).1 t _ rest hreach⟩, hopen,
    (herror _ 1 rfl).2 ⟨by decide, hopen⟩⟩

end PathGlob.Pattern

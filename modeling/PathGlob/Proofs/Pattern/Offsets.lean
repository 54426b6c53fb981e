-- SUMMARY: Where a fault points in a pattern, there stands what it complains about.
import PathGlob.Proofs.Pattern.Parentheses
import PathGlob.Proofs.Pattern.Tokens

/-!
# Offsets of faults

A fault comes from cutting a text, from an item that is refused, or from a group that is still open.
Texts that break off are followed to their end. Items stand in the text where they say, so the
others point at an item that was read: the refused one, or an opening parenthesis before it.
-/

namespace PathGlob.Pattern

/-- Whether some characters stand in a text at byte `i`. -/
def StandsAt (text : String) (i : Nat) (cs : List Char) : Prop :=
  ∃ before after, text.toList = before ++ cs ++ after ∧ byteLength before = i

/-- Whether a text has a declaration with a given name and constraint. -/
def Declares (text : String) (name : String) (constraint : Option String) : Prop :=
  ∃ items, scan 0 text.toList = .ok items ∧ ∃ i, ⟨i, .declaration name constraint⟩ ∈ items

/-- The byte that a fault points at, if it does. -/
def Fault.offset? : Fault → Option Nat
  | .loneEscape i | .unterminatedVariable i | .unexpectedBrace i | .unexpectedParenthesis i
  | .unterminatedGroup i | .emptyGroup i | .danglingQuantifier i | .missingName i => some i
  | _ => none

/-- Whether what a fault complains about is found in a text where it says. -/
def Fault.IsFoundIn (text : String) : Fault → Prop
  | .tooLong length _ => length = text.utf8ByteSize
  | .loneEscape i => StandsAt text i ['\\'] ∧ i + 1 = text.utf8ByteSize
  | .unterminatedVariable i | .missingName i => StandsAt text i ['{']
  | .unexpectedBrace i => StandsAt text i ['}']
  | .unexpectedParenthesis i => StandsAt text i [')']
  | .unterminatedGroup i => StandsAt text i ['(']
  | .emptyGroup i => StandsAt text i ['(', ')']
  | .danglingQuantifier i => StandsAt text i ['?']
  | .invalidStart name c => (∃ constraint, Declares text name constraint) ∧
      ∃ rest, name.toList = c :: rest ∧ ¬ IsInitial c
  | .invalidCharacter name c => (∃ constraint, Declares text name constraint) ∧
      ∃ first before after, name.toList = first :: before ++ c :: after ∧ IsInitial first ∧
        (∀ d ∈ before, IsFollowing d) ∧ ¬ IsFollowing c
  | .emptyConstraint name => Declares text name (some "")
  | .duplicateVariable name => ∃ constraint, Declares text name constraint

/-- Characters stand within the text and not inside another character. -/
theorem StandsAt.isValid {text : String} {i : Nat} {c : Char} {cs : List Char}
    (h : StandsAt text i (c :: cs)) :
    i < text.utf8ByteSize ∧ (⟨i⟩ : String.Pos.Raw).IsValid text := by
  obtain ⟨before, after, htext, rfl⟩ := h
  constructor
  · have hpos : 0 < c.utf8Size := c.utf8Size_pos
    rw [utf8ByteSize_eq, htext, byteLength_append, byteLength_append, byteLength_cons]
    omega
  · refine String.Pos.Raw.isValid_iff_exists_append.2
      ⟨.ofList before, .ofList (c :: cs ++ after), String.toList_injective ?_, ?_⟩
    · rw [htext, String.toList_append, String.toList_ofList, String.toList_ofList,
        List.append_assoc]
    · rw [String.Pos.Raw.ext_iff, String.byteIdx_rawEndPos, utf8ByteSize_ofList]

/-! ## Texts that break off -/

/-- Whether a text that starts at byte `i` ends within the escape or the declaration that a fault
points at. -/
def BreaksOff (i : Nat) (cs : List Char) : Fault → Prop
  | .loneEscape j => ∃ before, cs = before ++ ['\\'] ∧ j = i + byteLength before
  | .unterminatedVariable j =>
      ∃ before after, cs = before ++ '{' :: after ∧ j = i + byteLength before
  | _ => False

theorem BreaksOff.append {i : Nat} {cs : List Char} {f : Fault} (us : List Char)
    (h : BreaksOff (i + byteLength us) cs f) : BreaksOff i (us ++ cs) f := by
  cases f with
  | loneEscape j =>
    obtain ⟨before, rfl, rfl⟩ := h
    exact ⟨us ++ before, by simp, by simp [Nat.add_assoc]⟩
  | unterminatedVariable j =>
    obtain ⟨before, after, rfl, rfl⟩ := h
    exact ⟨us ++ before, after, by simp, by simp [Nat.add_assoc]⟩
  | _ => exact h

theorem Scan.cons_eq_error {i : Nat} {item : Item} {scanned : Scan} {f : Fault}
    (h : Scan.cons i item scanned = .error f) : scanned = .error f := by
  cases scanned with
  | error e =>
    cases h
    rfl
  | ok items => cases h

mutual

theorem breaksOff_of_scan {f : Fault} : ∀ {cs : List Char} {i : Nat},
    scan i cs = .error f → BreaksOff i cs f
  | [], _, h => by rw [scan.eq_1] at h; cases h
  | c :: cs, i, h => by
    by_cases hopen : c = '{'
    · subst hopen
      rw [scan.eq_2] at h
      rcases breaksOff_of_scanName h with rfl | hrest
      · exact ⟨[], cs, rfl, rfl⟩
      · exact BreaksOff.append ['{'] hrest
    by_cases hescape : c = '\\'
    · subst hescape
      cases cs with
      | nil =>
        rw [scan.eq_4] at h
        cases h
        exact ⟨[], rfl, rfl⟩
      | cons d cs =>
        rw [scan.eq_5] at h
        have hrest := breaksOff_of_scan (Scan.cons_eq_error h)
        rw [Nat.add_assoc] at hrest
        exact BreaksOff.append ['\\', d] hrest
    by_cases hstars : c = '*' ∧ cs.head? = some '*'
    · obtain ⟨rfl, hhead⟩ := hstars
      obtain ⟨ds, rfl⟩ := List.head?_eq_some_iff.1 hhead
      rw [scan.eq_3] at h
      exact BreaksOff.append ['*', '*'] (breaksOff_of_scan (Scan.cons_eq_error h))
    · rw [scan_char hopen hescape fun hstar hhead => hstars ⟨hstar, hhead⟩] at h
      exact BreaksOff.append [c] (breaksOff_of_scan (Scan.cons_eq_error h))

theorem breaksOff_of_scanName {f : Fault} {start : Nat} : ∀ {cs read : List Char} {i : Nat},
    scanName start read i cs = .error f → f = .unterminatedVariable start ∨ BreaksOff i cs f
  | [], _, _, h => by
    rw [scanName.eq_1] at h
    cases h
    exact .inl rfl
  | c :: cs, _, _, h => by
    by_cases hclose : c = '}'
    · subst hclose
      rw [scanName.eq_2] at h
      exact .inr (BreaksOff.append ['}'] (breaksOff_of_scan (Scan.cons_eq_error h)))
    by_cases hcolon : c = ':'
    · subst hcolon
      rw [scanName.eq_3] at h
      exact (breaksOff_of_scanConstraint h).imp_right (BreaksOff.append [':'])
    · rw [scanName.eq_4 _ _ _ _ _ hclose hcolon] at h
      exact (breaksOff_of_scanName h).imp_right (BreaksOff.append [c])

theorem breaksOff_of_scanConstraint {f : Fault} {start : Nat} {name : String} :
    ∀ {cs read : List Char} {depth i : Nat}, scanConstraint start name read depth i cs = .error f →
      f = .unterminatedVariable start ∨ BreaksOff i cs f
  | [], _, _, _, h => by
    rw [scanConstraint.eq_1] at h
    cases h
    exact .inl rfl
  | c :: cs, _, depth, _, h => by
    by_cases hescape : c = '\\'
    · subst hescape
      cases cs with
      | nil =>
        rw [scanConstraint.eq_2] at h
        cases h
        exact .inr ⟨[], rfl, rfl⟩
      | cons d cs =>
        rw [scanConstraint.eq_3, Nat.add_assoc] at h
        exact (breaksOff_of_scanConstraint h).imp_right (BreaksOff.append ['\\', d])
    by_cases hopen : c = '{'
    · subst hopen
      rw [scanConstraint.eq_4] at h
      exact (breaksOff_of_scanConstraint h).imp_right (BreaksOff.append ['{'])
    by_cases hclose : c = '}'
    · subst hclose
      cases depth with
      | zero =>
        rw [scanConstraint.eq_5] at h
        exact .inr (BreaksOff.append ['}'] (breaksOff_of_scan (Scan.cons_eq_error h)))
      | succ depth =>
        rw [scanConstraint.eq_6] at h
        exact (breaksOff_of_scanConstraint h).imp_right (BreaksOff.append ['}'])
    · rw [scanConstraint.eq_7 _ _ _ _ _ _ _ (fun h => absurd h hescape)
        (fun _ _ h => absurd h hescape) hopen hclose] at h
      exact (breaksOff_of_scanConstraint h).imp_right (BreaksOff.append [c])

end

theorem isFoundIn_of_scan {text : String} {f : Fault} (h : scan 0 text.toList = .error f) :
    f.IsFoundIn text := by
  have hbreaks := breaksOff_of_scan h
  cases f with
  | loneEscape i =>
    obtain ⟨before, htext, rfl⟩ := hbreaks
    refine ⟨⟨before, [], by simpa using htext, (Nat.zero_add _).symm⟩, ?_⟩
    rw [utf8ByteSize_eq, htext, byteLength_append, Nat.zero_add]
    rfl
  | unterminatedVariable i =>
    obtain ⟨before, after, htext, rfl⟩ := hbreaks
    exact ⟨before, after, by simpa using htext, (Nat.zero_add _).symm⟩
  | _ => exact hbreaks.elim

/-! ## Items that are refused -/

section

variable {text : String} {policy : DuplicatePolicy} {o : Outline} {f : Fault}
  {items read rest : List (Located Item)}

/-- Items stand in the text where they say. -/
theorem standsAt_of_scan {i : Nat} {item : Item}
    (h : scan 0 text.toList = .ok (read ++ ⟨i, item⟩ :: rest)) :
    StandsAt text i item.spelling := by
  obtain ⟨us, vs, htext, -, hcuts⟩ := (scan_eq_ok_iff.1 h).split
  cases hcuts with
  | cons _ _ _ => exact ⟨us, _, by rw [htext, List.append_assoc], (Nat.zero_add _).symm⟩

/-- Items that follow each other stand next to each other. -/
theorem standsAt_pair_of_scan {i j : Nat} {item item' : Item}
    (h : scan 0 text.toList = .ok (read ++ ⟨i, item⟩ :: ⟨j, item'⟩ :: rest)) :
    StandsAt text i (item.spelling ++ item'.spelling) := by
  obtain ⟨us, vs, htext, -, hcuts⟩ := (scan_eq_ok_iff.1 h).split
  obtain _ | ⟨_, _, hcuts⟩ := hcuts
  cases hcuts with
  | @cons _ _ vs _ _ _ _ =>
    refine ⟨us, vs, ?_, (Nat.zero_add _).symm⟩
    rw [htext, List.append_assoc, List.append_assoc]

theorem isFoundIn_of_declaration {i : Nat} {name : String} {constraint : Option String}
    (hscan : scan 0 text.toList = .ok (read ++ ⟨i, .declaration name constraint⟩ :: rest))
    (h : Declaration.Refusal i ⟨name, constraint⟩ f) : f.IsFoundIn text := by
  have hdeclares : Declares text name constraint := ⟨_, hscan, i, by simp⟩
  cases h with
  | missingName =>
    obtain ⟨before, after, htext, hi⟩ := standsAt_of_scan hscan
    refine ⟨before, ?_, ?_, hi⟩
    · exact ((Item.declaration "" constraint).spelling ++ after).tail
    · rw [htext]
      cases constraint <;> simp [Item.spelling, Item.tokens, Token.spelling]
  | invalidStart hname hc => exact ⟨⟨constraint, hdeclares⟩, _, hname, hc⟩
  | invalidCharacter hname hfirst hbefore hc =>
    exact ⟨⟨constraint, hdeclares⟩, _, _, _, hname, hfirst, hbefore, hc⟩
  | emptyConstraint => exact hdeclares

theorem isFoundIn_of_refusal {x : Located Item}
    (hscan : scan 0 text.toList = .ok (read ++ x :: rest))
    (hread : (Outline.steps policy {} read).outcome = .ok o) (h : o.Refusal policy x f) :
    f.IsFoundIn text := by
  cases h with
  | brace | parenthesis _ | quantifier => exact standsAt_of_scan hscan
  | emptyGroup henclosing hblank =>
    obtain ⟨before, rfl⟩ := Outline.exists_opened_of_isBlank hread hblank henclosing
    rw [List.append_assoc] at hscan
    exact standsAt_pair_of_scan hscan
  | declaration hrefusal => exact isFoundIn_of_declaration hscan hrefusal
  | @duplicate i name constraint _ _ => exact ⟨constraint, _, hscan, i, by simp⟩

theorem isFoundIn_of_steps (hscan : scan 0 text.toList = .ok items)
    (h : (Outline.steps policy {} items).outcome = .error f) : f.IsFoundIn text := by
  obtain ⟨read, x, rest, o, rfl, hread, hx⟩ := Outline.exists_refused_of_steps h
  exact isFoundIn_of_refusal hscan hread (Outline.refusal_of_step hx)

theorem isFoundIn_of_unmatched {start : Nat} (hscan : scan 0 text.toList = .ok items)
    (h : start ∈ unmatched items) : (Fault.unterminatedGroup start).IsFoundIn text := by
  obtain ⟨read, rest, rfl⟩ := List.append_of_mem (mem_of_mem_unmatched h)
  exact standsAt_of_scan hscan

end

/-! ## Whole texts -/

theorem isFoundIn_of_parse {text : String} {options : Options} {e : Error}
    (h : (parse text options).outcome = .error e) : e.pattern = text ∧ e.fault.IsFoundIn text := by
  by_cases hlength : options.maxPatternLength.toNat < text.utf8ByteSize
  · rw [outcome_parse_of_lt hlength] at h
    cases h
    exact ⟨rfl, rfl⟩
  have hfits := Nat.not_lt.1 hlength
  cases hscan : scan 0 text.toList with
  | error f =>
    rw [outcome_parse_of_le hfits, hscan] at h
    cases h
    exact ⟨rfl, isFoundIn_of_scan hscan⟩
  | ok items =>
    cases hsteps : (Outline.steps options.duplicates {} items).outcome with
    | error f =>
      rw [outcome_parse_of_refused hfits hscan hsteps] at h
      cases h
      exact ⟨rfl, isFoundIn_of_steps hscan hsteps⟩
    | ok o =>
      rw [outcome_parse_of_taken hfits hscan hsteps] at h
      split at h
      · next start hhead =>
        cases h
        exact ⟨rfl, isFoundIn_of_unmatched hscan (List.mem_of_head? hhead)⟩
      · cases h

/-- An offset that a fault carries is where some characters stand. -/
theorem Fault.IsFoundIn.standsAt {text : String} {f : Fault} (h : f.IsFoundIn text) {i : Nat}
    (hi : i ∈ f.offset?) : ∃ c cs, StandsAt text i (c :: cs) := by
  cases f with
  | loneEscape _ =>
    cases hi
    exact ⟨_, _, h.1⟩
  | unterminatedVariable _ | unexpectedBrace _ | unexpectedParenthesis _ | unterminatedGroup _
  | emptyGroup _ | danglingQuantifier _ | missingName _ =>
    cases hi
    exact ⟨_, _, h⟩
  | _ => cases hi

/-- A text that is not accepted has what its error complains about, and where the error points there
is a character of the text. -/
theorem error_points_at_offender {text : String} {options : Options} {e : Error}
    (h : (parse text options).outcome = .error e) :
    e.pattern = text ∧ e.fault.IsFoundIn text ∧
      ∀ i ∈ e.fault.offset?, i < text.utf8ByteSize ∧ (⟨i⟩ : String.Pos.Raw).IsValid text := by
  obtain ⟨hpattern, hfound⟩ := isFoundIn_of_parse h
  refine ⟨hpattern, hfound, fun i hi => ?_⟩
  obtain ⟨c, cs, hstands⟩ := hfound.standsAt hi
  exact hstands.isValid

/-- An empty group behind characters of several bytes and a group that is still open. -/
theorem error_points_at_offender_multibyte :
    (parse "é(\\€()").outcome = .error ⟨"é(\\€()", .emptyGroup 7⟩ ∧
      StandsAt "é(\\€()" 7 ['(', ')'] ∧ 7 < "é(\\€()".utf8ByteSize ∧
      (⟨7⟩ : String.Pos.Raw).IsValid "é(\\€()" := by
  have herror : (parse "é(\\€()").outcome = .error ⟨"é(\\€()", .emptyGroup 7⟩ := by rfl
  obtain ⟨-, hfound, hoffset⟩ := error_points_at_offender herror
  exact ⟨herror, hfound, hoffset 7 rfl⟩

end PathGlob.Pattern

-- SUMMARY: Text with its reserved characters escaped is a pattern for that text alone.
import PathGlob.Proofs.Pattern.Compilability
import PathGlob.Proofs.Pattern.Language

/-!
# Quoted text

A backslash takes any meaning from the character after it. So text is a pattern for itself once
every character with a meaning of its own has a backslash in front, whether or not other characters
have one. Such a pattern is a sequence of literals, whose regex grows with the bytes of the text.
-/

namespace PathGlob

/-! ## Sizes -/

/-- A single number is covered by a single sequence. -/
theorem exists_byteSequences_self (mark more k : Nat) :
    ∃ seq, byteSequences mark more k k = [seq] ∧ seq.length = more + 1 := by
  induction more generalizing mark k with
  | zero => exact ⟨_, rfl, rfl⟩
  | succ more ih =>
    obtain ⟨seq, hseq, hlength⟩ := ih 0x80 (k % 64 ^ (more + 1))
    have hstep : byteSequences mark (more + 1) k k =
        (byteSequences 0x80 more (k % 64 ^ (more + 1)) (k % 64 ^ (more + 1))).map
          ((mark + k / 64 ^ (more + 1), mark + k / 64 ^ (more + 1)) :: ·) := if_pos rfl
    exact ⟨_, hstep.trans (congrArg _ hseq), congrArg Nat.succ hlength⟩

/-- A character is encoded in one way. -/
theorem length_flatten_encodings (c : Char) :
    (encodings c.toNat c.toNat).flatten.length = c.utf8Size := by
  -- Of the ranges of each length, the one that the character is in adds that length.
  have hrange (mark more first last : Nat) :
      (if max c.toNat first ≤ min c.toNat last then
        byteSequences mark more (max c.toNat first) (min c.toNat last) else []).flatten.length =
          if first ≤ c.toNat ∧ c.toNat ≤ last then more + 1 else 0 := by
    by_cases h : first ≤ c.toNat ∧ c.toNat ≤ last
    · obtain ⟨seq, hseq, hlength⟩ := exists_byteSequences_self mark more c.toNat
      rw [if_pos h, if_pos (by omega), Nat.max_eq_left h.1, Nat.min_eq_left h.2, hseq,
        List.flatten_singleton, hlength]
    · rw [if_neg h, if_neg (by omega), List.flatten_nil, List.length_nil]
  have hvalid := c.valid
  simp only [UInt32.isValidChar, Nat.isValidChar] at hvalid
  have hval : c.val.toNat = c.toNat := rfl
  simp only [encodings, encodedRanges, List.flatMap_cons, List.flatMap_nil, List.flatten_append,
    List.length_append, hrange, Char.utf8Size, UInt32.le_iff_toNat_le, UInt32.toNat_ofNatLT, hval,
    List.flatten_nil, List.length_nil]
  obtain h | h | h | h | h : c.toNat ≤ 0x7F ∨ 0x80 ≤ c.toNat ∧ c.toNat ≤ 0x7FF ∨
      0x800 ≤ c.toNat ∧ c.toNat ≤ 0xD7FF ∨ 0xE000 ≤ c.toNat ∧ c.toNat ≤ 0xFFFF ∨
        0x10000 ≤ c.toNat ∧ c.toNat ≤ 0x10FFFF := by omega
  all_goals simp (disch := omega) only [if_pos, if_neg]

theorem CharSet.size_singleton (kind : ProgramKind) (c : Char) :
    (CharSet.singleton c).size kind = instructionSize * c.utf8Size := by
  have hranges : (CharSet.singleton c).ranges = [(c.toNat, c.toNat)] := by
    rw [singleton, insert, dif_pos (Nat.le_refl _)]
    rfl
  have hsingle : (CharSet.singleton c).isSingle = true := by
    simp [isSingle, isTiny, hranges]
  have hencodings : (CharSet.singleton c).encodings = PathGlob.encodings c.toNat c.toNat := by
    rw [CharSet.encodings, hranges, List.flatMap_singleton]
  rw [size, if_pos hsingle, hencodings, length_flatten_encodings]

namespace Regex

theorem bodySize_append_le (kind : ProgramKind) (r s : Regex Atom) :
    (r.append s).bodySize kind false ≤ r.bodySize kind false + s.bodySize kind false := by
  induction r with
  | empty => exact Nat.le_add_left _ _
  | cat r r' _ ih =>
    show r.bodySize kind false + (r'.append s).bodySize kind false ≤
      r.bodySize kind false + r'.bodySize kind false + s.bodySize kind false
    omega
  | _ =>
    cases s with
    | empty => exact Nat.le_add_right _ _
    | _ => exact Nat.le_refl _

theorem bodySize_ofChar (kind : ProgramKind) (c : Char) :
    (ofChar c).bodySize kind false = instructionSize * c.utf8Size :=
  CharSet.size_singleton kind c

/-- The anchors take an instruction each, and so does going into a program and out of it. -/
theorem size_anchored_le {r : Regex Atom} {n : Nat}
    (h : ∀ kind, r.bodySize kind false ≤ n) : (anchored r).size ≤ n + 6 * instructionSize := by
  have hbody (kind : ProgramKind) :
      (anchored r).bodySize kind false ≤ n + 2 * instructionSize := by
    have houter := bodySize_append_le kind (.atom (.look .textStart))
      (r.append (.atom (.look .textEnd)))
    have hinner := bodySize_append_le kind r (.atom (.look .textEnd))
    have hlook (l : Look) : bodySize kind false (.atom (.look l)) = instructionSize := rfl
    rw [hlook] at houter hinner
    have := h kind
    rw [anchored]
    omega
  have hforwards := hbody ⟨true, true⟩
  have hbackwards := hbody ⟨false, false⟩
  simp only [size, programSize, matchSize]
  split_ifs <;> omega

end Regex

namespace Pattern

theorem constraints_eq_nil_of_declarations {p : Pattern} (h : p.declarations = []) :
    p.constraints = [] := by
  rw [constraints, h]
  rfl

/-- The sequence of the characters of a text. -/
def ofText : List Char → Pattern
  | [] => .empty
  | c :: cs => .seq (.literal c) (ofText cs)

section

variable (s : List Char)

theorem declarations_ofText : (ofText s).declarations = [] := by
  induction s with
  | nil => rfl
  | cons c s ih => exact ih

theorem constraints_ofText : (ofText s).constraints = [] :=
  constraints_eq_nil_of_declarations (declarations_ofText s)

theorem depth_ofText : (ofText s).depth = 0 := by
  induction s with
  | nil => rfl
  | cons c s ih =>
    rw [ofText, depth, ih]
    rfl

theorem language_ofText : (ofText s).language = {s} := by
  induction s with
  | nil => rfl
  | cons c s ih =>
    rw [ofText, language, ih]
    exact Set.image2_singleton

theorem bodySize_expression_ofText (kind : ProgramKind) (n : Nat) :
    ((ofText s).expression n).bodySize kind false ≤
      instructionSize * byteLength s + instructionSize := by
  induction s with
  | nil => exact Nat.le_add_left _ _
  | cons c s ih =>
    have happend := Regex.bodySize_append_le kind (.ofChar c) ((ofText s).expression n)
    rw [Regex.bodySize_ofChar] at happend
    rw [byteLength_cons, Nat.mul_add]
    exact happend.trans (by omega)

end

/-! ## Quoting -/

/-- A text with a backslash in front of some of its characters. -/
def quoteWhere (escaped : Char → Bool) (s : List Char) : List Char :=
  s.flatMap fun c => if escaped c then ['\\', c] else [c]

/-- A text with a backslash in front of every character. -/
def quoteAll (s : String) : String := .ofList (quoteWhere (fun _ => true) s.toList)

/-- A text with a backslash in front of every character that has a meaning of its own. -/
def quoteReserved (s : String) : String := .ofList (quoteWhere (IsReserved ·) s.toList)

section

variable {escaped : Char → Bool} (hreserved : ∀ c, IsReserved c → escaped c = true)

include hreserved in
theorem derives_quoteWhere (s : List Char) :
    Derives .sequence (quoteWhere escaped s) (ofText s) := by
  induction s with
  | nil => exact .nil
  | cons c s ih =>
    rw [quoteWhere, List.flatMap_cons, ← quoteWhere]
    refine .cons ?_ ih
    split
    · exact .escaped
    · next hplain => exact .literal fun hc => hplain (hreserved c hc)

theorem byteLength_le_quoteWhere (escaped : Char → Bool) (s : List Char) :
    byteLength s ≤ byteLength (quoteWhere escaped s) := by
  induction s with
  | nil => exact Nat.le_refl _
  | cons c s ih =>
    rw [quoteWhere, List.flatMap_cons, ← quoteWhere, byteLength_append, byteLength_cons]
    split <;> simp only [byteLength_cons, byteLength_nil] <;> omega

end

theorem spells_of_mem_quoted {s text : String} (h : text ∈ [quoteAll s, quoteReserved s]) :
    Spells text (ofText s.toList) ∧ byteLength s.toList ≤ text.utf8ByteSize := by
  obtain ⟨escaped, hreserved, rfl⟩ : ∃ escaped : Char → Bool,
      (∀ c, IsReserved c → escaped c = true) ∧ text = .ofList (quoteWhere escaped s.toList) := by
    rcases List.mem_cons.1 h with rfl | h
    · exact ⟨_, fun _ _ => rfl, rfl⟩
    · rw [List.mem_singleton.1 h]
      exact ⟨_, fun _ => decide_eq_true, rfl⟩
  constructor
  · rw [Spells, String.toList_ofList]
    exact .last (derives_quoteWhere hreserved s.toList)
  · rw [utf8ByteSize_ofList]
    exact byteLength_le_quoteWhere escaped s.toList

end Pattern

/-! ## Matchers -/

namespace Matcher

/-- A pattern without variables whose expression takes little room compiles. The anchors around it
have their room too. -/
theorem exists_compile_of_bodySize {text : String} {p : Pattern}
    (hp : (Pattern.parse text).outcome = .ok p) (hnone : p.declarations = [])
    (hdepth : p.depth ≤ 50)
    (hsize : ∀ kind,
      (p.expression 0).bodySize kind false + 6 * instructionSize ≤ defaultSizeLimit) :
    ∃ m, (compile text).outcome = .ok m ∧ m.slots = [] := by
  have hspells := Pattern.spells_of_parse hp
  have hc := Pattern.constraints_eq_nil_of_declarations hnone
  obtain ⟨r, slots, hr, hslots, hnames, -⟩ := hspells.exists_ofSource hc hdepth false
  have hlimit : r.size ≤ defaultSizeLimit := by
    rw [hspells.ofSource_eq hc hr]
    have hanchored := Regex.size_anchored_le (r := p.expression 0)
      fun kind => Nat.le_sub_of_add_le (hsize kind)
    have hroom : 6 * instructionSize ≤ defaultSizeLimit := by decide
    omega
  have hconstraints : (checkConstraints text p.constraints).outcome = .ok () := by
    rw [hc]
    rfl
  refine ⟨⟨⟨_, r⟩, slots⟩, outcome_compile_eq_ok_iff.2 ⟨rfl, _, hp, hconstraints,
    CompiledRegex.compile_eq_ok_iff.2 ⟨rfl, hr, hlimit⟩, hslots⟩, ?_⟩
  rw [Pattern.variableNames, hnone, List.map_nil, List.map_eq_nil_iff] at hnames
  exact hnames

/-- The regex of a sequence of literals takes little room: some hundred bytes, and an instruction
for each byte of the text. -/
theorem exists_compile_ofText {text : String} {s : List Char}
    (hp : (Pattern.parse text).outcome = .ok (.ofText s))
    (hlength : Pattern.byteLength s ≤ defaultMaxPatternLength.toNat) :
    ∃ m, (compile text).outcome = .ok m ∧ m.slots = [] := by
  refine exists_compile_of_bodySize hp (Pattern.declarations_ofText s)
    (by rw [Pattern.depth_ofText]; omega) fun kind => ?_
  have hbody := Pattern.bodySize_expression_ofText s kind 0
  have hmax : defaultMaxPatternLength.toNat = 4096 := rfl
  simp only [instructionSize, defaultSizeLimit] at hbody ⊢
  omega

theorem run_of_slots_eq_nil {m : Matcher} (h : m.slots = []) (path : String) :
    m.run path = if m.isMatch path then .matched [] else .noMatch := by
  rw [run, isMatch, ← Regex.isSome_find?, h]
  cases m.regex.regex.find? path.toList <;> rfl

/-- Text that is quoted, be it in full or where it has to be, compiles to a matcher of that text and
of no other. -/
theorem quoted_matches_only_itself {s text : String}
    (hquoted : text ∈ [Pattern.quoteAll s, Pattern.quoteReserved s])
    (hlength : text.utf8ByteSize ≤ defaultMaxPatternLength.toNat) :
    ∃ m, (compile text).outcome = .ok m ∧ m.variableNames = [] ∧
      ∀ path, m.run path = if path = s then .matched [] else .noMatch := by
  obtain ⟨hspells, hle⟩ := Pattern.spells_of_mem_quoted hquoted
  have hp : (Pattern.parse text).outcome = .ok (.ofText s.toList) :=
    Pattern.outcome_parse_eq_ok_iff_spells.2 ⟨hlength, hspells, nofun⟩
  obtain ⟨m, hm, hslots⟩ := exists_compile_ofText hp (hle.trans hlength)
  have hstages := stages_of_spells hm hspells
  refine ⟨m, hm, by rw [variableNames, hslots, List.map_nil], fun path => ?_⟩
  have hmatch : m.isMatch path = true ↔ path = s := by
    rw [hstages.isMatch_iff rfl (Pattern.constraints_ofText _), Pattern.language_ofText]
    exact Set.mem_singleton_iff.trans String.toList_inj
  rw [run_of_slots_eq_nil hslots, if_congr hmatch rfl rfl]

/-- Of these characters only the first and the last have to be escaped. -/
theorem quoted_matches_only_itself_reserved :
    "\\\\d/\\?" ∈ [Pattern.quoteAll "\\d/?", Pattern.quoteReserved "\\d/?"] ∧
      ∃ m, (compile "\\\\d/\\?").outcome = .ok m ∧ m.variableNames = [] ∧
        ∀ path, m.run path = if path = "\\d/?" then .matched [] else .noMatch := by
  have hquoted : "\\\\d/\\?" ∈ [Pattern.quoteAll "\\d/?", Pattern.quoteReserved "\\d/?"] := by
    decide +kernel
  exact ⟨hquoted, quoted_matches_only_itself hquoted (by decide +kernel)⟩

end Matcher

end PathGlob

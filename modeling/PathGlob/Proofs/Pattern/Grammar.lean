-- SUMMARY: The grammar of path patterns as a relation between texts and syntax trees.
import PathGlob.Pattern

/-!
# The grammar of patterns

`Derives` relates pattern text to the trees it spells, without reference to how text is read.
Stars are cut from the left into pairs, which is what the conditions on the text after a wildcard
say: a lone star has no star after it, and a pair that is not followed by a slash is `anything`.
-/

namespace PathGlob.Pattern

/-! ## Words -/

/-- A character with a meaning of its own in patterns. -/
def IsReserved (c : Char) : Prop := c ∈ ['{', '}', '*', '\\', '.', '(', ')', '|', '?']

instance (c : Char) : Decidable (IsReserved c) := inferInstanceAs (Decidable (c ∈ _))

/-- `[A-Za-z_]` -/
def IsInitial (c : Char) : Prop := 'A' ≤ c ∧ c ≤ 'Z' ∨ 'a' ≤ c ∧ c ≤ 'z' ∨ c = '_'

instance (c : Char) : Decidable (IsInitial c) :=
  inferInstanceAs (Decidable (_ ∧ _ ∨ _ ∧ _ ∨ _ = _))

/-- `[A-Za-z0-9_]` -/
def IsFollowing (c : Char) : Prop := IsInitial c ∨ '0' ≤ c ∧ c ≤ '9'

instance (c : Char) : Decidable (IsFollowing c) := inferInstanceAs (Decidable (_ ∨ _ ∧ _))

/-- `[A-Za-z_][A-Za-z0-9_]*` -/
inductive IsName : List Char → Prop
  | intro {c : Char} {cs : List Char} : IsInitial c → (∀ d ∈ cs, IsFollowing d) → IsName (c :: cs)

/-- Text whose unescaped braces balance. A backslash takes the next character with it. -/
inductive Balanced : List Char → Prop
  | nil : Balanced []
  | char {c : Char} {cs : List Char} :
      c ≠ '{' → c ≠ '}' → c ≠ '\\' → Balanced cs → Balanced (c :: cs)
  | escape {c : Char} {cs : List Char} : Balanced cs → Balanced ('\\' :: c :: cs)
  | braces {cs ds : List Char} :
      Balanced cs → Balanced ds → Balanced ('{' :: cs ++ '}' :: ds)

/-! ## Phrases -/

inductive Phrase where
  /-- Sequences with bars between them. -/
  | alternatives
  /-- Any number of items. -/
  | sequence
  /-- What may be made optional. -/
  | unit

/-- The texts of a kind of phrase, with the tree each stands for. -/
inductive Derives : Phrase → List Char → Pattern → Prop
  | last {cs : List Char} {p : Pattern} : Derives .sequence cs p → Derives .alternatives cs p
  | bar {cs ds : List Char} {p q : Pattern} :
      Derives .sequence cs p → Derives .alternatives ds q →
      Derives .alternatives (cs ++ '|' :: ds) (.alt p q)
  | nil : Derives .sequence [] .empty
  | segment {cs : List Char} {p : Pattern} :
      cs.head? ≠ some '*' → Derives .sequence cs p →
      Derives .sequence ('*' :: cs) (.seq .segment p)
  | directories {cs : List Char} {p : Pattern} :
      Derives .sequence cs p → Derives .sequence ('*' :: '*' :: '/' :: cs) (.seq .directories p)
  | anything {cs : List Char} {p : Pattern} :
      cs.head? ≠ some '/' → Derives .sequence cs p →
      Derives .sequence ('*' :: '*' :: cs) (.seq .anything p)
  | cons {cs ds : List Char} {p q : Pattern} :
      Derives .unit cs p → Derives .sequence ds q → Derives .sequence (cs ++ ds) (.seq p q)
  | consOptional {cs ds : List Char} {p q : Pattern} :
      Derives .unit cs p → Derives .sequence ds q →
      Derives .sequence (cs ++ '?' :: ds) (.seq (.optional p) q)
  | fullStop : Derives .unit ['.'] (.literal '.')
  | literal {c : Char} : ¬ IsReserved c → Derives .unit [c] (.literal c)
  | escaped {c : Char} : Derives .unit ['\\', c] (.literal c)
  | group {cs : List Char} {p : Pattern} :
      Derives .alternatives cs p → cs ≠ [] → Derives .unit ('(' :: cs ++ [')']) (.group p)
  | var {name : List Char} :
      IsName name → Derives .unit ('{' :: name ++ ['}']) (.var ⟨.ofList name, none⟩)
  | constrained {name raw : List Char} :
      IsName name → raw ≠ [] → Balanced raw →
      Derives .unit ('{' :: name ++ ':' :: raw ++ ['}']) (.var ⟨.ofList name, some (.ofList raw)⟩)

/-- The text of a pattern, with its tree. -/
def Spells (text : String) (p : Pattern) : Prop := Derives .alternatives text.toList p

end PathGlob.Pattern

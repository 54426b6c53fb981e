-- SUMMARY: Reading what follows a backslash.
import PathGlob.Regex.Ast
import PathGlob.Regex.Reading

/-!
# Escapes
-/

namespace PathGlob.Regex

open PathGlob.Unicode

/-- What an escape stands for. -/
inductive Escape where
  | literal (l : Literal)
  | assertion (a : Assertion)
  | shorthand (s : Shorthand) (negated : Bool)
  | property (p : PropertyName) (negated : Bool)

def Escape.toAst : Escape → Ast
  | .literal l => .literal l
  | .assertion a => .assertion a
  | .shorthand s negated => .shorthand s negated
  | .property p negated => .property p negated

def isHexDigit (c : Char) : Bool := (hexValue? c).isSome

/-- The character with a code point, which has to be one. -/
def charOfCode? (n : Nat) : Option Char :=
  if n.isValidChar then some (Char.ofNat n) else none

/-- Reads a code point in hexadecimal: in braces, or else with exactly `width` digits. -/
def readHex (verbose : Bool) (width : Nat) (cs : List Char) : Option (Literal × List Char) :=
  match skip verbose cs with
  | '{' :: cs =>
    match takeAll verbose isHexDigit cs with
    | (d :: ds, '}' :: rest) =>
      (charOfCode? (valueOf 16 (d :: ds))).map fun c => (⟨c, false⟩, rest)
    | _ => none
  | cs =>
    let (ds, rest) := takeSpaced verbose isHexDigit width false cs
    if ds.length = width then
      (charOfCode? (valueOf 16 ds)).map fun c => (⟨c, width = 2⟩, rest)
    else none

/-- Splits a text at the first place where `sep` stands. -/
def splitAtFirst? (sep : List Char) : List Char → Option (List Char × List Char)
  | [] => none
  | c :: cs =>
    if sep.isPrefixOf (c :: cs) then some ([], (c :: cs).drop sep.length)
    else (splitAtFirst? sep cs).map fun r => (c :: r.1, r.2)

/-- The property named between braces, a name or a name with a value, and whether the value is
excluded. -/
def propertyOf (cs : List Char) : PropertyName × Bool :=
  let valued (r : List Char × List Char) := PropertyName.valued (.ofList r.1) (.ofList r.2)
  match splitAtFirst? ['!', '='] cs with
  | some r => (valued r, true)
  | none =>
    match (splitAtFirst? [':'] cs).or (splitAtFirst? ['='] cs) with
    | some r => (valued r, false)
    | none => (.binary (.ofList cs), false)

/-- Reads the name of a property: in braces, or else a single character. -/
def readProperty (verbose : Bool) (cs : List Char) :
    Option ((PropertyName × Bool) × List Char) :=
  match skip verbose cs with
  | [] => none
  | '{' :: cs =>
    match takeAll verbose (· != '}') cs with
    | (name, '}' :: rest) => some (propertyOf name, rest)
    | _ => none
  | c :: rest => if c = '\\' then none else some ((.binary c.toString, false), rest)

/-- Reads a property after `\p`, or after `\P` if `negated`. -/
def readPropertyEscape (verbose negated : Bool) (cs : List Char) : Option (Escape × List Char) :=
  (readProperty verbose cs).map fun ((p, excluded), rest) =>
    (.property p (negated != excluded), rest)

/-- The boundaries named between braces after `\b`. -/
def boundaryOfName? (name : String) : Option Assertion :=
  if name = "start" then some .wordStart
  else if name = "end" then some .wordEnd
  else if name = "start-half" then some .wordStartHalf
  else if name = "end-half" then some .wordEndHalf
  else none

/-- Reads what may follow `\b`. A brace with a letter or hyphen after it names a boundary;
any other brace begins a repetition and is left alone. -/
def readBoundary (verbose : Bool) : List Char → Option (Assertion × List Char)
  | '{' :: cs =>
    let p := fun c : Char => c.isAlpha || c == '-'
    match skip verbose cs with
    | [] => none
    | c :: _ =>
      if p c then
        match takeAll verbose p cs with
        | (name, '}' :: rest) => (boundaryOfName? (.ofList name)).map (·, rest)
        | _ => none
      else some (.wordBoundary, '{' :: cs)
  | cs => some (.wordBoundary, cs)

/-- The characters with a meaning of their own somewhere in an expression. -/
def metaChars : List Char := "\\.+*?()|[]\x7b\x7d^$#&-~".toList

/-- Whether a backslash leaves a character as it is: so for all of ASCII but letters, digits
and angle brackets. -/
def isEscapable (c : Char) : Bool :=
  metaChars.contains c || (c.toNat < 128 && !c.isAlphanum && c != '<' && c != '>')

/-- The characters written as a backslash and a letter. -/
def namedChar? (c : Char) : Option Char :=
  if c = 'a' then some '\x07'
  else if c = 'f' then some '\x0C'
  else if c = 't' then some '\t'
  else if c = 'n' then some '\n'
  else if c = 'r' then some '\r'
  else if c = 'v' then some '\x0B'
  else none

/-- The assertions written as a backslash and one character, `\b` aside. -/
def namedAssertion? (c : Char) : Option Assertion :=
  if c = 'A' then some .textStart
  else if c = 'z' then some .textEnd
  else if c = 'B' then some .notWordBoundary
  else if c = '<' then some .wordStart
  else if c = '>' then some .wordEnd
  else none

/-- The classes written as a backslash and a letter; a capital negates. -/
def namedClass? (c : Char) : Option (Shorthand × Bool) :=
  if c = 'd' then some (.digit, false)
  else if c = 's' then some (.space, false)
  else if c = 'w' then some (.word, false)
  else if c = 'D' then some (.digit, true)
  else if c = 'S' then some (.space, true)
  else if c = 'W' then some (.word, true)
  else none

/-- Reads an escape whose backslash has been read. -/
def readEscape (verbose : Bool) : List Char → Option (Escape × List Char)
  | [] => none
  | c :: cs =>
    if c = 'x' then (readHex verbose 2 cs).map fun r => (.literal r.1, r.2)
    else if c = 'u' then (readHex verbose 4 cs).map fun r => (.literal r.1, r.2)
    else if c = 'U' then (readHex verbose 8 cs).map fun r => (.literal r.1, r.2)
    else if c = 'p' then readPropertyEscape verbose false cs
    else if c = 'P' then readPropertyEscape verbose true cs
    else if c = 'b' then (readBoundary verbose cs).map fun r => (.assertion r.1, r.2)
    else if isEscapable c then some (.literal ⟨c, false⟩, cs)
    else match namedChar? c, namedAssertion? c, namedClass? c with
      | some d, _, _ => some (.literal ⟨d, false⟩, cs)
      | _, some a, _ => some (.assertion a, cs)
      | _, _, some (s, negated) => some (.shorthand s negated, cs)
      | _, _, _ => none

end PathGlob.Regex

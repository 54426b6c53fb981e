-- SUMMARY: Flags of a regular expression, written settings of them, and their state.

/-!
# Flags

A flag is switched on or off by a setting in the text and stays so to the end of the
enclosing group.
-/

namespace PathGlob.Regex

inductive Flag where
  | caseInsensitive
  | multiLine
  | dotAll
  | swapGreed
  | unicode
  | crlf
  | verbose
  deriving DecidableEq

def Flag.ofChar? (c : Char) : Option Flag :=
  if c = 'i' then some .caseInsensitive
  else if c = 'm' then some .multiLine
  else if c = 's' then some .dotAll
  else if c = 'U' then some .swapGreed
  else if c = 'u' then some .unicode
  else if c = 'R' then some .crlf
  else if c = 'x' then some .verbose
  else none

/-- Flags switched on (`true`) or off, in the order of the text. -/
abbrev Settings := List (Flag × Bool)

/-- The setting of one flag, if it is mentioned. -/
def Settings.get? (s : Settings) (f : Flag) : Option Bool := List.lookup f s

/-- The flags in effect at a place. Verbose mode is left out, since it only says how the
text is read. -/
structure Flags where
  caseInsensitive : Bool := false
  multiLine : Bool := false
  dotAll : Bool := false
  swapGreed : Bool := false
  unicode : Bool := true
  crlf : Bool := false
  deriving DecidableEq

/-- The flags in effect after some settings. -/
def Flags.update (f : Flags) (s : Settings) : Flags where
  caseInsensitive := (s.get? .caseInsensitive).getD f.caseInsensitive
  multiLine := (s.get? .multiLine).getD f.multiLine
  dotAll := (s.get? .dotAll).getD f.dotAll
  swapGreed := (s.get? .swapGreed).getD f.swapGreed
  unicode := (s.get? .unicode).getD f.unicode
  crlf := (s.get? .crlf).getD f.crlf

end PathGlob.Regex

-- SUMMARY: Text in double quotes, with escapes for quotes, line ends and characters that do not show.
import PathGlob.Unicode.CharClass

/-!
# Quoted text
-/

namespace PathGlob.Text

open PathGlob.Unicode

/-- The halfwidth voicing marks, which extend the character before but stand by themselves. -/
def voicingMarks : CharSet := .ofList ['\uFF9E', '\uFF9F']

/-- Characters without a visible form of their own: controls, formats, separators other
than the space, unassigned code points, characters that may be ignored, and marks that extend the
character before. -/
def unseen : CharSet :=
  let marks := (property "graphemeextend").diff voicingMarks
  let listed := CharSet.unions
    [category "c", category "z", property "defaultignorablecodepoint", marks]
  ((listed.diff (added "all")).union (added "mark")).diff (.singleton ' ')

def hexDigits (n : Nat) : String := String.ofList (Nat.toDigits 16 n)

/-- One character inside quotes. -/
def escape (c : Char) : String :=
  if c = '"' then "\\\""
  else if c = '\\' then "\\\\"
  else if c = '\n' then "\\n"
  else if c = '\r' then "\\r"
  else if c = '\t' then "\\t"
  else if c.toNat = 0 then "\\0"
  else if unseen.contains c then "\\u\x7b" ++ hexDigits c.toNat ++ "\x7d"
  else c.toString

/-- A text in double quotes. -/
def quoted (s : String) : String :=
  "\"" ++ String.join (s.toList.map escape) ++ "\""

end PathGlob.Text

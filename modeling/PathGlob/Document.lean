-- SUMMARY: Untyped documents (null, booleans, numbers, text, arrays, objects) and how a complaint describes one.
import PathGlob.Decimal
import PathGlob.Text.Quoted

/-!
# Documents

A document is data of unknown shape, as a configuration file holds it.
-/

namespace PathGlob

inductive Document where
  | null
  | bool (b : Bool)
  /-- A whole number of at most 64 bits. -/
  | integer (n : Int)
  /-- Any other number, with its sign. -/
  | decimal (negative : Bool) (x : Decimal.Double)
  | string (s : String)
  | array (items : List Document)
  | object (fields : List (String × Document))
  deriving Inhabited

namespace Document

/-- How a complaint names the document it met. -/
def description : Document → String
  | .null => "null"
  | .bool b => "boolean `" ++ (if b then "true" else "false") ++ "`"
  | .integer n => "integer `" ++ toString n ++ "`"
  | .decimal negative x => "floating point `" ++ Decimal.text negative x ++ "`"
  | .string s => "string " ++ Text.quoted s
  | .array _ => "sequence"
  | .object _ => "map"

end Document

end PathGlob

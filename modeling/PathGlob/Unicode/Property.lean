-- SUMMARY: Looking up sets of characters by the name of a property, spelled loosely.
import PathGlob.Unicode.Age
import PathGlob.Unicode.BinaryProperty
import PathGlob.Unicode.GeneralCategory
import PathGlob.Unicode.Script
import PathGlob.Unicode.Segmentation

/-!
# Properties by name

Names are compared without regard to case, spaces, hyphens and underscores, and without an
`is` in front.
-/

namespace PathGlob.Unicode

/-- The loose spelling of a name. A lone `c` after `is` stays apart from the category `c`. -/
def looseName (name : String) : String :=
  let cs := name.toList
  let isPrefixed := (cs.take 2).map Char.toLower = ['i', 's']
  let body := (if isPrefixed then cs.drop 2 else cs).filter fun c =>
    c.toNat < 128 && !" _-".toList.contains c
  let loose := String.ofList (body.map Char.toLower)
  if isPrefixed ∧ loose = "c" then "isc" else loose

/-- The characters of a property, category or script with a given name. Three names are both
those of a property with values and of a category; they mean the category. -/
def namedSet? (name : String) : Option CharSet :=
  let name := looseName name
  let binary := if ["cf", "sc", "lc"].contains name then none else binaryProperty? name
  binary.or ((generalCategory? name).or (script? name))

/-- The set of a table with a given name. -/
def namedIn? (table : List NamedSet) (name : String) : Option CharSet :=
  (NamedSet.find? table name).map NamedSet.toCharSet

/-- The characters for which a property has a given value. -/
def valuedSet? (name value : String) : Option CharSet :=
  let name := looseName name
  let value := looseName value
  if ["gc", "generalcategory"].contains name then generalCategory? value
  else if ["sc", "script"].contains name then script? value
  else if ["scx", "scriptextensions"].contains name then scriptExtensions? value
  else if name = "age" then age? value
  else if ["gcb", "graphemeclusterbreak"].contains name then namedIn? graphemeBreaks value
  else if ["wb", "wordbreak"].contains name then namedIn? wordBreaks value
  else if ["sb", "sentencebreak"].contains name then namedIn? sentenceBreaks value
  else none

end PathGlob.Unicode

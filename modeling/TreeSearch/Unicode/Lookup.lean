import TreeSearch.Unicode.Age
import TreeSearch.Unicode.Segmentation

/-!
# Properties by name

Property names are compared loosely: the case of ASCII letters, blanks, hyphens and underscores do
not count, and neither does an `is` in front. `named?` finds a binary property, a general category
or a script; `valued?` finds the members of a property with a given value.
-/

namespace TreeSearch.Unicode

/-- The part of a name that counts in a comparison. `isc` keeps its `is`, for it is the abbreviation
of a property of its own and not the category `c`. -/
def looseName (name : String) : String :=
  let body := match name.toList with
    | i :: s :: rest =>
      if i.toLower = 'i' ∧ s.toLower = 's' then (true, rest) else (false, i :: s :: rest)
    | cs => (false, cs)
  let kept := body.2.filter fun c => c.toNat < 0x80 && c ≠ ' ' && c ≠ '_' && c ≠ '-'
  let loose := kept.map Char.toLower
  if body.1 && loose = ['c'] then "isc" else String.ofList loose

/-- The set that a single name stands for. Three abbreviations of general categories are also
abbreviations of properties, and stand for the categories. -/
def named? (name : String) : Option CodeSet :=
  let loose := looseName name
  let category := GeneralCategory.find? loose
  let script := (Script.find? loose).map Script.codes
  if loose = "cf" ∨ loose = "sc" ∨ loose = "lc" then category <|> script
  else Property.find? loose <|> category <|> script

/-- The set of characters whose property has the given value. -/
def valued? (name value : String) : Option CodeSet :=
  let property := looseName name
  let loose := looseName value
  if property = "gc" ∨ property = "generalcategory" then GeneralCategory.find? loose
  else if property = "sc" ∨ property = "script" then (Script.find? loose).map Script.codes
  else if property = "scx" ∨ property = "scriptextensions" then
    (Script.find? loose).map Script.extension
  else if property = "age" then Version.find? loose
  else if property = "gcb" ∨ property = "graphemeclusterbreak" then Segmentation.grapheme? loose
  else if property = "wb" ∨ property = "wordbreak" then Segmentation.word? loose
  else if property = "sb" ∨ property = "sentencebreak" then Segmentation.sentence? loose
  else none

end TreeSearch.Unicode

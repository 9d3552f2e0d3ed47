import TreeSearch.Unicode.Property
import TreeSearch.Unicode.Script

/-!
# Classes for finding boundaries

The characters fall into classes by which the boundaries of user-perceived characters, words and
sentences are found. Most classes are put together from properties, general categories and scripts.
Names are matched loosely, so they are listed in lower case without separators.
-/

namespace TreeSearch.Unicode.Segmentation

/-- The characters of the named script. -/
def ofScript (name : String) : CodeSet := ((Script.find? name).map Script.codes).getD .empty

/-- The line ends besides the two common ones. -/
def rareLineEnds : CodeSet := .read "B-C 85 2028-2029"

/-- The marks that stand in front of a number. -/
def numberSigns : CodeSet := (Property.codes "prependedconcatenationmark").diff (.read "70F")

/-! ## User-perceived characters -/

/-- Characters that continue the character before them. -/
def extending : CodeSet := Property.graphemeExtend.union (Property.codes "emojimodifier")

/-- Characters that belong to the character after them. -/
def preceding : CodeSet :=
  (Property.codes "prependedconcatenationmark").union
    (.read "D4E 111C2-111C3 113D1 1193F 11941 11A3A 11A84-11A89 11D46 11F02")

/-- Characters that stand alone and show nothing. -/
def controls : CodeSet :=
  ((Property.ofCategories [.lineSeparator, .paragraphSeparator, .control, .format]).union
      (GeneralCategory.unassigned.inter (Property.codes "defaultignorablecodepoint"))).diff
    (.unions [.read "A D 200C-200D", Property.codes "prependedconcatenationmark", extending])

/-- Marks with a width of their own that belong to the character before them. -/
def spacingMarks : CodeSet :=
  (((Property.ofCategories [.spacingMark]).diff extending).union (.read "E33 EB3")).diff
    (.read
      "102B 102C 1038 1062-1064 1067-106D 1083 1087-108C 108F 109A-109C 1A61 1A63 1A64 AA7B AA7D
       11720 11721")

/-- The syllables without a final consonant, each of which starts a row of 28. -/
def openSyllables : CodeSet :=
  .ofRanges ((List.range 399).map fun i => ⟨0xAC00 + 28 * i, 0xAC00 + 28 * i⟩)

/-- The class of the given name for user-perceived characters. -/
def grapheme? (name : String) : Option CodeSet :=
  match name with
  | "cr" => some (.read "D")
  | "lf" => some (.read "A")
  | "cn" | "control" => some controls
  | "ex" | "extend" => some extending
  | "zwj" => some (.read "200D")
  | "ri" | "regionalindicator" => some (Property.codes "regionalindicator")
  | "pp" | "prepend" => some preceding
  | "sm" | "spacingmark" => some spacingMarks
  | "l" => some (.read "1100-115F A960-A97C")
  | "v" => some (.read "1160-11A7 D7B0-D7C6 16D63 16D67-16D6A")
  | "t" => some (.read "11A8-11FF D7CB-D7FB")
  | "lv" => some openSyllables
  | "lvt" => some ((CodeSet.read "AC00-D7A3").diff openSyllables)
  | _ => none

/-! ## Words -/

/-- Characters that continue the character before them inside of a word. -/
def wordExtending : CodeSet := extending.union (Property.ofCategories [.spacingMark])

/-- The letters of Hebrew, in which words may hold quotation marks. -/
def hebrewLetters : CodeSet := (ofScript "hebrew").inter (Property.ofCategories [.otherLetter])

/-- Katakana and the marks used with it. -/
def katakana : CodeSet := (ofScript "katakana").union (.read "3031-3035 309B-309C 30A0 30FC FF70")

/-- Digits and the signs that belong to numbers. -/
def wordNumeric : CodeSet := .unions [Property.digit, numberSigns, .read "66B"]

/-- The blocks of scripts that are written without blanks between words. -/
def unspacedBlocks : CodeSet :=
  .read "E00-EFF 1000-109F 1780-17FF 1950-19DF 1A20-1AAF A9E0-A9FF AA60-AADF 11700-1174F"

/-- Letters of scripts with blanks between words. -/
def wordLetters : CodeSet :=
  (Property.alphabetic.union
      (.read
        "2C2-2C5 2D2-2D7 2DE-2DF 2E5-2EB 2ED 2EF-2FF 55A-55C 55E 58A 5F3 70F A708-A716 A720-A721
         A789-A78A AB5B")).diff
    (.unions [Property.codes "ideographic", katakana, ofScript "hiragana", wordExtending,
      hebrewLetters, unspacedBlocks])

/-- The class of the given name for words. -/
def word? (name : String) : Option CodeSet :=
  match name with
  | "cr" => some (.read "D")
  | "lf" => some (.read "A")
  | "nl" | "newline" => some rareLineEnds
  | "extend" => some wordExtending
  | "zwj" => some (.read "200D")
  | "ri" | "regionalindicator" => some (Property.codes "regionalindicator")
  | "fo" | "format" =>
    some ((Property.ofCategories [.format]).diff
      (.unions [.read "200B-200D", wordExtending, Property.codes "prependedconcatenationmark"]))
  | "ka" | "katakana" => some katakana
  | "hl" | "hebrewletter" => some hebrewLetters
  | "le" | "aletter" => some wordLetters
  | "sq" | "singlequote" => some (.read "27")
  | "dq" | "doublequote" => some (.read "22")
  | "mb" | "midnumlet" => some (.read "2E 2018-2019 2024 FE52 FF07 FF0E")
  | "ml" | "midletter" => some (.read "3A B7 387 55F 5F4 2027 FE13 FE55 FF1A")
  | "mn" | "midnum" =>
    some (.read "2C 3B 37E 589 60C-60D 66C 7F8 2044 FE10 FE14 FE50 FE54 FF0C FF1B")
  | "nu" | "numeric" => some wordNumeric
  | "ex" | "extendnumlet" => some (.read "5F 202F 203F-2040 2054 FE33-FE34 FE4D-FE4F FF3F")
  | "wsegspace" => some (.read "20 1680 2000-2006 2008-200A 205F 3000")
  | _ => none

/-! ## Sentences -/

/-- Characters that continue the character before them inside of a sentence. -/
def sentenceExtending : CodeSet :=
  .unions [Property.graphemeExtend, Property.ofCategories [.spacingMark], .read "200D"]

/-- Full stops, which also end abbreviations. -/
def fullStops : CodeSet := .read "2E 2024 FE52 FF0E"

/-- Letters in lower case. The Georgian ones have no part in the case of sentences. -/
def sentenceLower : CodeSet :=
  (Property.lowercase.diff Property.graphemeExtend).diff (.read "10D0-10FA 10FD-10FF")

/-- Letters in upper or title case. The Georgian ones have no part in the case of sentences. -/
def sentenceUpper : CodeSet :=
  (Property.uppercase.union (Property.ofCategories [.titlecaseLetter])).diff
    (.read "1C90-1CBA 1CBD-1CBF")

/-- The class of the given name for sentences. -/
def sentence? (name : String) : Option CodeSet :=
  match name with
  | "cr" => some (.read "D")
  | "lf" => some (.read "A")
  | "se" | "sep" => some (.read "85 2028-2029")
  | "ex" | "extend" => some sentenceExtending
  | "fo" | "format" =>
    some ((Property.ofCategories [.format]).diff
      (.unions [sentenceExtending, Property.codes "prependedconcatenationmark"]))
  | "sp" => some (Property.whiteSpace.diff (.read "A D 85 2028-2029"))
  | "lo" | "lower" => some sentenceLower
  | "up" | "upper" => some sentenceUpper
  | "le" | "oletter" =>
    some ((Property.alphabetic.union (.read "5F3 70F")).diff
      (.unions [sentenceLower, sentenceUpper, sentenceExtending]))
  | "nu" | "numeric" => some (wordNumeric.union (.read "66C"))
  | "at" | "aterm" => some fullStops
  | "sc" | "scontinue" =>
    some (.read
      "2C-2D 3A-3B 37E 55D 60C-60D 7F8 1802 1808 2013-2014 3001 FE10-FE11 FE13-FE14 FE31-FE32
       FE50-FE51 FE54-FE55 FE58 FE63 FF0C-FF0D FF1A-FF1B FF64")
  | "st" | "sterm" => some ((Property.codes "sentenceterminal").diff fullStops)
  | "cl" | "close" =>
    some ((Property.ofCategories
        [.openPunctuation, .closePunctuation, .initialPunctuation, .finalPunctuation]).union
      (.read "22 27 275B-2760 2E00-2E01 2E06-2E08 2E0B 1F676-1F678"))
  | _ => none

end TreeSearch.Unicode.Segmentation

import TreeSearch.Unicode.Later

/-!
# Quoted text

A text between quotation marks, in which every character that could be misread is written as an
escape: the quotation mark, the backslash, the usual control characters with a letter of their own,
and by its code point every other character that prints nothing or joins the character before it.
-/

namespace TreeSearch.Text

open Unicode

/-- The characters that print nothing: controls, unassigned and private characters, and all blanks
but the plain one. -/
def unprintable : CodeSet :=
  (Later.assigned.compl.union
    (Property.ofCategories
      [.control, .format, .privateUse, .lineSeparator, .paragraphSeparator, .spaceSeparator])).diff
    (.singleton ' ')

/-- The characters that join the character before them. The two sound marks of half width take a
place of their own. -/
def joining : CodeSet := Later.graphemeExtend.diff (.read "FF9E-FF9F")

/-- The characters that are written by their code points. Those that a display may leave out are
among them, whatever their category. -/
def codeEscaped : CodeSet :=
  .unions [unprintable, joining, Property.codes "defaultignorablecodepoint"]

/-- The escape of a character by its code point, in lower-case hexadecimal. -/
def codeEscape (c : Char) : String := "\\u\x7b" ++ String.ofList (Nat.toDigits 16 c.toNat) ++ "\x7d"

/-- How a character is written inside of quotation marks. -/
def quotedChar (c : Char) : String :=
  match c with
  | '"' => "\\\""
  | '\\' => "\\\\"
  | '\n' => "\\n"
  | '\r' => "\\r"
  | '\t' => "\\t"
  | '\x00' => "\\0"
  | c => if codeEscaped.contains c.toNat then codeEscape c else c.toString

/-- The text in quotation marks. -/
def quoted (text : String) : String :=
  "\"" ++ String.join (text.toList.map quotedChar) ++ "\""

end TreeSearch.Text

import TreeSearch.Unicode.Property

/-!
# Tests of places

A pattern can test the place between two characters: whether a line, a word or the text begins or
ends there.
-/

namespace TreeSearch.Pattern

/-- A test of the place between two characters. The word tests come for all words and for words of
ASCII characters. -/
inductive Look where
  | textStart
  | textEnd
  | lineStart
  | lineEnd
  | lineStartCrlf
  | lineEndCrlf
  | word (unicode : Bool)
  | notWord (unicode : Bool)
  | wordStart (unicode : Bool)
  | wordEnd (unicode : Bool)
  | wordStartHalf (unicode : Bool)
  | wordEndHalf (unicode : Bool)
deriving DecidableEq, Repr

/-- Whether a word can hold the character. -/
def isWordChar (unicode : Bool) (c : Char) : Bool :=
  if unicode then Unicode.Property.word.contains c.toNat else c.isAlphanum || c = '_'

/-- Whether there is a character, and a word can hold it. -/
def inWord (unicode : Bool) (c : Option Char) : Bool := c.any (isWordChar unicode)

/-- Whether the place between the characters `before` and `after` passes the test. A missing
character is an end of the text. -/
def Look.holds (before after : Option Char) : Look → Bool
  | .textStart => before.isNone
  | .textEnd => after.isNone
  | .lineStart => before.isNone || before = some '\n'
  | .lineEnd => after.isNone || after = some '\n'
  | .lineStartCrlf =>
    before.isNone || before = some '\n' || (before = some '\r' && after ≠ some '\n')
  | .lineEndCrlf =>
    after.isNone || after = some '\r' || (after = some '\n' && before ≠ some '\r')
  | .word u => inWord u before != inWord u after
  | .notWord u => inWord u before == inWord u after
  | .wordStart u => !inWord u before && inWord u after
  | .wordEnd u => inWord u before && !inWord u after
  | .wordStartHalf u => !inWord u before
  | .wordEndHalf u => !inWord u after

end TreeSearch.Pattern

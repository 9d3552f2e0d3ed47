/-!
# Faults of JSON texts

A fault has a reason and, as a rule, a position, which counts lines from one and the bytes of a line
from the first.
-/

namespace TreeSearch.Json

/-- A place in a text: the line, and the number of bytes of the line before the place. -/
structure Position where
  line : Nat
  column : Nat
deriving DecidableEq, Repr

namespace Position

/-- The start of a text. -/
def start : Position := ⟨1, 0⟩

/-- The place behind one more byte. -/
def advance (p : Position) (byte : UInt8) : Position :=
  if byte = 10 then ⟨p.line + 1, 0⟩ else ⟨p.line, p.column + 1⟩

end Position

/-- Why a text is no JSON value. -/
inductive Reason where
  | endInValue
  | endInList
  | endInObject
  | endInString
  | expectedValue
  | expectedWord
  | expectedColon
  | expectedListEnd
  | expectedObjectEnd
  | expectedKey
  | trailingComma
  | trailingCharacters
  | controlCharacter
  | invalidEscape
  | loneSurrogate
  | unfinishedPair
  | invalidText (undecoded : Nat)
  | invalidNumber
  | numberOutOfRange
  | readFailure (cause : String)
deriving DecidableEq, Repr

/-- The wording of a reason. -/
def Reason.message : Reason → String
  | .endInValue => "EOF while parsing a value"
  | .endInList => "EOF while parsing a list"
  | .endInObject => "EOF while parsing an object"
  | .endInString => "EOF while parsing a string"
  | .expectedValue => "expected value"
  | .expectedWord => "expected ident"
  | .expectedColon => "expected `:`"
  | .expectedListEnd => "expected `,` or `]`"
  | .expectedObjectEnd => "expected `,` or `\x7d`"
  | .expectedKey => "key must be a string"
  | .trailingComma => "trailing comma"
  | .trailingCharacters => "trailing characters"
  | .controlCharacter => "control character (\\u0000-\\u001F) found while parsing a string"
  | .invalidEscape => "invalid escape"
  | .loneSurrogate => "lone leading surrogate in hex escape"
  | .unfinishedPair => "unexpected end of hex escape"
  | .invalidText _ => "invalid unicode code point"
  | .invalidNumber => "invalid number"
  | .numberOutOfRange => "number out of range"
  | .readFailure cause => cause

/-- A reason with the position where it came to light. -/
structure Fault where
  reason : Reason
  position : Option Position
deriving DecidableEq, Repr

/-- The fault found at the given position. Text that could not be decoded is placed before its
undecoded end. -/
def Fault.located (reason : Reason) (p : Position) : Fault :=
  match reason with
  | .invalidText undecoded => ⟨reason, some { p with column := p.column - undecoded }⟩
  | _ => ⟨reason, some p⟩

/-- The wording of a fault. -/
def Fault.message (f : Fault) : String :=
  match f.position with
  | none => f.reason.message
  | some p => f.reason.message ++ " at line " ++ p.line.repr ++ " column " ++ p.column.repr

end TreeSearch.Json

import TreeSearch.Json.Fault

/-!
# Reading strings

A machine that reads the inside of a string byte by byte and collects the bytes of the text it
stands for. An escape of four hexadecimal digits is judged when all four are there. Escapes of
surrogates come in pairs, which stand for one character.
-/

namespace TreeSearch.Json

/-- Where in a string the next byte stands. -/
inductive Quotation where
  | plain
  | escape
  /-- In an escape of four digits, behind `count` of them. The value is missing once a byte was no
  digit, and `lead` is the first surrogate of a pair. -/
  | hex (lead : Option Nat) (count : Nat) (value : Option Nat)
  /-- Behind the first surrogate of a pair. -/
  | afterLead (lead : Nat)
  /-- Behind the first surrogate of a pair and a backslash. -/
  | afterLeadBackslash (lead : Nat)
deriving DecidableEq, Repr

namespace Quotation

/-- What a byte does to a string. -/
inductive Step where
  | more (bytes : ByteArray) (next : Quotation)
  | closed
  | refused (reason : Reason)

/-- The value of a hexadecimal digit. -/
def hexDigit? (byte : UInt8) : Option Nat :=
  if 48 ≤ byte ∧ byte ≤ 57 then some (byte.toNat - 48)
  else if 65 ≤ byte ∧ byte ≤ 70 then some (byte.toNat - 55)
  else if 97 ≤ byte ∧ byte ≤ 102 then some (byte.toNat - 87)
  else none

/-- The byte that a one-letter escape stands for. -/
def escaped? (byte : UInt8) : Option UInt8 :=
  match Char.ofUInt8 byte with
  | '"' => some 34
  | '\\' => some 92
  | '/' => some 47
  | 'b' => some 8
  | 'f' => some 12
  | 'n' => some 10
  | 'r' => some 13
  | 't' => some 9
  | _ => none

/-- Adds the encoding of the character with the given code. -/
def pushCode (bytes : ByteArray) (code : Nat) : ByteArray :=
  bytes ++ (String.singleton (Char.ofNat code)).toUTF8

/-- Whether a code is the second surrogate of a pair. -/
def isTrail (code : Nat) : Bool := 0xDC00 ≤ code && code ≤ 0xDFFF

/-- Whether a code is the first surrogate of a pair. -/
def isLead (code : Nat) : Bool := 0xD800 ≤ code && code ≤ 0xDBFF

/-- What the code of an escape does to a string, behind the first surrogate of a pair or not. -/
def afterCode (bytes : ByteArray) (lead : Option Nat) (code : Nat) : Step :=
  match lead with
  | none =>
    if isTrail code then .refused .loneSurrogate
    else if isLead code then .more bytes (.afterLead code)
    else .more (pushCode bytes code) .plain
  | some first =>
    if isTrail code then
      .more (pushCode bytes ((first - 0xD800) * 0x400 + (code - 0xDC00) + 0x10000)) .plain
    else .refused .loneSurrogate

/-- Steps over one byte. -/
def step (bytes : ByteArray) : Quotation → UInt8 → Step
  | .plain, byte =>
    if byte = 34 then .closed
    else if byte = 92 then .more bytes .escape
    else if byte < 32 then .refused .controlCharacter
    else .more (bytes.push byte) .plain
  | .escape, byte =>
    if byte = 117 then .more bytes (.hex none 0 (some 0))
    else
      match escaped? byte with
      | some decoded => .more (bytes.push decoded) .plain
      | none => .refused .invalidEscape
  | .hex lead count value, byte =>
    let value := value.bind fun value => (hexDigit? byte).map fun d => value * 16 + d
    if count < 3 then .more bytes (.hex lead (count + 1) value)
    else
      match value with
      | some code => afterCode bytes lead code
      | none => .refused .invalidEscape
  | .afterLead lead, byte =>
    if byte = 92 then .more bytes (.afterLeadBackslash lead) else .refused .unfinishedPair
  | .afterLeadBackslash lead, byte =>
    if byte = 117 then .more bytes (.hex (some lead) 0 (some 0)) else .refused .unfinishedPair

/-- The number of bytes from `start` on that encode whole characters, up to the first that do not.
At most `bound` characters are looked at. -/
def validLength (bytes : ByteArray) (start : Nat) : Nat → Nat
  | 0 => start
  | bound + 1 =>
    match bytes.utf8DecodeChar? start with
    | some c => validLength bytes (start + c.utf8Size) bound
    | none => start

/-- The text that the collected bytes encode. -/
def decode (bytes : ByteArray) : Except Reason String :=
  match String.fromUTF8? bytes with
  | some text => .ok text
  | none => .error (.invalidText (bytes.size - validLength bytes 0 bytes.size))

end Quotation

end TreeSearch.Json

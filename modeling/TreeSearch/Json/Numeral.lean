import TreeSearch.Json.Number

/-!
# Reading numbers

A machine that reads a number byte by byte. Digits are taken into a significand as long as it stays
below `2 ^ 64`. Further digits before the decimal point are dropped and raise the exponent instead,
and further digits behind it are dropped.
-/

namespace TreeSearch.Json

/-- The digits and the exponent read so far. -/
structure Parts where
  negative : Bool
  significand : Nat
  exponent : Int
deriving DecidableEq, Repr

/-- The greatest written exponent that is not cut short. -/
def maxExponent : Nat := 0x7fffffff

/-- How much of a number has been read. -/
inductive Numeral where
  | minus
  | zero (negative : Bool)
  | integer (negative : Bool) (significand : Nat)
  | longInteger (parts : Parts)
  | point (parts : Parts)
  | fraction (parts : Parts)
  | longFraction (parts : Parts)
  | exponentMark (parts : Parts)
  | exponentSign (parts : Parts) (negative : Bool)
  | exponent (parts : Parts) (negative : Bool) (value : Nat)
  | longExponent (negative : Bool)
deriving DecidableEq, Repr

namespace Numeral

/-- What a byte does to a number. -/
inductive Step where
  /-- The byte belongs to the number. -/
  | more (next : Numeral)
  /-- The number ended before the byte. -/
  | ended
  /-- The byte cannot stand here. -/
  | invalid
  /-- The byte makes the number too large. -/
  | outOfRange

/-- The value of a decimal digit. -/
def digit? (byte : UInt8) : Option Nat :=
  if 48 ≤ byte ∧ byte ≤ 57 then some (byte.toNat - 48) else none

/-- Whether the byte is the mark of an exponent. -/
def isExponentMark (byte : UInt8) : Bool := byte = 101 || byte = 69

/-- The number after its first byte, which is a minus or a digit. -/
def start? (byte : UInt8) : Option Numeral :=
  if byte = 45 then some .minus
  else
    match digit? byte with
    | some 0 => some (.zero false)
    | some d => some (.integer false d)
    | none => none

/-- Steps over a decimal point or the mark of an exponent behind whole digits. -/
def afterWhole (parts : Parts) (byte : UInt8) : Step :=
  if byte = 46 then .more (.point parts)
  else if isExponentMark byte then .more (.exponentMark parts)
  else .ended

/-- Steps over the mark of an exponent behind a fraction. -/
def afterFraction (parts : Parts) (byte : UInt8) : Step :=
  if isExponentMark byte then .more (.exponentMark parts) else .ended

/-- Takes a digit of a fraction into the significand, or drops it. -/
def fractionDigit (parts : Parts) (d : Nat) : Numeral :=
  let significand := parts.significand * 10 + d
  if significand ≤ Number.maxUnsigned then
    .fraction { parts with significand, exponent := parts.exponent - 1 }
  else .longFraction parts

/-- Steps over one byte. -/
def step : Numeral → UInt8 → Step
  | .minus, byte =>
    match digit? byte with
    | some 0 => .more (.zero true)
    | some d => .more (.integer true d)
    | none => .invalid
  | .zero negative, byte =>
    match digit? byte with
    | some _ => .invalid
    | none => afterWhole ⟨negative, 0, 0⟩ byte
  | .integer negative significand, byte =>
    match digit? byte with
    | some d =>
      if significand * 10 + d ≤ Number.maxUnsigned then
        .more (.integer negative (significand * 10 + d))
      else .more (.longInteger ⟨negative, significand, 1⟩)
    | none => afterWhole ⟨negative, significand, 0⟩ byte
  | .longInteger parts, byte =>
    match digit? byte with
    | some _ => .more (.longInteger { parts with exponent := parts.exponent + 1 })
    | none => afterWhole parts byte
  | .point parts, byte =>
    match digit? byte with
    | some d => .more (fractionDigit parts d)
    | none => .invalid
  | .fraction parts, byte =>
    match digit? byte with
    | some d => .more (fractionDigit parts d)
    | none => afterFraction parts byte
  | .longFraction parts, byte =>
    match digit? byte with
    | some _ => .more (.longFraction parts)
    | none => afterFraction parts byte
  | .exponentMark parts, byte =>
    if byte = 43 then .more (.exponentSign parts false)
    else if byte = 45 then .more (.exponentSign parts true)
    else
      match digit? byte with
      | some d => .more (.exponent parts false d)
      | none => .invalid
  | .exponentSign parts negative, byte =>
    match digit? byte with
    | some d => .more (.exponent parts negative d)
    | none => .invalid
  | .exponent parts negative value, byte =>
    match digit? byte with
    | some d =>
      if value * 10 + d ≤ maxExponent then .more (.exponent parts negative (value * 10 + d))
      else if parts.significand ≠ 0 && !negative then .outOfRange
      else .more (.longExponent parts.negative)
    | none => .ended
  | .longExponent negative, byte =>
    match digit? byte with
    | some _ => .more (.longExponent negative)
    | none => .ended

/-- Whether the number may end here. -/
def isComplete : Numeral → Bool
  | .minus | .point _ | .exponentMark _ | .exponentSign _ _ => false
  | _ => true

/-- The exponent that is in force when one is added to another, within 32 bits. -/
def addExponent (exponent : Int) (negative : Bool) (value : Nat) : Int :=
  let sum := if negative then exponent - value else exponent + value
  max (-0x80000000) (min sum 0x7fffffff)

/-- The number, or none if it is out of range. -/
def value? : Numeral → Option Number
  | .zero negative => some (Number.ofInteger negative 0)
  | .integer negative significand => some (Number.ofInteger negative significand)
  | .exponent parts negative value =>
    Number.ofParts? parts.negative parts.significand (addExponent parts.exponent negative value)
  | .longInteger parts | .fraction parts | .longFraction parts | .point parts
  | .exponentMark parts | .exponentSign parts _ =>
    Number.ofParts? parts.negative parts.significand parts.exponent
  | .minus => some (Number.zero true)
  | .longExponent negative => some (Number.zero negative)

end Numeral

end TreeSearch.Json

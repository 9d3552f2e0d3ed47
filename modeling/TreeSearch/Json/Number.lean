import TreeSearch.Decimal.Shortest

/-!
# Numbers

A number is an integer or a 64-bit float, and the two are never equal. `Number.ofParts` makes a
float from decimal digits and an exponent by one multiplication or a few divisions, so it does not
always give the nearest float. `Number.text` writes the fewest digits that identify a float.
-/

namespace TreeSearch.Json

/-- A number of a JSON text. -/
inductive Number where
  | int (value : Int)
  | float (value : Float)
deriving Repr

namespace Number

/-- Integers are equal by value, and floats as floats: the two zeros are equal. -/
instance : BEq Number where
  beq
    | .int m, .int n => m == n
    | .float x, .float y => x == y
    | _, _ => false

/-- The greatest integer that is kept as an integer, and the greatest significand of a float. -/
def maxUnsigned : Nat := UInt64.size - 1

/-- A power of ten as a float. -/
def powerOfTen (exponent : Nat) : Float := Float.ofScientific 1 false exponent

/-- The greatest exponent of a power of ten that is a finite float. -/
def maxPower : Nat := 308

/-- Divides by a power of ten, by at most `10 ^ maxPower` at a time. -/
def divideByPower (value : Float) (exponent : Nat) : Float :=
  if exponent ≤ maxPower then value / powerOfTen exponent
  else if value == 0 then value
  else divideByPower (value / powerOfTen maxPower) (exponent - maxPower)
termination_by exponent
decreasing_by simp only [maxPower] at *; omega

/-- The float `significand * 10 ^ exponent` with a sign, or none if it is out of range. -/
def ofParts? (negative : Bool) (significand : Nat) (exponent : Int) : Option Number :=
  let value := significand.toUInt64.toFloat
  let signed (value : Float) : Number := .float (if negative then -value else value)
  if exponent < 0 then some (signed (divideByPower value (-exponent).toNat))
  else if value == 0 then some (signed value)
  else if maxPower < exponent.toNat then none
  else
    let product := value * powerOfTen exponent.toNat
    if product.isInf then none else some (signed product)

/-- The number of a text without fraction and exponent. Negative zero and negative numbers below the
least integer of 64 bits are floats. -/
def ofInteger (negative : Bool) (significand : Nat) : Number :=
  if negative then
    if 0 < significand ∧ significand ≤ 0x8000000000000000 then .int (-significand)
    else .float (-significand.toUInt64.toFloat)
  else .int significand

/-- Zero as a float with a sign. -/
def zero (negative : Bool) : Number := .float (if negative then -0.0 else 0.0)

/-- The decimal exponents of the leading digit for which a float is written without an exponent. -/
def isPositional (exponent : Int) : Bool := -5 ≤ exponent && exponent ≤ 15

/-- Writes decimal digits with the decimal point behind the digit of exponent zero, and at least one
digit behind it. `exponent` belongs to the first digit. -/
def positional (digits : List Char) (exponent : Int) : String :=
  if exponent < 0 then
    "0." ++ String.ofList (List.replicate ((-exponent).toNat - 1) '0' ++ digits)
  else
    let count := exponent.toNat + 1
    let whole := digits.take count ++ List.replicate (count - digits.length) '0'
    let fraction := if digits.length ≤ count then ['0'] else digits.drop count
    String.ofList (whole ++ '.' :: fraction)

/-- Writes decimal digits with an exponent, which always has a sign. -/
def scientific (digits : List Char) (exponent : Int) : String :=
  let fraction := if digits.length ≤ 1 then [] else '.' :: digits.drop 1
  let sign := if exponent < 0 then "e-" else "e+"
  String.ofList (digits.take 1 ++ fraction) ++ sign ++ exponent.natAbs.repr

/-- Writes a decimal number. Zeros at the end of its digits do not count. -/
def scaledText (decimal : Decimal.Scaled) : String :=
  let digits := Nat.toDigits 10 decimal.digits
  let exponent := decimal.exponent + digits.length - 1
  let kept := (digits.reverse.dropWhile (· = '0')).reverse
  if isPositional exponent then positional kept exponent else scientific kept exponent

/-- Writes a finite float. -/
def floatText (value : Float) : String :=
  let bits := value.toBits
  let sign := if bits >>> 63 = 0 then "" else "-"
  match Decimal.Binary.ofBits? bits with
  | none => sign ++ "0.0"
  | some binary => sign ++ scaledText binary.shortest

/-- Writes a number. -/
def text : Number → String
  | .int value => toString value
  | .float value => floatText value

end Number

end TreeSearch.Json

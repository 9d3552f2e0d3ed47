/-!
# The shortest decimal of a binary number

A finite binary number is `m * 2 ^ q`. The reals that round to it form an interval around it, and
`shortest` finds a decimal in this interval with as few digits as possible. It tries one digit, two
digits and so on, and on each grid looks at the two decimals next to the number. Of two that lie in
the interval it takes the nearer, and at an exact tie the even one. All arithmetic is exact.
-/

namespace TreeSearch.Decimal

/-- The positive number `significand * 2 ^ exponent`, with whether the next number below is only
half as far away as the next number above. -/
structure Binary where
  significand : Nat
  exponent : Int
  closerBelow : Bool
deriving DecidableEq, Repr

/-- The number `digits * 10 ^ exponent`. -/
structure Scaled where
  digits : Nat
  exponent : Int
deriving DecidableEq, Repr

/-- The number of decimal digits. -/
def digitCount (n : Nat) : Nat := (Nat.toDigits 10 n).length

namespace Binary

/-- The decimal exponent of the leading digit. -/
def leadingExponent (b : Binary) : Int :=
  if 0 ≤ b.exponent then
    (digitCount (b.significand <<< b.exponent.toNat) : Int) - 1
  else
    let scale := 1 <<< (-b.exponent).toNat
    if scale ≤ b.significand then (digitCount (b.significand / scale) : Int) - 1
    else -(digitCount ((scale + b.significand - 1) / b.significand - 1) : Int)

/-- The decimal on the grid of multiples of `10 ^ grid` that is nearest to the number among the two
next to it that round to the number. -/
def onGrid? (b : Binary) (grid : Int) : Option Scaled :=
  -- `decimal * forDecimal` and `quarter * forQuarter` compare a decimal with quarters of a unit.
  let quarterExponent := b.exponent - 2
  let forDecimal := Nat.pow 10 grid.toNat <<< (-quarterExponent).toNat
  let forQuarter := Nat.pow 10 (-grid).toNat <<< quarterExponent.toNat
  let value := 4 * b.significand * forQuarter
  let lowest := (4 * b.significand - if b.closerBelow then 1 else 2) * forQuarter
  let highest := (4 * b.significand + 2) * forQuarter
  let inside (decimal : Nat) : Bool :=
    if b.significand % 2 = 0 then lowest ≤ decimal * forDecimal && decimal * forDecimal ≤ highest
    else lowest < decimal * forDecimal && decimal * forDecimal < highest
  let below := value / forDecimal
  let above := below + 1
  let middle := (below + above) * forDecimal
  let nearer :=
    if 2 * value < middle then below
    else if middle < 2 * value then above
    else if below % 2 = 0 then below else above
  if inside below && inside above then some ⟨nearer, grid⟩
  else if inside below then some ⟨below, grid⟩
  else if inside above then some ⟨above, grid⟩
  else none

/-- Tries one grid after the other, from `grid` on to finer ones. -/
def search (b : Binary) (grid : Int) : Nat → Scaled
  | 0 => ⟨0, grid⟩
  | bound + 1 =>
    match b.onGrid? grid with
    | some decimal => decimal
    | none => b.search (grid - 1) bound

/-- A decimal with the fewest digits that rounds to the number. Seventeen digits are always enough.
-/
def shortest (b : Binary) : Scaled := b.search b.leadingExponent 17

end Binary

/-- The parts of a finite binary number of 64 bits, without its sign; none for zero. -/
def Binary.ofBits? (bits : UInt64) : Option Binary :=
  let exponentField := (bits >>> 52).toNat % 2048
  let fraction := bits.toNat % 0x10000000000000
  if exponentField = 0 then
    if fraction = 0 then none else some ⟨fraction, -1074, false⟩
  else some ⟨0x10000000000000 + fraction, exponentField - 1075, fraction = 0 && 1 < exponentField⟩

end TreeSearch.Decimal

import TreeSearch.Pattern.Expr
import TreeSearch.Pattern.Look

/-!
# Searching a text

A set of places in a text is a number whose `i`-th bit tells whether the place before the `i`-th
character is in the set. `Expr.ends` computes from a set of places where a match may start the set
of places where it may end, so the text holds a match exactly when the ends reached from all places
are not empty.
-/

namespace TreeSearch.Pattern

open Unicode (CodeSet)

/-- The number of bits that are packed into a block before blocks are put together. -/
def blockSize : Nat := 32

/-- Packs bits into blocks, the last block first. `block` holds the bits of the current block, and
`weight` is that of the next bit in it. -/
def packBits (blocks : List Nat) (block weight : Nat) : List Bool → List Nat
  | [] => block :: blocks
  | bit :: rest =>
    let block := if bit then block + weight else block
    if weight * 2 = 1 <<< blockSize then packBits (block :: blocks) 0 1 rest
    else packBits blocks block (weight * 2) rest

/-- The number whose bits are given, the lowest first. -/
def ofBits (bits : List Bool) : Nat :=
  (packBits [] 0 1 bits).foldl (fun number block => number <<< blockSize + block) 0

/-- Adds what `step` reaches until nothing is added, at most `rounds` times. -/
def closure (step : Nat → Nat) : Nat → Nat → Nat
  | 0, places => places
  | rounds + 1, places =>
    let more := places ||| step places
    if more = places then places else closure step rounds more

/-- Applies `step` the given number of times. Once a step changes nothing, no later one does. -/
def iterate (step : Nat → Nat) : Nat → Nat → Nat
  | 0, places => places
  | count + 1, places =>
    let next := step places
    if next = places then places else iterate step count next

/-- The places where a match ends that starts in one of the given places. Each test is given by the
places that pass it, and `size` is the number of places. -/
def Expr.ends (size : Nat) : Expr Nat Nat → Nat → Nat
  | .empty, places => places
  | .char passing, places => (places &&& passing) <<< 1
  | .look passing, places => places &&& passing
  | .seq first second, places => second.ends size (first.ends size places)
  | .alt left right, places => left.ends size places ||| right.ends size places
  | .repetition body min max, places =>
    let required := iterate (body.ends size) min places
    match max with
    | none => closure (body.ends size) size required
    | some max => closure (body.ends size) (max - min) required

/-- The characters on both sides of each place, given the character before the first place. -/
def placesAfter (before : Option Char) : List Char → List (Option Char × Option Char)
  | [] => [(before, none)]
  | c :: rest => (before, some c) :: placesAfter (some c) rest

/-- Whether the text holds a match. -/
def Expr.isMatch (e : Expr CodeSet Look) (text : String) : Bool :=
  let chars := text.toList
  let places := placesAfter none chars
  let tested := e.map (fun codes => ofBits (chars.map fun c => codes.contains c.toNat))
    (fun look => ofBits (places.map fun (before, after) => look.holds before after))
  let size := places.length
  tested.ends size (1 <<< size - 1) ≠ 0

end TreeSearch.Pattern

import Std.Data.HashMap
import TreeSearch.Unicode.CodeSet

/-!
# The states of an automaton

The size of an automaton is the number of its states and the memory that they take. A pattern is
turned into a `Part`, which tells the states in the order in which they are added, and
`Part.build` adds them. Only a class of characters depends on what was added before it: it is turned
into sequences of byte ranges, and a state that equals a recent one is not added again. Forwards
equal ends of sequences are shared, and backwards equal beginnings.

Recent states are remembered in a limited number of slots. A state is put into the slot that its
hash tells and takes the place of the one that was there, so a state may be added twice.
-/

namespace TreeSearch.Pattern

open Unicode (CodeSet CodeRange)

/-! ## Sizes -/

/-- The memory of a state. -/
def stateBytes : Nat := 32

/-- The memory of a transition from a state with several byte ranges. -/
def transitionBytes : Nat := 8

/-- The memory of a branch of a state with several successors. -/
def branchBytes : Nat := 4

/-- The most memory that an automaton may take. -/
def memoryLimit : Nat := 10 * 1024 * 1024

/-- The number of states of an automaton, and the memory that they take. -/
structure AutomatonSize where
  states : Nat := 0
  bytes : Nat := 0

namespace AutomatonSize

/-- Adds a state that takes `extra` bytes besides its own. -/
def add (s : AutomatonSize) (extra : Nat) : AutomatonSize :=
  ⟨s.states + 1, s.bytes + stateBytes + extra⟩

/-- Whether the automaton stays within the limit. -/
def fits (s : AutomatonSize) : Bool := s.bytes ≤ memoryLimit

/-- Repeats a step the given number of times, and stops when the limit is passed. -/
def repeatedly (step : AutomatonSize → AutomatonSize) : Nat → AutomatonSize → AutomatonSize
  | 0, s => s
  | count + 1, s => if s.fits then repeatedly step count (step s) else s

end AutomatonSize

/-! ## Byte ranges -/

/-- The bytes that encode a code point. -/
def encode (code : Nat) : List Nat :=
  if code < 0x80 then [code]
  else if code < 0x800 then [0xC0 + code / 64, 0x80 + code % 64]
  else if code < 0x10000 then [0xE0 + code / 4096, 0x80 + code / 64 % 64, 0x80 + code % 64]
  else [0xF0 + code / 262144, 0x80 + code / 4096 % 64, 0x80 + code / 64 % 64, 0x80 + code % 64]

/-- Where a range is cut because its ends differ in more than the last bytes below `block`. -/
def blockCut (first last block : Nat) : List Nat :=
  if first / block = last / block then []
  else if first % block ≠ 0 then [(first / block + 1) * block]
  else if (last + 1) % block ≠ 0 then [last / block * block]
  else []

/-- Where a range is cut so that its encodings become sequences of byte ranges: where the length of
the encoding changes, and then where blocks of code points with the same leading bytes begin. -/
def cuts (first last : Nat) : List Nat :=
  [0x80, 0x800, 0x10000] ++
    (if last < 0x80 then [] else
      blockCut first last 64 ++ blockCut first last 4096 ++ blockCut first last 262144)

/-- The sequences of byte ranges that encode the code points from `first` to `last`. -/
def byteSequences (first last : Nat) : List (List CodeRange) :=
  match (cuts first last).find? fun cut => first < cut ∧ cut ≤ last with
  | some cut =>
    if _h : first < cut ∧ cut ≤ last then
      byteSequences first (cut - 1) ++ byteSequences cut last
    else []
  | none => [List.zipWith CodeRange.mk (encode first) (encode last)]
termination_by last - first

/-- The sequences of byte ranges that encode the characters of a set. -/
def classSequences (codes : CodeSet) : List (List CodeRange) :=
  codes.ranges.toList.flatMap fun r => byteSequences r.first r.last

/-- Splits sequences into runs with the same first range. -/
def groupByFirst : List (List CodeRange) → List (CodeRange × List (List CodeRange))
  | [] => []
  | [] :: rest => groupByFirst rest
  | (r :: tail) :: rest =>
    match groupByFirst rest with
    | (s, tails) :: groups =>
      if r = s then (s, tail :: tails) :: groups else (r, [tail]) :: (s, tails) :: groups
    | [] => [(r, [tail])]

/-! ## Recent states -/

/-- Mixes a number into a hash. -/
def mixHash (hash : UInt64) (n : Nat) : UInt64 := (hash ^^^ n.toUInt64) * 1099511628211

/-- The hash of a list of numbers. -/
def hashNumbers (numbers : List Nat) : UInt64 := numbers.foldl mixHash 14695981039346656037

/-- The recent states, by slot: the description of each state and its number. -/
abbrev Recent := Std.HashMap Nat (List Nat × Nat)

/-- Looks for the state with the given description in its slot. -/
def Recent.find? (recent : Recent) (slot : Nat) (description : List Nat) : Option Nat :=
  match recent[slot]? with
  | some (known, state) => if known = description then some state else none
  | none => none

/-- The number of the state with the given description. Unless the state is found in its slot it is
added, with the given extra memory. -/
def shareState (slots : Nat) (description : List Nat) (extra : Nat) :
    Recent × AutomatonSize → Nat × Recent × AutomatonSize
  | (recent, size) =>
    let slot := (hashNumbers description).toNat % slots
    match recent.find? slot description with
    | some state => (state, recent, size)
    | none => (size.states, recent.insert slot (description, size.states), size.add extra)

/-- The slots for recent states of a class that is read forwards. -/
def forwardSlots : Nat := 10000

/-- The slots for recent states of a class that is read backwards. -/
def backwardSlots : Nat := 1000

/-- The number of the state from which the given sequences lead to the state `target`. Sequences
have at most `length` ranges. -/
def shareEnds (target : Nat) :
    Nat → List (List CodeRange) → Recent × AutomatonSize → Nat × Recent × AutomatonSize
  | 0, _, built => (target, built)
  | length + 1, sequences, built =>
    match groupByFirst sequences with
    | [] => (target, built)
    | groups =>
      let (transitions, built) := groups.foldl
        (fun (transitions, built) (r, tails) =>
          let (next, built) := shareEnds target length tails built
          (next :: r.last :: r.first :: transitions, built))
        (([] : List Nat), built)
      shareState forwardSlots transitions.reverse (transitionBytes * groups.length) built

/-- The states of a class that is read forwards. -/
def forwardClass (sequences : List (List CodeRange)) (size : AutomatonSize) : AutomatonSize :=
  (shareEnds size.states 4 sequences (∅, size.add 0)).2.2

/-- Adds the states of a sequence that is read backwards, from the state `target` on. -/
def shareBeginning (target : Nat) (built : Recent × AutomatonSize) (sequence : List CodeRange) :
    Recent × AutomatonSize :=
  (sequence.foldl
    (fun (state, built) r => shareState backwardSlots [state, r.first, r.last] 0 built)
    (target, built)).2

/-- The states of a class that is read backwards. -/
def backwardClass (sequences : List (List CodeRange)) (size : AutomatonSize) : AutomatonSize :=
  let opened := size.add (branchBytes * sequences.length)
  (sequences.foldl (shareBeginning opened.states) (∅, opened.add 0)).2

/-! ## Parts of automata -/

/-- A part of an automaton: a state with the extra bytes it takes, a class of characters, parts one
after the other, or a part several times. -/
inductive Part where
  | state (extra : Nat)
  | charClass (backward : Bool) (sequences : List (List CodeRange))
  | all (parts : List Part)
  | times (count : Nat) (part : Part)

namespace Part

mutual

/-- Adds the states of a part. -/
def build : Part → AutomatonSize → AutomatonSize
  | .state extra, size => size.add extra
  | .charClass false sequences, size => forwardClass sequences size
  | .charClass true sequences, size => backwardClass sequences size
  | .all parts, size => buildAll parts size
  | .times count part, size => size.repeatedly part.build count

/-- Adds the states of a list of parts. -/
def buildAll : List Part → AutomatonSize → AutomatonSize
  | [], size => size
  | part :: parts, size => buildAll parts (part.build size)

end

/-- A state without extra memory. -/
def plain : Part := .state 0

/-- A state with two successors. -/
def fork : Part := .state (2 * branchBytes)

/-- A state with the given number of byte ranges. -/
def ranges (count : Nat) : Part := .state (transitionBytes * count)

end Part

end TreeSearch.Pattern

import TreeSearch.Pattern.Automaton
import TreeSearch.Pattern.Form

/-!
# The footprint of a pattern

A pattern is accepted only if the two automata that search for it, one forwards and one backwards
over the bytes of a text, stay within a limit. `Form.part` tells the states that a form takes. A
choice of literals takes the states of a trie, in which literals share their beginnings as far as
no literal in between ends there.
-/

namespace TreeSearch.Pattern

open Unicode (CodeSet)

/-! ## Choices of literals -/

/-- Splits what is left of literals at those of which nothing is left. `begun` tells whether a byte
has been left, and `ended` whether a literal has ended: before the first byte, one end counts. -/
def splitAtEnds (begun ended : Bool) : List (List Nat) → List (List (List Nat))
  | [] => [[]]
  | [] :: rest =>
    if ended && !begun then splitAtEnds begun ended rest else [] :: splitAtEnds begun true rest
  | literal :: rest =>
    match splitAtEnds true ended rest with
    | segment :: segments => (literal :: segment) :: segments
    | [] => [[literal]]

/-- What is left of literals behind each of the bytes they begin with. -/
def tailsByByte (literals : List (List Nat)) : List (List (List Nat)) :=
  let bytes := (literals.filterMap List.head?).eraseDups
  bytes.map fun byte => literals.filterMap fun literal =>
    match literal with
    | [] => none
    | first :: tail => if first = byte then some tail else none

/-- The states that read what is left of literals. It has at most `length` bytes. -/
def trieParts : Nat → List (List Nat) → List Part
  | 0, _ => []
  | length + 1, literals =>
    let segments := (splitAtEnds false false literals).map tailsByByte
    let below := segments.flatMap fun segment => segment.flatMap fun tails =>
      if tails.all List.isEmpty then [] else trieParts length tails
    let reading := segments.filterMap fun segment =>
      match segment.length with
      | 0 => none
      | 1 => some Part.plain
      | count => some (Part.ranges count)
    let branches := reading.length + (segments.length - 1)
    below ++ reading ++ [.state (branchBytes * branches)]

/-- The bytes of characters, in the order in which they are read. -/
def readBytes (backward : Bool) (chars : List Char) : List Nat :=
  let bytes := chars.flatMap fun c => encode c.toNat
  if backward then bytes.reverse else bytes

/-- The states that read one of several literals. -/
def literalChoice (backward : Bool) (literals : List (List Char)) : Part :=
  let literals := literals.map (readBytes backward)
  let longest := literals.foldl (fun n literal => max n literal.length) 0
  .all (.plain :: trieParts (longest + 1) literals)

namespace Form

/-- The characters of a literal. -/
def literal? : Form → Option (List Char)
  | .literal chars => some chars
  | _ => none

/-- The states of a class. One of ASCII characters takes a single state with all its ranges. -/
def classPart (backward : Bool) (codes : CodeSet) : Part :=
  if codes.isAscii then .all [.plain, .ranges codes.ranges.size]
  else .charClass backward (classSequences codes)

/-- The states of a repetition. `productive` tells whether every match of the body takes a
character. -/
def repetitionPart (body : Part) (productive : Bool) : Nat → Option Nat → Part
  | 0, none =>
    if productive then .all [.fork, body] else .all [body, .fork, .fork, .plain]
  | min, none => .all [.times min body, .fork]
  | 0, some 1 => .all [.fork, body, .plain]
  | min, some max =>
    let required := if min = 0 then .plain else .times min body
    if min = max then required
    else .all [required, .plain, .times (max - min) (.all [.fork, body])]

/-- The states of a choice between branches of any kind. -/
def choicePart (branches : List Part) : Part :=
  .all (branches.take 2 ++ [.state (branchBytes * branches.length), .plain] ++ branches.drop 2)

mutual

/-- The states of a form. -/
def part (backward : Bool) : Form → Part
  | .empty | .look _ => .plain
  | .literal chars => .times (readBytes backward chars).length .plain
  | .oneOf codes _ => classPart backward codes
  | .repetition body min max _ =>
    repetitionPart (body.part backward) (body.leastLength.any (0 < ·)) min max
  | .capture body =>
    if backward then body.part backward else .all [.plain, body.part backward, .plain]
  | .sequence items =>
    let parts := partsOf backward items
    .all (if backward then parts.reverse else parts)
  | .choice branches =>
    match branches.mapM literal? with
    | some literals => literalChoice backward literals
    | none => choicePart (partsOf backward branches)

/-- The states of each form of a list. -/
def partsOf (backward : Bool) : List Form → List Part
  | [] => []
  | form :: forms => form.part backward :: partsOf backward forms

end

/-- The automaton that searches for a form anywhere in a text. Besides the form itself it has states
that step over bytes, unless the form is anchored, a final state, and forwards also the states that
record where the match begins and ends. -/
def automaton (backward : Bool) (form : Form) : Part :=
  let skipping := if form.isAnchored backward then [.plain] else [.fork, .plain, .ranges 1]
  .all (skipping ++ [Form.part backward (.capture form), .plain])

/-- Whether both automata stay within the limit. -/
def fits (form : Form) : Bool :=
  ((form.automaton false).build {}).fits && ((form.automaton true).build {}).fits

end Form

end TreeSearch.Pattern

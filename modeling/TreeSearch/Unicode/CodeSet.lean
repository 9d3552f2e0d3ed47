/-!
# Sets of code points

A set of code points is an ascending array of disjoint ranges. `CodeSet.ofRanges` brings any list
of ranges into that form, `CodeSet.contains` looks a code point up by halving, and the boolean
operations act on the ranges. `CodeSet.read` reads the notation of the property tables, in which
`41-5A AA` stands for U+0041 to U+005A and U+00AA.
-/

namespace TreeSearch.Unicode

/-- The code points from `first` to `last`, both included. -/
structure CodeRange where
  first : Nat
  last : Nat
deriving DecidableEq, Repr

/-- The greatest code point. -/
def lastCode : Nat := 0x10FFFF

/-- A set of code points, held as ascending ranges that neither overlap nor touch. -/
structure CodeSet where
  ranges : Array CodeRange
deriving DecidableEq, Repr

namespace CodeSet

/-- The set with no member. -/
def empty : CodeSet := ⟨#[]⟩

/-- Joins each range with the ranges after it that start inside it or right behind it. The ranges
come in ascending order of their first code points. -/
def coalesce : CodeRange → List CodeRange → List CodeRange
  | r, [] => [r]
  | r, s :: rest =>
    if s.first ≤ r.last + 1 then coalesce ⟨r.first, max r.last s.last⟩ rest
    else r :: coalesce s rest

/-- The set of all code points in some range of the list. -/
def ofRanges (ranges : List CodeRange) : CodeSet :=
  match (ranges.filter fun r => r.first ≤ r.last).mergeSort fun r s => r.first ≤ s.first with
  | [] => empty
  | r :: rest => ⟨(coalesce r rest).toArray⟩

/-- The set of the code points from `first` to `last`. -/
def range (first last : Nat) : CodeSet := ofRanges [⟨first, last⟩]

/-- The set whose only member is the given character. -/
def singleton (c : Char) : CodeSet := range c.toNat c.toNat

/-- Every code point. -/
def all : CodeSet := range 0 lastCode

/-- Looks for a range that holds `code` among the ranges at positions `lo` to `hi - 1`. -/
def search (ranges : Array CodeRange) (code lo hi : Nat) : Bool :=
  if lo < hi then
    let mid := (lo + hi) / 2
    match ranges[mid]? with
    | none => false
    | some r =>
      if code < r.first then search ranges code lo mid
      else if r.last < code then search ranges code (mid + 1) hi
      else true
  else false
termination_by hi - lo

/-- Whether the code point is a member. -/
def contains (s : CodeSet) (code : Nat) : Bool := search s.ranges code 0 s.ranges.size

/-- The code points of either set. -/
def union (s t : CodeSet) : CodeSet := ofRanges (s.ranges.toList ++ t.ranges.toList)

/-- The gaps before, between and after the ranges, from `next` on. -/
def gaps (next : Nat) : List CodeRange → List CodeRange
  | [] => if next ≤ lastCode then [⟨next, lastCode⟩] else []
  | r :: rest =>
    if next < r.first then ⟨next, r.first - 1⟩ :: gaps (r.last + 1) rest
    else gaps (r.last + 1) rest

/-- The code points that are not members. -/
def compl (s : CodeSet) : CodeSet := ⟨(gaps 0 s.ranges.toList).toArray⟩

/-- The code points of both sets. -/
def inter (s t : CodeSet) : CodeSet := (s.compl.union t.compl).compl

/-- The code points of the first set that are not in the second. -/
def diff (s t : CodeSet) : CodeSet := s.inter t.compl

/-- The code points of exactly one of the two sets. -/
def symmDiff (s t : CodeSet) : CodeSet := (s.union t).diff (s.inter t)

/-- The union of a list of sets. -/
def unions (sets : List CodeSet) : CodeSet :=
  ofRanges (sets.flatMap fun s => s.ranges.toList)

/-- Whether there is no member. -/
def isEmpty (s : CodeSet) : Bool := s.ranges.isEmpty

/-- Whether every member is below U+0080. -/
def isAscii (s : CodeSet) : Bool := s.ranges.all fun r => r.last < 0x80

/-- The value of a hexadecimal digit in upper case. -/
def hexDigit (c : Char) : Nat := if c.isDigit then c.toNat - 48 else c.toNat - 55

/-- The range that has been read: from `first`, if the dash of a range was read, to `value`. -/
def readRange (first value : Option Nat) : List CodeRange :=
  match value with
  | some code => [⟨first.getD code, code⟩]
  | none => []

/-- Reads ranges. `first` is set behind the dash of a range, and `value` holds the number that has
been read so far. -/
def readRanges (first value : Option Nat) : List Char → List CodeRange
  | [] => readRange first value
  | c :: rest =>
    if c = '-' then readRanges value none rest
    else if c.isWhitespace then readRange first value ++ readRanges none none rest
    else readRanges first (some (value.getD 0 * 16 + hexDigit c)) rest

/-- Reads a set from the notation of the tables: code points and ranges in hexadecimal, with blanks
or line ends between them. -/
def read (text : String) : CodeSet := ofRanges (readRanges none none text.toList)

end CodeSet

end TreeSearch.Unicode

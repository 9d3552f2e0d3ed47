/-!
# Written patterns

The form in which a pattern is written: flags, classes, groups and repetitions as they stand in the
text, before flags are resolved and names looked up. Nesting is bounded, and `Written.depth`
measures it.
-/

namespace TreeSearch.Pattern

/-- Why a pattern is rejected. -/
inductive Fault where
  | unclosedGroup
  | unopenedGroup
  | nothingToRepeat
  | badCount
  | badEscape
  | badHexadecimal
  | badClass
  | badRange
  | badFlags
  | badGroupName
  | repeatedGroupName
  | badBoundary
  | lookAround
  | backreference
  | unknownProperty
  | unicodeDisabled
  | notUtf8
  | tooNested
  | tooLarge
deriving DecidableEq, Repr

/-- A flag that can be set inside a pattern. -/
inductive Flag where
  | caseInsensitive
  | multiLine
  | dotMatchesNewLine
  | swapGreed
  | unicode
  | crlf
  | verbose
deriving DecidableEq, Repr

/-- The flags that a pattern turns on and off at one place. -/
structure FlagChange where
  on : List Flag
  off : List Flag
deriving DecidableEq, Repr

/-- A place between two characters. -/
inductive Boundary where
  | lineStart
  | lineEnd
  | textStart
  | textEnd
  | word
  | notWord
  | wordStart
  | wordEnd
  | wordStartHalf
  | wordEndHalf
deriving DecidableEq, Repr

/-- The classes with a one-letter escape. -/
inductive EscapeClass where
  | digit
  | space
  | word
deriving DecidableEq, Repr

/-- The classes with a name between colons. -/
inductive AsciiClass where
  | alnum
  | alpha
  | ascii
  | blank
  | cntrl
  | digit
  | graph
  | lower
  | print
  | punct
  | space
  | upper
  | word
  | xdigit
deriving DecidableEq, Repr

/-- A character, and whether it is written as a byte in two hexadecimal digits. -/
structure Literal where
  char : Char
  asByte : Bool := false
deriving DecidableEq, Repr

/-- A question about a property: its name alone, or its name and a value. -/
inductive PropertyQuery where
  | named (name : String)
  | valued (name value : String)
deriving DecidableEq, Repr

/-- A binary operation on classes. -/
inductive SetOp where
  | inter
  | diff
  | symmDiff
deriving DecidableEq, Repr

/-- The contents of a bracketed class. -/
inductive ClassBody where
  | literal (l : Literal)
  | range (first last : Literal)
  | ascii (c : AsciiClass) (negated : Bool)
  | property (q : PropertyQuery) (negated : Bool)
  | escape (c : EscapeClass) (negated : Bool)
  | bracketed (negated : Bool) (body : ClassBody)
  | union (items : List ClassBody)
  | op (o : SetOp) (left right : ClassBody)

/-- A pattern as it is written. -/
inductive Written where
  | empty
  | flags (change : FlagChange)
  | literal (l : Literal)
  | dot
  | boundary (b : Boundary)
  | property (q : PropertyQuery) (negated : Bool)
  | escape (c : EscapeClass) (negated : Bool)
  | bracketed (negated : Bool) (body : ClassBody)
  | repetition (body : Written) (min : Nat) (max : Option Nat) (greedy : Bool)
  | group (captures : Bool) (change : FlagChange) (body : Written)
  | alternation (branches : List Written)
  | concat (items : List Written)

namespace ClassBody

/-- The union of the items; a single item stands for itself. -/
def ofItems : List ClassBody → ClassBody
  | [item] => item
  | items => .union items

mutual

/-- How deep brackets, unions and operations are nested. -/
def depth : ClassBody → Nat
  | .bracketed _ body => body.depth + 1
  | .union [] => 0
  | .union (item :: items) => max item.depth (depthAll items) + 1
  | .op _ left right => max left.depth right.depth + 1
  | _ => 0

/-- The greatest depth in a list. -/
def depthAll : List ClassBody → Nat
  | [] => 0
  | item :: items => max item.depth (depthAll items)

end

end ClassBody

namespace Written

/-- The concatenation of the items; a single item stands for itself. -/
def ofItems : List Written → Written
  | [] => .empty
  | [item] => item
  | items => .concat items

/-- The alternation of the branches; a single branch stands for itself. -/
def ofBranches : List Written → Written
  | [branch] => branch
  | branches => .alternation branches

mutual

/-- How deep groups, repetitions, lists and classes are nested. -/
def depth : Written → Nat
  | .bracketed _ body => body.depth + 1
  | .repetition body _ _ _ => body.depth + 1
  | .group _ _ body => body.depth + 1
  | .alternation branches => depthAll branches + 1
  | .concat items => depthAll items + 1
  | _ => 0

/-- The greatest depth in a list. -/
def depthAll : List Written → Nat
  | [] => 0
  | item :: items => max item.depth (depthAll items)

end

/-- The deepest nesting that is accepted. -/
def depthLimit : Nat := 250

end Written

end TreeSearch.Pattern

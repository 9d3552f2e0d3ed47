import TreeSearch.Text.Quoted

/-!
# Paths

A path addresses a node of a syntax tree by the segments on the way from the root to the node. It is
kept with its last segment first, so that a path and its extensions share their common part, and it
carries its length. The segments in order are `Path.segments`, which is the view that the other
operations are understood through.
-/

namespace TreeSearch

/-- One step of a path: a slot that holds one node, an element of a slot that holds a list, an entry
of a slot that holds a keyed map, or the type of a node in a slot that can hold several types. -/
inductive Segment where
  | field (name : String)
  | index (name : String) (position : Nat)
  | key (name : String) (key : String)
  | kind (typeName : String)
deriving DecidableEq, Repr

/-- How a segment is written. -/
def Segment.render : Segment → String
  | .field name => name
  | .index name position => name ++ "[" ++ position.repr ++ "]"
  | .key name entry => name ++ "[" ++ entry ++ "]"
  | .kind typeName => "(" ++ typeName ++ ")"

/-- A sequence of segments, the last one first, with its length. -/
structure Path where
  links : List Segment
  len : Nat
deriving Repr

namespace Path

/-- The path of the root. -/
def empty : Path := ⟨[], 0⟩

/-- The path extended by a segment. -/
def append (p : Path) (s : Segment) : Path := ⟨s :: p.links, p.len + 1⟩

/-- The path extended by a slot that holds one node. -/
def appendField (p : Path) (name : String) : Path := p.append (.field name)

/-- The path extended by an element of a list. -/
def appendIndexed (p : Path) (name : String) (position : Nat) : Path :=
  p.append (.index name position)

/-- The path extended by an entry of a keyed map. -/
def appendKeyed (p : Path) (name key : String) : Path := p.append (.key name key)

/-- The path extended by the type of a node. -/
def appendKind (p : Path) (typeName : String) : Path := p.append (.kind typeName)

/-- The path with the given segments. -/
def ofSegments (segments : List Segment) : Path := segments.foldl append empty

/-- The segments from the root to the node. -/
def segments (p : Path) : List Segment := p.links.reverse

/-- The last segment. -/
def last? (p : Path) : Option Segment := p.links.head?

/-- Whether the path is that of the root. -/
def isEmpty (p : Path) : Bool := p.len = 0

/-- Paths are equal if their lengths and segments are, however their renderings compare. -/
instance : BEq Path := ⟨fun p q => p.len == q.len && p.segments == q.segments⟩

/-- The renderings of the segments with the separator between them. -/
def render (separator : String) (p : Path) : String :=
  separator.intercalate (p.segments.map Segment.render)

/-- The separator of paths where none is asked for. -/
def defaultSeparator : String := "."

instance : ToString Path := ⟨render defaultSeparator⟩

/-- The rendering of a path that may be missing; a missing path is rendered like the root's. -/
def renderOption (separator : String) (p : Option Path) : String :=
  (p.map (render separator)).getD ""

/-- The rendering for diagnostics, which shows where the path begins and ends. -/
def debug (p : Path) : String := "Path(" ++ Text.quoted (p.render defaultSeparator) ++ ")"

/-- Whether the path is written exactly like the text. -/
def matchesExact (p : Path) (text : String) : Bool := p.render defaultSeparator == text

@[simp] theorem segments_empty : empty.segments = [] := rfl

@[simp] theorem segments_append (p : Path) (s : Segment) :
    (p.append s).segments = p.segments ++ [s] := by
  simp [append, segments]

end Path

end TreeSearch

import TreeSearch.Pattern.Basic
import TreeSearch.Walk.Basic

/-!
# Queries

A query selects nodes by their exact path, by a pattern that their path contains, or by their kind.
A pattern is compiled when the query is made, so a bad pattern is known before any tree is walked.
`Walker.find` walks a whole tree and returns the nodes that a query selects, in visiting order.
-/

namespace TreeSearch

/-- Why a query cannot be made. -/
inductive QueryError where
  | invalidPattern (pattern : String)
deriving DecidableEq, Repr

/-- The wording of an error. -/
def QueryError.message : QueryError → String
  | .invalidPattern pattern => "invalid regex pattern `" ++ pattern ++ "`"

/-- What to look for: a rendered path, a pattern in rendered paths, or a kind, which may be given by
the type that its nodes have in paths. -/
inductive Query where
  | exact (text : String)
  | pattern (p : Pattern)
  | kind (name : String)

/-- Whether the rendered path contains the pattern. -/
def Path.matchesPattern (p : Path) (pattern : Pattern) : Bool :=
  pattern.isMatch (p.render Path.defaultSeparator)

namespace Query

/-- The query for a pattern. -/
def ofPattern (source : String) : Except QueryError Query :=
  match Pattern.compile source with
  | .ok p => .ok (.pattern p)
  | .error _ => .error (.invalidPattern source)

variable {τ : Type} [SyntaxTree τ]

/-- Whether the query selects a node with the given path. -/
def selects (q : Query) (g : Grammar) (node : τ) (path : Path) : Bool :=
  match q with
  | .exact text => path.matchesExact text
  | .pattern p => path.matchesPattern p
  | .kind name =>
    SyntaxTree.kind node = name ||
      ((g.lookup (SyntaxTree.kind node)).any fun d => d.typeName = name)

end Query

/-- A node that a query selects, with its path. -/
structure Match (τ : Type) where
  node : τ
  path : Path

namespace Query

variable {τ : Type} [SyntaxTree τ]

/-- The visitor that goes on below every node and keeps those that the query selects, the last one
first. -/
def collector (q : Query) (g : Grammar) : Visitor (List (Match τ)) τ where
  enter found node path :=
    (if q.selects g node path then ⟨node, path⟩ :: found else found, .descend)
  exit found := found

end Query

/-- The nodes that a query selects, in visiting order. If the walk fails, none is returned. -/
def Walker.find {τ : Type} [SyntaxTree τ] (w : Walker) (q : Query) (root : τ) :
    Except WalkError (List (Match τ)) :=
  let outcome := w.walk (q.collector w.grammar) [] root
  match outcome.result with
  | .ok () => .ok outcome.state.reverse
  | .error error => .error error

end TreeSearch

import TreeSearch.Walk.Basic

/-!
# The log of a walk

What a visitor is told during a walk, in order, is the log of the walk.
-/

namespace TreeSearch

/-- Something that a visitor is told. -/
inductive Event (τ : Type) where
  | enter (node : τ) (path : Path)
  | exit
deriving Repr

namespace Visitor

variable {σ τ : Type}

/-- A visitor that goes on below every node and keeps nothing. -/
def descending : Visitor Unit τ := ⟨fun _ _ _ => ((), .descend), fun _ => ()⟩

/-- The visitor that also keeps what it is told, the last event first. -/
def logged (v : Visitor σ τ) : Visitor (σ × List (Event τ)) τ where
  enter s n p :=
    let (next, decision) := v.enter s.1 n p
    ((next, .enter n p :: s.2), decision)
  exit s := (v.exit s.1, .exit :: s.2)

end Visitor

namespace Walker

variable {σ τ : Type} [SyntaxTree τ]

/-- Works off an agenda and keeps the log. -/
def runLogged (w : Walker) (v : Visitor σ τ) (s : σ) (agenda : List (Task τ)) :
    Outcome σ × List (Event τ) :=
  let outcome := w.run v.logged (s, []) agenda
  (⟨outcome.state.1, outcome.result⟩, outcome.state.2.reverse)

/-- Walks the tree below a node and keeps the log. -/
def logFrom (w : Walker) (v : Visitor σ τ) (s : σ) (node : τ) (path : Path) (polymorphic : Bool) :
    Outcome σ × List (Event τ) :=
  w.runLogged v s [.visit node path polymorphic 0]

/-- Walks a tree and keeps the log. -/
def log (w : Walker) (v : Visitor σ τ) (s : σ) (root : τ) : Outcome σ × List (Event τ) :=
  w.logFrom v s root .empty false

end Walker

end TreeSearch

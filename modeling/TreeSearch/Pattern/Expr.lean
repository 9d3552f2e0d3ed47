/-!
# Pattern expressions

An expression is built from tests of one character and tests of the place between two characters.
The two kinds of tests are parameters: a compiled pattern tests membership in a set and one of the
looks, and before it is run on a text each test is replaced by the places of the text that pass it.
-/

namespace TreeSearch.Pattern

/-- An expression over tests `α` of characters and tests `β` of places. -/
inductive Expr (α β : Type) where
  | empty
  | char (test : α)
  | look (test : β)
  | seq (first second : Expr α β)
  | alt (left right : Expr α β)
  | repetition (body : Expr α β) (min : Nat) (max : Option Nat)
deriving Repr

/-- Replaces the tests. -/
def Expr.map {α β γ δ : Type} (f : α → γ) (g : β → δ) : Expr α β → Expr γ δ
  | .empty => .empty
  | .char test => .char (f test)
  | .look test => .look (g test)
  | .seq first second => .seq (first.map f g) (second.map f g)
  | .alt left right => .alt (left.map f g) (right.map f g)
  | .repetition body min max => .repetition (body.map f g) min max

end TreeSearch.Pattern

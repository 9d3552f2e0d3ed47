/-!
# Syntax trees

A syntax tree is any type whose values have a kind and answer for each slot name what the slot
holds. The walk needs nothing else of a tree.
-/

namespace TreeSearch

/-- What a slot can hold, without the nodes. -/
inductive Shape where
  | absent
  | node
  | list
  | keyed
  | scalar
deriving DecidableEq, Repr

/-- The name of a shape in messages. -/
def Shape.name : Shape → String
  | .absent => "absent"
  | .node => "node"
  | .list => "list"
  | .keyed => "keyed map"
  | .scalar => "scalar value"

/-- What a slot of a node holds: nothing, a node, nodes in order, nodes by key, or a value that is
no node. Keys may come in any order and more than once. -/
inductive SlotValue (τ : Type) where
  | absent
  | node (child : τ)
  | list (items : List τ)
  | keyed (entries : List (String × τ))
  | scalar
deriving Repr

/-- The shape of what a slot holds. -/
def SlotValue.shape {τ : Type} : SlotValue τ → Shape
  | .absent => .absent
  | .node _ => .node
  | .list _ => .list
  | .keyed _ => .keyed
  | .scalar => .scalar

/-- A type of nodes. -/
class SyntaxTree (τ : Type) where
  kind : τ → String
  slot : τ → String → SlotValue τ

/-- A tree given by what its slots hold, in the order in which they are listed. -/
inductive SlotTree where
  | node (kind : String) (slots : List (String × SlotValue SlotTree))

namespace SlotTree

/-- The kind of the root. -/
def kind : SlotTree → String
  | .node kind _ => kind

/-- What a slot of the root holds. The first entry with the slot's name counts. -/
def slot : SlotTree → String → SlotValue SlotTree
  | .node _ slots, name =>
    match slots.find? fun s => s.1 = name with
    | some s => s.2
    | none => .absent

instance : SyntaxTree SlotTree := ⟨kind, slot⟩

end SlotTree

end TreeSearch

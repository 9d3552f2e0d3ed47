import TreeSearch.Json.Printer
import TreeSearch.Tree.Basic

/-!
# Nodes

A node of a tree dump has a kind and named members. A member is a node, a list of nodes, a map of
nodes by key, or an attribute, which is any JSON value. As a syntax tree, a node answers for a slot
with the member of that name; a member that is missing or null is an absent slot.
-/

namespace TreeSearch

mutual

/-- A node: its kind, and its members in ascending order of their names. -/
inductive Node where
  | mk (kind : String) (members : List (String × Member))

/-- A member of a node. The entries of a map are in ascending order of their keys. -/
inductive Member where
  | node (child : Node)
  | list (items : List Node)
  | map (entries : List (String × Node))
  | attr (value : Json)

end

namespace Node

/-- The kind of a node. -/
def kind : Node → String
  | .mk kind _ => kind

/-- The members of a node. -/
def members : Node → Fields Member
  | .mk _ members => members

/-- A node without members. -/
def ofKind (kind : String) : Node := .mk kind []

/-- The node with a member put under a name, in the place of one that is there. -/
def withMember (n : Node) (name : String) (m : Member) : Node :=
  .mk n.kind (n.members.insert name m)

/-- The node with a node put under a name. -/
def withNode (n : Node) (name : String) (child : Node) : Node := n.withMember name (.node child)

/-- The node with a list of nodes put under a name. -/
def withList (n : Node) (name : String) (items : List Node) : Node :=
  n.withMember name (.list items)

/-- The node with a map of nodes put under a name. Of two entries with one key the later counts. -/
def withKeyed (n : Node) (name : String) (entries : List (String × Node)) : Node :=
  n.withMember name (.map (Fields.ofList entries))

/-- The node with an attribute put under a name. -/
def withAttr (n : Node) (name : String) (value : Json) : Node := n.withMember name (.attr value)

/-- An identifier. -/
def ident (name : String) : Node := (ofKind "Ident").withAttr "Name" (.str name)

/-- The attribute with the given name. -/
def attr? (n : Node) (name : String) : Option Json :=
  match n.members.get? name with
  | some (.attr value) => some value
  | _ => none

end Node

/-- What a slot holds that is filled by the member. -/
def Member.slotValue : Member → SlotValue Node
  | .node child => .node child
  | .list items => .list items
  | .map entries => .keyed entries
  | .attr .null => .absent
  | .attr _ => .scalar

/-- What a slot of a node holds. -/
def Node.slot (n : Node) (name : String) : SlotValue Node :=
  match n.members.get? name with
  | some m => m.slotValue
  | none => .absent

instance : SyntaxTree Node := ⟨Node.kind, Node.slot⟩

mutual

/-- Whether two nodes are equal. -/
def Node.beq : Node → Node → Bool
  | .mk k ms, .mk l ns => k == l && Member.beqFields ms ns

/-- Whether two members are equal; an attribute equals no other kind of member. -/
def Member.beq : Member → Member → Bool
  | .node a, .node b => Node.beq a b
  | .list as, .list bs => Node.beqItems as bs
  | .map as, .map bs => Node.beqEntries as bs
  | .attr a, .attr b => a == b
  | _, _ => false

/-- Whether two lists of members are equal. -/
def Member.beqFields : List (String × Member) → List (String × Member) → Bool
  | [], [] => true
  | (m, a) :: as, (n, b) :: bs => m == n && Member.beq a b && Member.beqFields as bs
  | _, _ => false

/-- Whether two lists of nodes are equal. -/
def Node.beqItems : List Node → List Node → Bool
  | [], [] => true
  | a :: as, b :: bs => Node.beq a b && Node.beqItems as bs
  | _, _ => false

/-- Whether two maps of nodes are equal. -/
def Node.beqEntries : List (String × Node) → List (String × Node) → Bool
  | [], [] => true
  | (m, a) :: as, (n, b) :: bs => m == n && Node.beq a b && Node.beqEntries as bs
  | _, _ => false

end

instance : BEq Node := ⟨Node.beq⟩

mutual

/-- The node as a JSON value, with its kind in front of its members. -/
def Node.toJson : Node → Json
  | .mk kind members => .obj (("kind", .str kind) :: Member.toFields members)

/-- The member as a JSON value. -/
def Member.toJson : Member → Json
  | .node child => child.toJson
  | .list items => .arr (Node.toItems items)
  | .map entries => .obj (Node.toFields entries)
  | .attr value => value

/-- The members of a node as fields. -/
def Member.toFields : List (String × Member) → List (String × Json)
  | [] => []
  | (name, m) :: rest => (name, m.toJson) :: Member.toFields rest

/-- The nodes of a list as items. -/
def Node.toItems : List Node → List Json
  | [] => []
  | n :: rest => n.toJson :: Node.toItems rest

/-- The nodes of a map as fields. -/
def Node.toFields : List (String × Node) → List (String × Json)
  | [] => []
  | (key, n) :: rest => (key, n.toJson) :: Node.toFields rest

end

/-- The text of a node over several lines. -/
def Node.pretty (n : Node) : String := n.toJson.pretty

end TreeSearch

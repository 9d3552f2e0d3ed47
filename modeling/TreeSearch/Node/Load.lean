import TreeSearch.Json.Reader
import TreeSearch.Node.Basic

/-!
# Loading nodes

An object with a string under `kind` is a node. As a member, an array of nodes is a list, and an
object of nodes is a map, also where they are empty; every other value is an attribute, whatever is
nested in it. The root of a tree must be a node.
-/

namespace TreeSearch

/-- The string under `kind`, if there is one. -/
def Json.kind? (fields : List (String × Json)) : Option String :=
  match Fields.get? "kind" fields with
  | some (.str kind) => some kind
  | _ => none

/-- Whether a value is a node. -/
def Json.isNode : Json → Bool
  | .obj fields => (Json.kind? fields).isSome
  | _ => false

mutual

/-- The member that a value stands for. -/
def Member.ofJson : Json → Member
  | .obj fields =>
    match Json.kind? fields with
    | some kind => .node (.mk kind (Member.ofFields fields))
    | none =>
      if fields.all (fun f => f.2.isNode) then .map (Node.ofFields fields)
      else .attr (.obj fields)
  | .arr items => if items.all Json.isNode then .list (Node.ofItems items) else .attr (.arr items)
  | value => .attr value

/-- The members that fields stand for, apart from the kind. -/
def Member.ofFields : List (String × Json) → List (String × Member)
  | [] => []
  | (name, value) :: rest =>
    if name = "kind" then Member.ofFields rest
    else (name, Member.ofJson value) :: Member.ofFields rest

/-- The nodes among the values of a list. -/
def Node.ofItems : List Json → List Node
  | [] => []
  | value :: rest => (Node.ofJson? value).toList ++ Node.ofItems rest

/-- The nodes among the values of fields. -/
def Node.ofFields : List (String × Json) → List (String × Node)
  | [] => []
  | (key, value) :: rest => (Node.ofJson? value).toList.map (key, ·) ++ Node.ofFields rest

/-- The node that a value stands for. -/
def Node.ofJson? : Json → Option Node
  | .obj fields =>
    match Json.kind? fields with
    | some kind => some (.mk kind (Member.ofFields fields))
    | none => none
  | _ => none

end

/-- Why a tree cannot be loaded. -/
inductive LoadError where
  | unreadable (cause : String)
  | malformed (fault : Json.Fault)
  | notAnObject
  | withoutKind
deriving DecidableEq, Repr

/-- The wording of an error. -/
def LoadError.message : LoadError → String
  | .unreadable cause => "failed to read syntax tree: " ++ cause
  | .malformed fault => "invalid syntax tree JSON: " ++ fault.message
  | .notAnObject => "invalid syntax tree JSON: expected a syntax tree node object"
  | .withoutKind =>
    "invalid syntax tree JSON: expected a syntax tree node with a string `kind` field"

namespace Node

/-- The tree that a value stands for. -/
def ofJson (value : Json) : Except LoadError Node :=
  match Node.ofJson? value with
  | some n => .ok n
  | none =>
    match value with
    | .obj _ => .error .withoutKind
    | _ => .error .notAnObject

/-- Loads a tree. That the document holds no node counts before what follows it. -/
def load (source : Json.Source) : Except LoadError Node :=
  match Json.Document.read source with
  | .error fault => .error (.malformed fault)
  | .ok document => do
    let n ← ofJson document.value
    match document.ending with
    | none => .ok n
    | some fault => .error (.malformed fault)

end Node

end TreeSearch

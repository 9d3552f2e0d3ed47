import TreeSearch.Node.Basic
import TreeSearch.Proofs.Json.Values
import TreeSearch.Proofs.Walk.Resolution

/-!
# Nodes with ordered members

A node is ordered if its members, the entries of maps and the fields of attributes are in ascending
order everywhere in it, which every way of building nodes keeps. As a syntax tree, an ordered node
never repeats a key in a keyed slot.
-/

namespace TreeSearch

/-- The nodes directly in a member. -/
def Member.nodes : Member → List Node
  | .node child => [child]
  | .list items => items
  | .map entries => entries.map Prod.snd
  | .attr _ => []

namespace Node

theorem sizeOf_lt_of_mem_members {n child : Node} {name : String} {m : Member}
    (mem : (name, m) ∈ n.members) (within : child ∈ m.nodes) : sizeOf child < sizeOf n := by
  obtain ⟨kind, members⟩ := n
  have member := List.sizeOf_lt_of_mem (show (name, m) ∈ members from mem)
  simp only [Prod.mk.sizeOf_spec, mk.sizeOf_spec] at member ⊢
  cases m with
  | node c =>
      cases List.mem_singleton.mp within
      simp only [Member.node.sizeOf_spec] at member
      omega
  | list items =>
      have := List.sizeOf_lt_of_mem (show child ∈ items from within)
      simp only [Member.list.sizeOf_spec] at member
      omega
  | map entries =>
      obtain ⟨⟨key, c⟩, hentry, rfl⟩ := List.mem_map.mp within
      have := List.sizeOf_lt_of_mem hentry
      simp only [Member.map.sizeOf_spec, Prod.mk.sizeOf_spec] at member this ⊢
      omega
  | attr value => cases within

/-- What holds of a node if it holds of the nodes directly in it holds of every node. -/
theorem nodes_induction {P : Node → Prop}
    (step : ∀ n, (∀ name m, (name, m) ∈ n.members → ∀ child ∈ m.nodes, P child) → P n)
    (n : Node) : P n :=
  step n fun _ _ mem child within =>
    have := sizeOf_lt_of_mem_members mem within
    nodes_induction step child
termination_by sizeOf n

/-- `n.Contains inner`: the node `inner` occurs anywhere in the node `n`, or is `n`. -/
inductive Contains : Node → Node → Prop
  | self (n) : Contains n n
  | member {n child inner name m} (mem : (name, m) ∈ n.members) (within : child ∈ m.nodes)
      (contains : Contains child inner) : Contains n inner

theorem Contains.trans {a b c : Node} (first : a.Contains b) (second : b.Contains c) :
    a.Contains c := by
  induction first with
  | self => exact second
  | member mem within _ ih => exact .member mem within (ih second)

/-- What is in a node with a member put in is in the node before or in the member. -/
theorem Contains.withMember_cases {n inner : Node} {name : String} {m : Member}
    (contains : (n.withMember name m).Contains inner) :
    inner = n.withMember name m ∨ n.Contains inner ∨ ∃ child ∈ m.nodes, child.Contains inner := by
  cases contains with
  | self => exact .inl rfl
  | member mem within contains =>
      rcases Fields.mem_insert mem with same | mem
      · cases same
        exact .inr (.inr ⟨_, within, contains⟩)
      · exact .inr (.inl (.member mem within contains))

/-- The property holds of every member anywhere in the node. -/
def EveryMember (Q : String → Member → Prop) (n : Node) : Prop :=
  ∀ inner, n.Contains inner → ∀ name m, (name, m) ∈ inner.members → Q name m

section EveryMember

variable {Q : String → Member → Prop} {n : Node}

theorem EveryMember.child {child : Node} (every : n.EveryMember Q) {name : String} {m : Member}
    (mem : (name, m) ∈ n.members) (within : child ∈ m.nodes) : child.EveryMember Q :=
  fun inner contains => every inner (.member mem within contains)

theorem everyMember_ofKind (kind : String) : (ofKind kind).EveryMember Q := by
  intro inner contains
  cases contains with
  | self => exact nofun
  | member mem _ _ => cases mem

theorem EveryMember.withMember (every : n.EveryMember Q) {name : String} {m : Member}
    (member : Q name m) (nodes : ∀ child ∈ m.nodes, child.EveryMember Q) :
    (n.withMember name m).EveryMember Q := by
  intro inner contains name' m' mem
  rcases contains.withMember_cases with rfl | before | ⟨child, within, inside⟩
  · rcases Fields.mem_insert mem with same | mem
    · cases same
      exact member
    · exact every n (.self n) name' m' mem
  · exact every inner before name' m' mem
  · exact nodes child within inner inside name' m' mem

theorem EveryMember.withKeyed (every : n.EveryMember Q) {name : String}
    {entries : List (String × Node)} (member : Q name (.map (Fields.ofList entries)))
    (nodes : ∀ entry ∈ entries, entry.2.EveryMember Q) :
    (n.withKeyed name entries).EveryMember Q := by
  apply every.withMember member
  intro child within
  obtain ⟨entry, mem, rfl⟩ := List.mem_map.mp within
  exact nodes entry (Fields.mem_of_mem_ofList mem)

end EveryMember

end Node

/-- The entries of a map, and the fields of an attribute, are in ascending order. -/
def Member.Ordered : Member → Prop
  | .map entries => Fields.Ascending entries
  | .attr value => value.Ordered
  | _ => True

namespace Node

/-- Everywhere in the node, members, entries of maps and fields of attributes are in ascending
order of their names. -/
def Ordered (n : Node) : Prop :=
  ∀ inner, n.Contains inner →
    Fields.Ascending inner.members ∧ ∀ name m, (name, m) ∈ inner.members → m.Ordered

theorem Ordered.child {n child : Node} (ordered : n.Ordered) {name : String} {m : Member}
    (mem : (name, m) ∈ n.members) (within : child ∈ m.nodes) : child.Ordered :=
  fun inner contains => ordered inner (.member mem within contains)

/-- Every number in an attribute anywhere in the node is an integer of 64 bits. -/
def IntegersOnly (n : Node) : Prop :=
  n.EveryMember fun _ m => ∀ value, m = .attr value → value.IntegersOnly

theorem ordered_ofKind (kind : String) : (ofKind kind).Ordered := by
  intro inner contains
  cases contains with
  | self => exact ⟨List.Pairwise.nil, fun _ _ mem => by cases mem⟩
  | member mem _ _ => cases mem

theorem Ordered.withMember {n : Node} (ordered : n.Ordered) (name : String) {m : Member}
    (member : m.Ordered) (nodes : ∀ child ∈ m.nodes, child.Ordered) :
    (n.withMember name m).Ordered := by
  have own := ordered n (.self n)
  intro inner contains
  rcases contains.withMember_cases with rfl | before | ⟨child, within, inside⟩
  · refine ⟨own.1.insert name m, ?_⟩
    intro name' m' mem
    rcases Fields.mem_insert mem with same | mem
    · cases same
      exact member
    · exact own.2 name' m' mem
  · exact ordered inner before
  · exact nodes child within inner inside

theorem Ordered.withNode {n child : Node} (ordered : n.Ordered) (name : String)
    (nodes : child.Ordered) : (n.withNode name child).Ordered := by
  apply ordered.withMember name (m := .node child) trivial
  intro c within
  cases List.mem_singleton.mp within
  exact nodes

theorem Ordered.withList {n : Node} (ordered : n.Ordered) (name : String) {items : List Node}
    (nodes : ∀ item ∈ items, item.Ordered) : (n.withList name items).Ordered :=
  ordered.withMember name (m := .list items) trivial nodes

theorem Ordered.withAttr {n : Node} (ordered : n.Ordered) (name : String) {value : Json}
    (fields : value.Ordered) : (n.withAttr name value).Ordered :=
  ordered.withMember name (m := .attr value) fields fun _ within => by cases within

theorem ordered_ident (name : String) : (ident name).Ordered := by
  apply (ordered_ofKind _).withAttr
  intro fields contains
  cases contains with
  | part mem _ => cases mem

/-- Of the entries for a map, the later of two with one key counts, so its keys ascend. -/
theorem Ordered.withKeyed {n : Node} (ordered : n.Ordered) (name : String)
    {entries : List (String × Node)} (nodes : ∀ entry ∈ entries, entry.2.Ordered) :
    (n.withKeyed name entries).Ordered := by
  apply ordered.withMember
  · exact Fields.ascending_ofList entries
  · intro child within
    obtain ⟨entry, mem, rfl⟩ := List.mem_map.mp within
    exact nodes entry (Fields.mem_of_mem_ofList mem)

end Node

theorem Fields.mem_of_get?_eq_some {α : Type} {name : String} {value : α} {fields : Fields α}
    (found : get? name fields = some value) : (name, value) ∈ fields := by
  induction fields with
  | nil => cases found
  | cons first rest ih =>
      obtain ⟨other, old⟩ := first
      rw [get?] at found
      split at found
      case isTrue same =>
        cases found
        exact same ▸ List.mem_cons_self
      case isFalse => exact List.mem_cons_of_mem _ (ih found)

namespace Node

/-- What a slot of a node holds comes from the member of that name. -/
theorem slot_cases (n : Node) (name : String) :
    n.slot name = .absent ∨ ∃ m, (name, m) ∈ n.members ∧ n.slot name = m.slotValue := by
  unfold slot
  split
  case h_1 m found => exact .inr ⟨m, Fields.mem_of_get?_eq_some found, rfl⟩
  case h_2 => exact .inl rfl

theorem contains_of_within {root n : Node} (within : Within root n) : root.Contains n := by
  induction within with
  | root => exact .self root
  | @step inner child _ name mem ih =>
      refine ih.trans ?_
      rcases inner.slot_cases name with absent | ⟨m, member, held⟩
      · rw [show SyntaxTree.slot inner name = .absent from absent] at mem
        cases mem
      · rw [show SyntaxTree.slot inner name = m.slotValue from held] at mem
        refine .member member ?_ (.self child)
        cases m with
        | attr value => cases value <;> cases mem
        | _ => exact mem

/-- In an ordered node no keyed slot repeats a key. -/
theorem Ordered.uniqueKeys {n : Node} (ordered : n.Ordered) : UniqueKeys n := by
  intro inner within name
  rcases inner.slot_cases name with absent | ⟨m, member, held⟩
  · rw [show SyntaxTree.slot inner name = .absent from absent]
    trivial
  · rw [show SyntaxTree.slot inner name = m.slotValue from held]
    have ascending := (ordered inner (contains_of_within within)).2 name m member
    cases m with
    | map entries => exact Fields.Ascending.nodup ascending
    | attr value => cases value <;> trivial
    | _ => trivial

end Node

end TreeSearch

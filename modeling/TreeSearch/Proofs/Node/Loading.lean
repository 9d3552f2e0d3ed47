import TreeSearch.Node.Load
import TreeSearch.Proofs.Json.Ordering
import TreeSearch.Proofs.Node.Nodes

/-!
# What is loaded

The loader decides by the shape of a value what it stands for: a node, a list of nodes, a map of
nodes or an attribute. So a loaded node is canonical: no member is named `kind`, and no attribute
has the shape of nodes. Its members are in order, whatever the order in the text.
-/

namespace TreeSearch

namespace Json

/-- An object with a string under `kind`. -/
def HasKind (v : Json) : Prop :=
  ∃ fields kind, v = .obj fields ∧ Fields.get? "kind" fields = some (.str kind)

/-- The shapes that are not loaded as attributes. Empty arrays and empty objects are among them. -/
inductive Nodal : Json → Prop
  | node {v} (kind : HasKind v) : Nodal v
  | array {items} (kinds : ∀ item ∈ items, HasKind item) : Nodal (.arr items)
  | object {fields} (kinds : ∀ field ∈ fields, HasKind field.2) : Nodal (.obj fields)

theorem kind?_eq_some_iff {fields : List (String × Json)} {kind : String} :
    kind? fields = some kind ↔ Fields.get? "kind" fields = some (.str kind) := by
  unfold kind?
  split
  case h_1 found => rw [found, Option.some.injEq, Option.some.injEq, str.injEq]
  case h_2 other => exact ⟨nofun, fun found => absurd found (other kind)⟩

theorem isNode_iff_hasKind {v : Json} : v.isNode = true ↔ v.HasKind := by
  constructor
  · intro node
    cases v with
    | obj fields =>
        obtain ⟨kind, found⟩ := Option.isSome_iff_exists.mp node
        exact ⟨fields, kind, rfl, kind?_eq_some_iff.mp found⟩
    | _ => cases node
  · rintro ⟨fields, kind, rfl, found⟩
    exact Option.isSome_iff_exists.mpr ⟨kind, kind?_eq_some_iff.mpr found⟩

/-- A map of nodes has no string under `kind`. -/
theorem kind?_eq_none_of_nodes {fields : List (String × Json)}
    (nodes : ∀ field ∈ fields, field.2.isNode = true) : kind? fields = none := by
  rw [Option.eq_none_iff_forall_ne_some]
  intro kind found
  have node := nodes _ (Fields.mem_of_get?_eq_some (kind?_eq_some_iff.mp found))
  cases node

end Json

/-! ## What the loader makes of a value -/

theorem Member.ofFields_eq_map (fields : List (String × Json)) :
    ofFields fields = (fields.filter fun field => field.1 ≠ "kind").map fun field =>
      (field.1, ofJson field.2) := by
  induction fields with
  | nil => rfl
  | cons field rest ih =>
      obtain ⟨name, value⟩ := field
      by_cases kind : name = "kind"
      · rw [ofFields, if_pos kind, ih, List.filter_cons_of_neg (by simpa using kind)]
      · rw [ofFields, if_neg kind, ih, List.filter_cons_of_pos (by simpa using kind),
          List.map_cons]

theorem Node.ofItems_eq_filterMap (items : List Json) :
    ofItems items = items.filterMap ofJson? := by
  induction items with
  | nil => rfl
  | cons item rest ih =>
      rw [ofItems, ih, List.filterMap_cons]
      cases ofJson? item <;> rfl

theorem Node.ofFields_eq_filterMap (fields : List (String × Json)) :
    ofFields fields = fields.filterMap fun field => (ofJson? field.2).map (field.1, ·) := by
  induction fields with
  | nil => rfl
  | cons field rest ih =>
      obtain ⟨key, value⟩ := field
      rw [ofFields, ih, List.filterMap_cons]
      dsimp only
      cases ofJson? value <;> rfl

theorem Node.ofJson?_eq_some_iff {v : Json} {n : Node} :
    ofJson? v = some n ↔
      ∃ fields, v = .obj fields ∧ Json.kind? fields = some n.kind ∧
        n.members = Member.ofFields fields := by
  obtain ⟨kind, members⟩ := n
  constructor
  · intro node
    cases v with
    | obj fields =>
        rw [ofJson?] at node
        split at node
        case h_1 found =>
          cases node
          exact ⟨fields, rfl, found, rfl⟩
        case h_2 => cases node
    | _ => cases node
  · rintro ⟨fields, rfl, found, same⟩
    cases same
    rw [ofJson?, found]
    rfl

theorem Node.exists_ofJson?_of_hasKind {v : Json} (node : v.HasKind) : ∃ n, ofJson? v = some n := by
  obtain ⟨fields, kind, rfl, found⟩ := node
  exact ⟨.mk kind (Member.ofFields fields),
    ofJson?_eq_some_iff.mpr ⟨fields, rfl, Json.kind?_eq_some_iff.mpr found, rfl⟩⟩

theorem Node.hasKind_of_ofJson? {v : Json} {n : Node} (node : ofJson? v = some n) : v.HasKind := by
  obtain ⟨fields, rfl, found, -⟩ := ofJson?_eq_some_iff.mp node
  exact ⟨fields, n.kind, rfl, Json.kind?_eq_some_iff.mp found⟩

namespace Member

theorem ofJson_of_node {v : Json} {n : Node} (node : Node.ofJson? v = some n) :
    ofJson v = .node n := by
  obtain ⟨fields, rfl, found, same⟩ := Node.ofJson?_eq_some_iff.mp node
  obtain ⟨kind, members⟩ := n
  cases same
  rw [ofJson, found]
  rfl

theorem ofJson_array {items : List Json} (kinds : ∀ item ∈ items, item.HasKind) :
    ofJson (.arr items) = .list (items.filterMap Node.ofJson?) := by
  have nodes : items.all Json.isNode = true :=
    List.all_eq_true.mpr fun item mem => Json.isNode_iff_hasKind.mpr (kinds item mem)
  rw [ofJson, if_pos nodes, Node.ofItems_eq_filterMap]

theorem ofJson_object {fields : List (String × Json)} (kinds : ∀ field ∈ fields, field.2.HasKind) :
    ofJson (.obj fields) =
      .map (fields.filterMap fun field => (Node.ofJson? field.2).map (field.1, ·)) := by
  have nodes : ∀ field ∈ fields, field.2.isNode = true :=
    fun field mem => Json.isNode_iff_hasKind.mpr (kinds field mem)
  rw [ofJson, Json.kind?_eq_none_of_nodes nodes]
  dsimp only
  rw [if_pos (List.all_eq_true.mpr nodes), Node.ofFields_eq_filterMap]

/-- What has not the shape of nodes is an attribute. -/
theorem ofJson_of_not_nodal {v : Json} (plain : ¬ v.Nodal) : ofJson v = .attr v := by
  cases v with
  | arr items =>
      have mixed : ¬ items.all Json.isNode = true := fun nodes => plain <| .array fun item mem =>
        Json.isNode_iff_hasKind.mp (List.all_eq_true.mp nodes item mem)
      rw [ofJson, if_neg mixed]
  | obj fields =>
      have mixed : ¬ (fields.all fun field => field.2.isNode) = true := fun nodes =>
        plain <| .object fun field mem =>
          Json.isNode_iff_hasKind.mp (List.all_eq_true.mp nodes field mem)
      rw [ofJson]
      split
      case h_1 kind found =>
        exact absurd (.node ⟨fields, kind, rfl, Json.kind?_eq_some_iff.mp found⟩) plain
      case h_2 => rw [if_neg mixed]
  | _ => rfl

/-- The nodes in a member come from the value itself or from the values directly in it. -/
theorem ofJson_cases (v : Json) :
    ¬ v.Nodal ∧ ofJson v = .attr v ∨
      (∀ a, ofJson v ≠ .attr a) ∧ ∀ child ∈ (ofJson v).nodes,
        Node.ofJson? v = some child ∨ ∃ part ∈ v.parts, Node.ofJson? part = some child := by
  by_cases nodal : v.Nodal
  · right
    cases nodal with
    | node kind =>
        obtain ⟨n, node⟩ := Node.exists_ofJson?_of_hasKind kind
        rw [ofJson_of_node node]
        refine ⟨nofun, fun child mem => .inl ?_⟩
        rw [List.mem_singleton.mp mem, node]
    | array kinds =>
        rw [ofJson_array kinds]
        refine ⟨nofun, fun child mem => .inr ?_⟩
        exact List.mem_filterMap.mp mem
    | @object fields kinds =>
        rw [ofJson_object kinds]
        refine ⟨nofun, fun child mem => .inr ?_⟩
        obtain ⟨entry, hentry, rfl⟩ := List.mem_map.mp mem
        obtain ⟨field, hfield, same⟩ := List.mem_filterMap.mp hentry
        obtain ⟨n, node, rfl⟩ := Option.map_eq_some_iff.mp same
        exact ⟨field.2, List.mem_map_of_mem hfield, node⟩
  · exact .inl ⟨nodal, ofJson_of_not_nodal nodal⟩

theorem ordered_ofJson {v : Json} (ordered : v.Ordered) : (ofJson v).Ordered := by
  by_cases nodal : v.Nodal
  · cases nodal with
    | node kind =>
        obtain ⟨n, node⟩ := Node.exists_ofJson?_of_hasKind kind
        rw [ofJson_of_node node]
        trivial
    | array kinds =>
        rw [ofJson_array kinds]
        trivial
    | @object fields kinds =>
        rw [ofJson_object kinds]
        refine List.Pairwise.filterMap _ ?_ (ordered fields (.self _))
        intro a b less entry hentry entry' hentry'
        obtain ⟨n, -, rfl⟩ := Option.map_eq_some_iff.mp hentry
        obtain ⟨n', -, rfl⟩ := Option.map_eq_some_iff.mp hentry'
        exact less
  · rw [ofJson_of_not_nodal nodal]
    exact ordered

end Member

/-! ## Loading gives canonical nodes -/

namespace Node

/-- Nowhere in the node is a member named `kind`, or has an attribute the shape of nodes. -/
def Canonical (n : Node) : Prop :=
  n.EveryMember fun name m => name ≠ "kind" ∧ ∀ value, m = .attr value → ¬ value.Nodal

theorem mem_ofFields {name : String} {m : Member} {fields : List (String × Json)}
    (mem : (name, m) ∈ Member.ofFields fields) :
    name ≠ "kind" ∧ ∃ value, (name, value) ∈ fields ∧ m = Member.ofJson value := by
  rw [Member.ofFields_eq_map] at mem
  obtain ⟨⟨other, value⟩, kept, same⟩ := List.mem_map.mp mem
  obtain ⟨hfield, kind⟩ := List.mem_filter.mp kept
  cases same
  exact ⟨of_decide_eq_true kind, value, hfield, rfl⟩

/-- Every node in what a value stands for comes from a value in it. -/
theorem exists_value_of_contains {v : Json} {n inner : Node} (contains : n.Contains inner)
    (node : ofJson? v = some n) : ∃ w, v.Contains w ∧ ofJson? w = some inner := by
  induction contains generalizing v with
  | self n => exact ⟨v, .self v, node⟩
  | member mem within _ ih =>
      obtain ⟨fields, rfl, -, members⟩ := ofJson?_eq_some_iff.mp node
      obtain ⟨-, value, hvalue, rfl⟩ := mem_ofFields (members ▸ mem)
      have part : value ∈ (Json.obj fields).parts := List.mem_map_of_mem hvalue
      -- between a node and its children stands the value of a member, itself a node or full of them
      rcases Member.ofJson_cases value with ⟨-, same⟩ | ⟨-, nodes⟩
      · rw [same] at within
        cases within
      · rcases nodes _ within with node | ⟨deeper, hdeeper, node⟩
        · obtain ⟨w, inside, found⟩ := ih node
          exact ⟨w, .part part inside, found⟩
        · obtain ⟨w, inside, found⟩ := ih node
          exact ⟨w, .part part (.part hdeeper inside), found⟩

/-- What a value stands for is canonical, however its fields are ordered. -/
theorem canonical_of_ofJson? {v : Json} {n : Node} (node : ofJson? v = some n) : n.Canonical := by
  intro inner contains name m mem
  obtain ⟨w, -, found⟩ := exists_value_of_contains contains node
  obtain ⟨fields, -, -, members⟩ := ofJson?_eq_some_iff.mp found
  obtain ⟨kind, value, -, rfl⟩ := mem_ofFields (members ▸ mem)
  refine ⟨kind, ?_⟩
  intro a held
  rcases Member.ofJson_cases value with ⟨plain, same⟩ | ⟨other, -⟩
  · cases same.symm.trans held
    exact plain
  · exact absurd held (other a)

/-- If the fields of a value are in order, so is the node that it stands for. -/
theorem ordered_of_ofJson? {v : Json} {n : Node} (ordered : v.Ordered) (node : ofJson? v = some n) :
    n.Ordered := by
  intro inner contains
  obtain ⟨w, inside, found⟩ := exists_value_of_contains contains node
  obtain ⟨fields, rfl, -, members⟩ := ofJson?_eq_some_iff.mp found
  constructor
  · rw [members, Member.ofFields_eq_map]
    exact (Fields.ascending_map _ _).mpr ((ordered fields inside).filter _)
  · intro name m mem
    obtain ⟨-, value, hvalue, rfl⟩ := mem_ofFields (members ▸ mem)
    have part : value ∈ (Json.obj fields).parts := List.mem_map_of_mem hvalue
    apply Member.ordered_ofJson
    exact fun inner within => ordered inner (inside.trans (.part part within))

theorem ofJson_eq_ok_iff {v : Json} {n : Node} : ofJson v = .ok n ↔ ofJson? v = some n := by
  unfold ofJson
  split
  case h_1 m found => rw [found, Except.ok.injEq, Option.some.injEq]
  case h_2 missing =>
    rw [missing]
    split <;> exact ⟨nofun, nofun⟩

theorem load_eq_ok_iff {source : Json.Source} {n : Node} :
    load source = .ok n ↔
      ∃ v, Json.Document.read source = .ok ⟨v, none⟩ ∧ ofJson? v = some n := by
  unfold load
  split
  case h_1 failed =>
    rw [failed]
    exact ⟨nofun, nofun⟩
  case h_2 document known =>
    obtain ⟨v, ending⟩ := document
    rw [known]
    constructor
    · intro loaded
      cases made : ofJson v with
      | error reason =>
          rw [made] at loaded
          cases loaded
      | ok m =>
          rw [made] at loaded
          cases ending with
          | some fault => cases loaded
          | none =>
              cases loaded
              exact ⟨v, rfl, ofJson_eq_ok_iff.mp made⟩
    · rintro ⟨w, same, node⟩
      cases same
      rw [ofJson_eq_ok_iff.mpr node]
      rfl

theorem canonical_of_load {source : Json.Source} {n : Node} (loaded : load source = .ok n) :
    n.Canonical := by
  obtain ⟨v, -, node⟩ := load_eq_ok_iff.mp loaded
  exact canonical_of_ofJson? node

theorem ordered_of_load {source : Json.Source} {n : Node} (loaded : load source = .ok n) :
    n.Ordered := by
  obtain ⟨v, known, node⟩ := load_eq_ok_iff.mp loaded
  exact ordered_of_ofJson? (Json.ordered_of_read known) node

end Node

end TreeSearch

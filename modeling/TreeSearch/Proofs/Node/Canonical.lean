import TreeSearch.Proofs.Json.RoundTrip
import TreeSearch.Proofs.Node.Equality
import TreeSearch.Proofs.Node.Loading

/-!
# Canonical nodes are loaded from their text

The text of a node does not say of which kind its members are. On a canonical node the loader finds
the same kinds again, so loading the text gives the node back, and it does so for no other node.
-/

namespace TreeSearch

theorem Member.toFields_eq_map (members : List (String × Member)) :
    toFields members = members.map fun member => (member.1, member.2.toJson) := by
  induction members with
  | nil => rfl
  | cons member rest ih => rw [toFields, ih, List.map_cons]

theorem Node.toItems_eq_map (items : List Node) : toItems items = items.map toJson := by
  induction items with
  | nil => rfl
  | cons item rest ih => rw [toItems, ih, List.map_cons]

theorem Node.toFields_eq_map (entries : List (String × Node)) :
    toFields entries = entries.map fun entry => (entry.1, entry.2.toJson) := by
  induction entries with
  | nil => rfl
  | cons entry rest ih => rw [toFields, ih, List.map_cons]

/-- Under `kind` stands no member, whatever is put there. -/
theorem Member.ofFields_insert_kind (v : Json) (fields : Fields Json) :
    ofFields (fields.insert "kind" v) = ofFields fields := by
  induction fields with
  | nil => rfl
  | cons field rest ih =>
      obtain ⟨name, value⟩ := field
      rw [Fields.insert]
      split
      case isTrue => rw [ofFields, if_pos rfl]
      case isFalse =>
        split
        case isTrue same => rw [ofFields, if_pos rfl, ofFields, if_pos same.symm]
        case isFalse different =>
          rw [ofFields, if_neg (Ne.symm different), ih, ofFields, if_neg (Ne.symm different)]

/-- A member whose nodes are loaded again is loaded again itself. -/
theorem Member.ofJson_toJson {m : Member} (ordered : m.Ordered)
    (plain : ∀ value, m = .attr value → ¬ value.Nodal)
    (nodes : ∀ child ∈ m.nodes, Node.ofJson? child.toJson.normal = some child) :
    ofJson m.toJson.normal = m := by
  cases m with
  | node child => exact ofJson_of_node (nodes child (List.mem_singleton.mpr rfl))
  | list items =>
      have written : (list items).toJson.normal =
          .arr (items.map fun item => item.toJson.normal) := by
        rw [toJson, Json.normal, Json.normalItems_eq_map, Node.toItems_eq_map, List.map_map]
        rfl
      have kinds : ∀ item ∈ items.map fun item => item.toJson.normal, item.HasKind := by
        intro item mem
        obtain ⟨n, hn, rfl⟩ := List.mem_map.mp mem
        exact Node.hasKind_of_ofJson? (nodes n hn)
      calc ofJson (list items).toJson.normal
          _ = .list ((items.map fun item => item.toJson.normal).filterMap Node.ofJson?) := by
            rw [written, ofJson_array kinds]
          _ = .list (items.filterMap some) := by
            rw [List.filterMap_map]
            exact congrArg list (List.filterMap_congr nodes)
          _ = .list items := by rw [List.filterMap_some]
  | map entries =>
      have written : (map entries).toJson.normal =
          .obj (entries.map fun entry => (entry.1, entry.2.toJson.normal)) := by
        have ascending :=
          (Fields.ascending_map (fun n : Node => n.toJson.normal) entries).mpr ordered
        rw [toJson, Json.normal, Json.normalFields_eq_map, Node.toFields_eq_map, List.map_map]
        exact congrArg Json.obj (Fields.ofList_of_ascending ascending)
      have loaded : ∀ entry ∈ entries, Node.ofJson? entry.2.toJson.normal = some entry.2 :=
        fun entry mem => nodes entry.2 (List.mem_map_of_mem mem)
      have kinds : ∀ field ∈ entries.map fun entry => (entry.1, entry.2.toJson.normal),
          field.2.HasKind := by
        intro field mem
        obtain ⟨entry, hentry, rfl⟩ := List.mem_map.mp mem
        exact Node.hasKind_of_ofJson? (loaded entry hentry)
      calc ofJson (map entries).toJson.normal
          _ = .map ((entries.map fun entry => (entry.1, entry.2.toJson.normal)).filterMap
                fun field => (Node.ofJson? field.2).map (field.1, ·)) := by
            rw [written, ofJson_object kinds]
          _ = .map (entries.filterMap some) := by
            rw [List.filterMap_map]
            refine congrArg map (List.filterMap_congr fun entry mem => ?_)
            exact Option.map_eq_some_iff.mpr ⟨entry.2, loaded entry mem, rfl⟩
          _ = .map entries := by rw [List.filterMap_some]
  | attr value =>
      rw [toJson, Json.normal_of_ordered ordered]
      exact ofJson_of_not_nodal (plain value rfl)

namespace Node

/-- The fields of a canonical node are its members with the kind among them. -/
theorem ofJson?_toJson {n : Node} (ordered : n.Ordered) (canonical : n.Canonical) :
    ofJson? n.toJson.normal = some n := by
  induction n using nodes_induction with
  | step n ih =>
      have own := ordered n (.self n)
      have plain := canonical n (.self n)
      have loaded : ∀ member ∈ n.members, Member.ofJson member.2.toJson.normal = member.2 := by
        intro member mem
        refine Member.ofJson_toJson (own.2 _ _ mem) (plain _ _ mem).2 ?_
        intro child within
        exact ih _ _ mem child within (ordered.child mem within) (canonical.child mem within)
      obtain ⟨kind, members⟩ := n
      let fields : Fields Json := members.map fun member => (member.1, member.2.toJson.normal)
      have names : ∀ field ∈ fields, "kind" ≠ field.1 := by
        intro field mem
        obtain ⟨member, hmember, rfl⟩ := List.mem_map.mp mem
        exact (plain _ _ hmember).1.symm
      have ascending : Fields.Ascending fields :=
        (Fields.ascending_map (fun m : Member => m.toJson.normal) members).mpr own.1
      have written : (mk kind members).toJson.normal = .obj (fields.insert "kind" (.str kind)) := by
        rw [toJson, Json.normal, Json.normalFields, Json.normalFields_eq_map,
          Member.toFields_eq_map, List.map_map]
        exact congrArg Json.obj (Fields.ofList_cons_of_ascending _ ascending names)
      refine ofJson?_eq_some_iff.mpr ⟨_, written, ?_, ?_⟩
      · exact Json.kind?_eq_some_iff.mpr (Fields.get?_insert_self _ _ _)
      · have all : fields.filter (fun field => field.1 ≠ "kind") = fields :=
          List.filter_eq_self.mpr fun field mem => decide_eq_true (names field mem).symm
        symm
        calc Member.ofFields (fields.insert "kind" (.str kind))
            _ = fields.map fun field => (field.1, Member.ofJson field.2) := by
              rw [Member.ofFields_insert_kind, Member.ofFields_eq_map, all]
            _ = members.map fun member => (member.1, Member.ofJson member.2.toJson.normal) := by
              rw [List.map_map]
              rfl
            _ = members := by
              refine (List.map_congr_left fun member mem => ?_).trans (List.map_id members)
              exact Prod.ext rfl (loaded member mem)

theorem IntegersOnly.toJson {n : Node} (integers : n.IntegersOnly) : n.toJson.IntegersOnly := by
  induction n using nodes_induction with
  | step n ih =>
      have members : ∀ member ∈ n.members, member.2.toJson.IntegersOnly := by
        rintro ⟨name, m⟩ mem
        have nodes : ∀ child ∈ m.nodes, child.toJson.IntegersOnly :=
          fun child within => ih _ _ mem child within (integers.child mem within)
        cases m with
        | node child => exact nodes child (List.mem_singleton.mpr rfl)
        | list items =>
            rw [Member.toJson, toItems_eq_map]
            exact Json.integersOnly_arr (List.forall_mem_map.mpr nodes)
        | map entries =>
            rw [Member.toJson, toFields_eq_map]
            exact Json.integersOnly_obj
              (List.forall_mem_map.mpr fun entry mem => nodes entry.2 (List.mem_map_of_mem mem))
        | attr value => exact integers n (.self n) name _ mem value rfl
      obtain ⟨kind, ms⟩ := n
      rw [Node.toJson, Member.toFields_eq_map]
      exact Json.integersOnly_obj
        (List.forall_mem_cons.mpr ⟨Json.integersOnly_str kind, List.forall_mem_map.mpr members⟩)

theorem load_pretty {n : Node} (ordered : n.Ordered) (integers : n.IntegersOnly)
    (canonical : n.Canonical) : load (.text n.pretty) = .ok n :=
  load_eq_ok_iff.mpr ⟨n.toJson.normal, Json.read_write integers.toJson .indented,
    ofJson?_toJson ordered canonical⟩

/-- Loading and writing are inverse exactly on canonical nodes, up to equality of nodes as well, and
nothing else is loaded, whatever the source. -/
theorem load_pretty_iff_canonical :
    (∀ n : Node, n.Ordered → n.IntegersOnly →
      (load (.text n.pretty) = .ok n ↔ n.Canonical) ∧
      ((∃ m, load (.text n.pretty) = .ok m ∧ (m == n) = true) ↔ n.Canonical)) ∧
    ∀ source n, load source = .ok n → n.Ordered ∧ n.Canonical := by
  refine ⟨?_, fun source n loaded => ⟨ordered_of_load loaded, canonical_of_load loaded⟩⟩
  intro n ordered integers
  refine ⟨⟨canonical_of_load, load_pretty ordered integers⟩, ?_, ?_⟩
  · rintro ⟨m, loaded, same⟩
    cases (beq_eq_true_iff integers).mp same
    exact canonical_of_load loaded
  · intro canonical
    exact ⟨n, load_pretty ordered integers canonical, (beq_eq_true_iff integers).mpr rfl⟩

end Node

/-- A node with a key `kind` in a map, and an attribute with the least and the greatest integer. -/
def sampleCall : Node :=
  ((Node.ofKind "Call").withKeyed "Names"
    [("kind", .ofKind "Name"), ("f", .ofKind "Name")]).withAttr "Bounds"
      (.arr [.num (.int (-2 ^ 63)), .num (.int (2 ^ 64 - 1)), .str "\"\n"])

theorem ordered_sampleCall : sampleCall.Ordered := by
  refine ((Node.ordered_ofKind _).withKeyed _ ?_).withAttr _ ?_
  · simp only [List.forall_mem_cons, Node.ordered_ofKind, true_and]
    exact nofun
  · apply Json.ordered_arr
    simp only [List.forall_mem_cons]
    exact ⟨Json.ordered_scalar rfl nofun, Json.ordered_scalar rfl nofun,
      Json.ordered_scalar rfl nofun, nofun⟩

theorem integersOnly_sampleCall : sampleCall.IntegersOnly := by
  refine ((Node.everyMember_ofKind _).withKeyed nofun ?_).withMember ?_ nofun
  · simp only [List.forall_mem_cons, Node.everyMember_ofKind, true_and]
    exact nofun
  · rintro _ ⟨⟩
    apply Json.integersOnly_arr
    simp only [List.forall_mem_cons]
    exact ⟨Json.integersOnly_int (by decide) (by decide),
      Json.integersOnly_int (by decide) (by decide), Json.integersOnly_str _, nofun⟩

theorem canonical_sampleCall : sampleCall.Canonical := by
  refine ((Node.everyMember_ofKind _).withKeyed ⟨by decide, nofun⟩ ?_).withMember ⟨by decide, ?_⟩
    nofun
  · simp only [List.forall_mem_cons, Node.everyMember_ofKind, true_and]
    exact nofun
  · rintro _ ⟨⟩ nodal
    cases nodal with
    | node kind => obtain ⟨_, _, same, -⟩ := kind; cases same
    | array kinds =>
        obtain ⟨_, _, same, -⟩ := kinds _ List.mem_cons_self
        cases same

/-- A node with an empty array as an attribute, which is loaded as an empty list. -/
def sampleEmpty : Node := (Node.ofKind "Call").withAttr "Bounds" (.arr [])

theorem integersOnly_sampleEmpty : sampleEmpty.IntegersOnly := by
  refine (Node.everyMember_ofKind _).withMember ?_ nofun
  rintro _ ⟨⟩
  exact Json.integersOnly_arr nofun

theorem not_canonical_sampleEmpty : ¬ sampleEmpty.Canonical := by
  intro canonical
  have plain := canonical sampleEmpty (.self _) "Bounds" (.attr (.arr [])) List.mem_cons_self
  exact plain.2 _ rfl (.array nofun)

theorem load_pretty_of_call :
    (sampleCall.Ordered ∧ sampleCall.IntegersOnly ∧
      Node.load (.text sampleCall.pretty) = .ok sampleCall) ∧
    sampleEmpty.Ordered ∧ sampleEmpty.IntegersOnly ∧
      Node.load (.text sampleEmpty.pretty) ≠ .ok sampleEmpty := by
  have ordered : sampleEmpty.Ordered :=
    (Node.ordered_ofKind _).withAttr _ (Json.ordered_scalar rfl nofun)
  have call := Node.load_pretty_iff_canonical.1 sampleCall ordered_sampleCall
    integersOnly_sampleCall
  have empty := Node.load_pretty_iff_canonical.1 sampleEmpty ordered integersOnly_sampleEmpty
  refine ⟨⟨ordered_sampleCall, integersOnly_sampleCall, call.1.mpr canonical_sampleCall⟩,
    ordered, integersOnly_sampleEmpty, ?_⟩
  exact fun loaded => not_canonical_sampleEmpty (empty.1.mp loaded)

end TreeSearch

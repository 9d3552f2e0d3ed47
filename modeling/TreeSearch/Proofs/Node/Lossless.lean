import TreeSearch.Proofs.Node.Canonical

/-!
# Nothing is lost in loading

A node that is made of a value and written again is the value, up to the place of the kind among
the fields: the loader sorts the values in a node into children, lists, maps and attributes, and
none of these lets go of a part or adds one (`Member.normal_toJson_ofJson`). No name occurs twice in
what is written, so putting the fields in order drops nothing either (`Node.uniqueNames_toJson`).
-/

namespace TreeSearch

/-- A field taken out of ascending fields is put back where it was. -/
theorem Fields.insert_filter {α : Type} {fields : Fields α} (ascending : Ascending fields)
    {name : String} {value : α} (found : get? name fields = some value) :
    insert name value (fields.filter fun field => field.1 ≠ name) = fields := by
  induction fields with
  | nil => cases found
  | cons field rest ih =>
      obtain ⟨other, old⟩ := field
      obtain ⟨least, ascendingRest⟩ := List.pairwise_cons.mp ascending
      by_cases same : name = other
      · subst same
        rw [get?, if_pos rfl, Option.some.injEq] at found
        subst found
        have others : rest.filter (fun field => field.1 ≠ name) = rest :=
          List.filter_eq_self.mpr fun field mem => decide_eq_true (ne_of_gt (least field mem))
        rw [List.filter_cons_of_neg (by simp), others]
        cases rest with
        | nil => rfl
        | cons next rest => rw [insert, if_pos (least next List.mem_cons_self)]
      · rw [get?, if_neg same] at found
        have less : other < name := least _ (mem_of_get?_eq_some found)
        rw [List.filter_cons_of_pos (by simpa using Ne.symm same), insert,
          if_neg (not_lt_of_gt less), if_neg same, ih ascendingRest found]

namespace Json

/-- No object in the value has two fields of one name. -/
def UniqueNames (v : Json) : Prop :=
  ∀ fields, v.Contains (.obj fields) → (fields.map Prod.fst).Nodup

theorem Ordered.uniqueNames {v : Json} (ordered : v.Ordered) : v.UniqueNames :=
  fun fields within => (ordered fields within).nodup

theorem uniqueNames_str (text : String) : (str text).UniqueNames := by
  intro fields contains
  cases contains with
  | part mem _ => cases mem

theorem uniqueNames_arr {items : List Json} (unique : ∀ item ∈ items, item.UniqueNames) :
    (arr items).UniqueNames := by
  intro fields contains
  cases contains with
  | part mem within => exact unique _ mem fields within

theorem uniqueNames_obj {fields : List (String × Json)} (nodup : (fields.map Prod.fst).Nodup)
    (unique : ∀ field ∈ fields, field.2.UniqueNames) : (obj fields).UniqueNames := by
  intro inner contains
  cases contains with
  | self => exact nodup
  | part mem within =>
      obtain ⟨field, hfield, rfl⟩ := List.mem_map.mp mem
      exact unique field hfield inner within

end Json

/-! ## What is made of a value is written as the value -/

theorem Node.normal_toJson_of_fields {fields : Fields Json} (ascending : fields.Ascending)
    {kind : String} (found : Fields.get? "kind" fields = some (.str kind))
    (values : ∀ field ∈ fields, (Member.ofJson field.2).toJson.normal = field.2) :
    (mk kind (Member.ofFields fields)).toJson.normal = .obj fields := by
  let others : Fields Json := fields.filter fun field => field.1 ≠ "kind"
  have names : ∀ field ∈ others, "kind" ≠ field.1 :=
    fun field mem => Ne.symm (of_decide_eq_true (List.mem_filter.mp mem).2)
  have members : Json.normalFields (Member.toFields (Member.ofFields fields)) = others := by
    rw [Member.ofFields_eq_map, Member.toFields_eq_map, Json.normalFields_eq_map, List.map_map,
      List.map_map]
    refine (List.map_congr_left fun field mem => ?_).trans (List.map_id others)
    exact Prod.ext rfl (values field (List.mem_of_mem_filter mem))
  calc (mk kind (Member.ofFields fields)).toJson.normal
      _ = .obj (Fields.ofList (("kind", .str kind) :: others)) := by
        rw [toJson, Json.normal, Json.normalFields, members]
        rfl
      _ = .obj (Fields.insert "kind" (.str kind) others) := by
        rw [Fields.ofList_cons_of_ascending _ (ascending.filter _) names]
      _ = .obj fields := by rw [Fields.insert_filter ascending found]

/-- Nodes in a list are the values that they are made of. -/
theorem Member.normal_toJson_list {items : List Json}
    (nodes : ∀ item ∈ items, (Node.ofJson? item).map (fun n => n.toJson.normal) = some item) :
    (list (items.filterMap Node.ofJson?)).toJson.normal = .arr items := by
  rw [toJson, Node.toItems_eq_map, Json.normal, Json.normalItems_eq_map, List.map_map,
    List.map_filterMap]
  exact congrArg Json.arr ((List.filterMap_congr nodes).trans List.filterMap_some)

/-- Nodes in a map are the values that they are made of, under the same names. -/
theorem Member.normal_toJson_map {fields : Fields Json} (ascending : fields.Ascending)
    (nodes : ∀ field ∈ fields,
      (Node.ofJson? field.2).map (fun n => n.toJson.normal) = some field.2) :
    (map (fields.filterMap fun field => (Node.ofJson? field.2).map (field.1, ·))).toJson.normal =
      .obj fields := by
  have entries : ∀ field ∈ fields,
      ((Node.ofJson? field.2).map (field.1, ·)).map (fun entry => (entry.1, entry.2.toJson.normal)) =
        some field := by
    intro field mem
    obtain ⟨n, node, written⟩ := Option.map_eq_some_iff.mp (nodes field mem)
    rw [node, Option.map_some, Option.map_some, written]
  have same : Json.normalFields (Node.toFields
      (fields.filterMap fun field => (Node.ofJson? field.2).map (field.1, ·))) = fields := by
    rw [Node.toFields_eq_map, Json.normalFields_eq_map, List.map_map, List.map_filterMap]
    exact (List.filterMap_congr entries).trans List.filterMap_some
  rw [toJson, Json.normal, same, Fields.ofList_of_ascending ascending]

/-- What a value stands for is written as the value. -/
theorem Member.normal_toJson_ofJson {v : Json} (ordered : v.Ordered) :
    (ofJson v).toJson.normal = v := by
  induction v using Json.parts_induction with
  | step v ih =>
      have parts : ∀ part ∈ v.parts, (ofJson part).toJson.normal = part :=
        fun part mem => ih part mem (ordered.part mem)
      have nodes : ∀ part ∈ v.parts, part.HasKind →
          (Node.ofJson? part).map (fun n => n.toJson.normal) = some part := by
        intro part mem kind
        obtain ⟨n, node⟩ := Node.exists_ofJson?_of_hasKind kind
        have written := parts part mem
        rw [ofJson_of_node node, toJson] at written
        rw [node, Option.map_some, written]
      by_cases nodal : v.Nodal
      · cases nodal with
        | node kind =>
            obtain ⟨fields, kind, rfl, found⟩ := kind
            have node : Node.ofJson? (.obj fields) = some (.mk kind (ofFields fields)) :=
              Node.ofJson?_eq_some_iff.mpr ⟨fields, rfl, Json.kind?_eq_some_iff.mpr found, rfl⟩
            rw [ofJson_of_node node, toJson]
            exact Node.normal_toJson_of_fields (ordered fields (.self _)) found
              fun field mem => parts field.2 (List.mem_map_of_mem mem)
        | array kinds =>
            rw [ofJson_array kinds]
            exact normal_toJson_list fun item mem => nodes item mem (kinds item mem)
        | @object fields kinds =>
            rw [ofJson_object kinds]
            exact normal_toJson_map (ordered fields (.self _)) fun field mem =>
              nodes field.2 (List.mem_map_of_mem mem) (kinds field mem)
      · rw [ofJson_of_not_nodal nodal]
        exact Json.normal_of_ordered ordered

/-! ## Nothing is written twice -/

namespace Node

/-- In what is written of an ordered node without members named `kind`, no name occurs twice. -/
theorem uniqueNames_toJson {n : Node} (ordered : n.Ordered) (canonical : n.Canonical) :
    n.toJson.UniqueNames := by
  induction n using nodes_induction with
  | step n ih =>
      have own := ordered n (.self n)
      have plain := canonical n (.self n)
      have members : ∀ member ∈ n.members, member.2.toJson.UniqueNames := by
        rintro ⟨name, m⟩ mem
        have nodes : ∀ child ∈ m.nodes, child.toJson.UniqueNames := fun child within =>
          ih _ _ mem child within (ordered.child mem within) (canonical.child mem within)
        have inOrder := own.2 name m mem
        cases m with
        | node child => exact nodes child (List.mem_singleton.mpr rfl)
        | list items =>
            rw [Member.toJson, toItems_eq_map]
            exact Json.uniqueNames_arr (List.forall_mem_map.mpr nodes)
        | map entries =>
            rw [Member.toJson, toFields_eq_map]
            refine Json.uniqueNames_obj ?_ (List.forall_mem_map.mpr fun entry mem =>
              nodes entry.2 (List.mem_map_of_mem mem))
            exact Fields.Ascending.nodup
              ((Fields.ascending_map (fun n : Node => n.toJson) entries).mpr inOrder)
        | attr value => exact Json.Ordered.uniqueNames inOrder
      obtain ⟨kind, ms⟩ := n
      let fields : Fields Json := ms.map fun member => (member.1, member.2.toJson)
      have ascending : Fields.Ascending fields :=
        (Fields.ascending_map (fun m : Member => m.toJson) ms).mpr own.1
      have names : "kind" ∉ fields.map Prod.fst := by
        rw [List.map_map]
        intro mem
        obtain ⟨member, hmember, same⟩ := List.mem_map.mp mem
        exact (plain _ _ hmember).1 same
      rw [toJson, Member.toFields_eq_map]
      refine Json.uniqueNames_obj (List.nodup_cons.mpr ⟨names, ascending.nodup⟩) ?_
      exact List.forall_mem_cons.mpr ⟨Json.uniqueNames_str kind, List.forall_mem_map.mpr members⟩

/-- A value is loaded exactly if it is an object with a string under `kind`, whatever lies below,
and what is loaded is written as the value: brought in order the two are the same, and as no name
is written twice, bringing it in order drops nothing. -/
theorem loading_loses_nothing (v : Json) (ordered : v.Ordered) :
    ((∃ n, ofJson v = .ok n) ↔ v.HasKind) ∧
    ∀ n, ofJson v = .ok n → n.toJson.normal = v ∧ n.toJson.UniqueNames := by
  refine ⟨⟨?_, ?_⟩, ?_⟩
  · rintro ⟨n, loaded⟩
    exact hasKind_of_ofJson? (ofJson_eq_ok_iff.mp loaded)
  · intro kind
    obtain ⟨n, node⟩ := exists_ofJson?_of_hasKind kind
    exact ⟨n, ofJson_eq_ok_iff.mpr node⟩
  · intro n loaded
    have node := ofJson_eq_ok_iff.mp loaded
    have written := Member.normal_toJson_ofJson ordered
    rw [Member.ofJson_of_node node, Member.toJson] at written
    exact ⟨written, uniqueNames_toJson (ordered_of_ofJson? ordered node) (canonical_of_ofJson? node)⟩

end Node

/-- A value with a node, a list of nodes, and an object that is no node, since its `kind` is a
number. Fields stand before and after the kind. -/
def sampleValue : Json :=
  .obj [("Attr", .obj [("kind", .num (.int 1))]),
    ("List", .arr [.obj [("kind", .str "A")], .obj [("kind", .str "B")]]),
    ("kind", .str "K"),
    ("next", .obj [("a", .arr []), ("kind", .str "C")])]

theorem ordered_sampleValue : sampleValue.Ordered := by
  have text (s : String) : (Json.str s).Ordered := Json.ordered_scalar rfl nofun
  have ofKind (s : String) : (Json.obj [("kind", .str s)]).Ordered := by
    refine Json.ordered_obj (List.pairwise_singleton _ _) ?_
    exact List.forall_mem_singleton.mpr (text s)
  refine Json.ordered_obj (by unfold Fields.Ascending; decide +kernel) ?_
  simp only [List.forall_mem_cons]
  refine ⟨?_, Json.ordered_arr ?_, text "K", ?_, nofun⟩
  · refine Json.ordered_obj (List.pairwise_singleton _ _) ?_
    exact List.forall_mem_singleton.mpr (Json.ordered_scalar rfl nofun)
  · simp only [List.forall_mem_cons]
    exact ⟨ofKind "A", ofKind "B", nofun⟩
  · refine Json.ordered_obj (by unfold Fields.Ascending; decide +kernel) ?_
    simp only [List.forall_mem_cons]
    exact ⟨Json.ordered_scalar rfl nofun, text "C", nofun⟩

theorem loading_loses_nothing_of_value :
    sampleValue.Ordered ∧ ∃ n, Node.ofJson sampleValue = .ok n ∧
      n.toJson.normal = sampleValue ∧ n.toJson ≠ sampleValue ∧ n.toJson.UniqueNames := by
  have whole := Node.loading_loses_nothing sampleValue ordered_sampleValue
  obtain ⟨n, loaded⟩ := whole.1.mpr ⟨_, "K", rfl, rfl⟩
  obtain ⟨written, unique⟩ := whole.2 n loaded
  refine ⟨ordered_sampleValue, n, loaded, written, ?_, unique⟩
  -- the kind is written first
  obtain ⟨kind, members⟩ := n
  rw [Node.toJson, sampleValue]
  simp

end TreeSearch

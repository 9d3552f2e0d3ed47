import TreeSearch.Proofs.Grammar.Tables
import TreeSearch.Proofs.Walk.Layout
import Mathlib.Data.List.Nodup
import Mathlib.Data.List.Range

/-!
# Following paths

A path is followed from a node segment by segment (`Grammar.resolve`): a segment names a slot that
is declared for the node's kind and one of the nodes in it, and below a polymorphic slot the type of
the node comes first. In a tree in which no keyed slot repeats a key, the segments of the nodes
that a node holds are different from each other (`KindDescriptor.nodup_held`), and a segment leads
to the node that it addresses among them (`KindDescriptor.mem_held_iff`).
-/

namespace TreeSearch

variable {τ : Type}

/-- The slot that a segment goes through. -/
def Segment.slotName? : Segment → Option String
  | .field name | .index name _ | .key name _ => some name
  | .kind _ => none

/-- The node in a slot that a segment addresses. -/
def SlotDescriptor.child? (s : SlotDescriptor) (value : SlotValue τ) (segment : Segment) :
    Option τ :=
  match segment, s.arity, value with
  | .field _, .required, .node child | .field _, .optional, .node child => some child
  | .index _ i, .list, .list items => items[i]?
  | .key _ key, .keyed, .keyed entries => entries.lookup key
  | _, _, _ => none

/-- The nodes in a slot. -/
def SlotValue.nodes : SlotValue τ → List τ
  | .absent | .scalar => []
  | .node child => [child]
  | .list items => items
  | .keyed entries => entries.map Prod.snd

/-- No key occurs twice. -/
def SlotValue.UniqueKeys : SlotValue τ → Prop
  | .keyed entries => (entries.map Prod.fst).Nodup
  | _ => True

variable [SyntaxTree τ]

/-- The node that a segment addresses below a node of the kind, and whether its slot is
polymorphic. -/
def KindDescriptor.child? (d : KindDescriptor) (n : τ) (segment : Segment) : Option (τ × Bool) := do
  let name ← segment.slotName?
  let s ← d.slot? name
  let child ← s.child? (SyntaxTree.slot n name) segment
  return (child, s.polymorphic)

/-- The node that segments lead to from a node, which is held by a polymorphic slot or not. -/
def Grammar.resolve (g : Grammar) : List Segment → τ → Bool → Option τ
  | [], n, _ => some n
  | segment :: rest, n, false => do
    let d ← g.lookup (SyntaxTree.kind n)
    let (child, polymorphic) ← d.child? n segment
    g.resolve rest child polymorphic
  | .kind typeName :: segment :: rest, n, true => do
    let d ← g.lookup (SyntaxTree.kind n)
    if typeName = d.typeName then
      let (child, polymorphic) ← d.child? n segment
      g.resolve rest child polymorphic
    else none
  | _, _, true => none

/-- The nodes of a tree. -/
inductive Within (root : τ) : τ → Prop
  | root : Within root root
  | step {n child} (within : Within root n) (name : String)
      (mem : child ∈ (SyntaxTree.slot n name).nodes) : Within root child

/-- No keyed slot of the tree repeats a key. -/
def UniqueKeys (root : τ) : Prop :=
  ∀ n, Within root n → ∀ name, (SyntaxTree.slot n name).UniqueKeys

theorem Within.trans {a b c : τ} (first : Within a b) (second : Within b c) : Within a c := by
  induction second with
  | root => exact first
  | step _ name mem ih => exact .step ih name mem

theorem UniqueKeys.child {n child : τ} (unique : UniqueKeys n) {name : String}
    (mem : child ∈ (SyntaxTree.slot n name).nodes) : UniqueKeys child :=
  fun m within => unique m ((Within.step .root name mem).trans within)

omit [SyntaxTree τ] in
/-- In a list with different keys, looking up a key finds the one entry with the key. -/
theorem list_lookup_eq_some_iff {entries : List (String × τ)} (nodup : (entries.map Prod.fst).Nodup)
    {key : String} {child : τ} : entries.lookup key = some child ↔ (key, child) ∈ entries := by
  induction entries with
  | nil => simp
  | cons entry rest ih =>
      obtain ⟨other, first⟩ := entry
      rw [List.map_cons, List.nodup_cons] at nodup
      by_cases same : key = other
      · subst same
        have absent : (key, child) ∉ rest := fun h => nodup.1 (List.mem_map.mpr ⟨_, h, rfl⟩)
        simp [absent, eq_comm]
      · rw [List.lookup_cons, beq_false_of_ne same, List.mem_cons]
        simp [same, ih nodup.2]

namespace SlotDescriptor

omit [SyntaxTree τ]

theorem mem_nodes_of_mem_held {s : SlotDescriptor} {value : SlotValue τ} {h : Segment × τ}
    (mem : h ∈ s.held value) : h.2 ∈ value.nodes := by
  unfold held at mem
  split at mem
  · simp_all [SlotValue.nodes]
  · simp_all [SlotValue.nodes]
  · obtain ⟨i, hi, rfl⟩ := List.mem_mapIdx.mp mem
    exact List.getElem_mem hi
  · obtain ⟨entry, hentry, rfl⟩ := List.mem_map.mp mem
    exact List.mem_map_of_mem (List.mem_mergeSort.mp hentry)
  · cases mem

theorem slotName?_of_mem_held {s : SlotDescriptor} {value : SlotValue τ} {h : Segment × τ}
    (mem : h ∈ s.held value) : h.1.slotName? = some s.name := by
  unfold held at mem
  split at mem
  · simp_all [Segment.slotName?]
  · simp_all [Segment.slotName?]
  · obtain ⟨i, hi, rfl⟩ := List.mem_mapIdx.mp mem
    rfl
  · obtain ⟨entry, hentry, rfl⟩ := List.mem_map.mp mem
    rfl
  · cases mem

/-- A slot holds exactly the nodes that segments through it address. -/
theorem mem_held_iff {s : SlotDescriptor} {value : SlotValue τ} (unique : value.UniqueKeys)
    {segment : Segment} {child : τ} :
    (segment, child) ∈ s.held value ↔
      segment.slotName? = some s.name ∧ s.child? value segment = some child := by
  constructor
  · intro mem
    refine ⟨slotName?_of_mem_held mem, ?_⟩
    unfold held at mem
    split at mem
    case h_1 arity | h_2 arity =>
      cases List.mem_singleton.mp mem
      simp only [child?, arity]
    case h_3 items arity =>
      obtain ⟨i, hi, same⟩ := List.mem_mapIdx.mp mem
      cases same
      simp only [child?, arity, List.getElem?_eq_getElem hi]
    case h_4 entries arity =>
      obtain ⟨entry, hentry, same⟩ := List.mem_map.mp mem
      cases same
      simp only [child?, arity]
      exact (list_lookup_eq_some_iff unique).mpr (List.mem_mergeSort.mp hentry)
    case h_5 => cases mem
  · rintro ⟨name, found⟩
    unfold child? at found
    unfold held
    split at found
    case h_1 arity | h_2 arity =>
      cases name
      cases found
      simp only [arity, List.mem_singleton]
    case h_3 i items arity =>
      cases name
      obtain ⟨hi, rfl⟩ := List.getElem?_eq_some_iff.mp found
      simp only [arity]
      exact List.mem_mapIdx.mpr ⟨i, hi, rfl⟩
    case h_4 key entries arity =>
      cases name
      simp only [arity]
      apply List.mem_map.mpr
      exact ⟨(key, child), List.mem_mergeSort.mpr ((list_lookup_eq_some_iff unique).mp found), rfl⟩
    case h_5 => cases found

theorem nodup_held {s : SlotDescriptor} {value : SlotValue τ} (unique : value.UniqueKeys) :
    ((s.held value).map Prod.fst).Nodup := by
  unfold held
  split
  case h_1 | h_2 => simp
  case h_3 items arity =>
    have positions : (items.mapIdx fun i item => (Segment.index s.name i, item)).map Prod.fst =
        (List.range' 0 items.length).map (Segment.index s.name) := by
      rw [List.mapIdx_eq_zipIdx_map, ← List.zipIdx_map_snd, List.map_map, List.map_map]
      rfl
    rw [positions]
    exact List.Nodup.map (fun i j same => (Segment.index.inj same).2) (List.nodup_range' ..)
  case h_4 entries arity =>
    have sorted := ((List.mergeSort_perm entries fun a b => a.1 ≤ b.1).map Prod.fst).nodup_iff
    have keys : (((entries.mergeSort fun a b => a.1 ≤ b.1).map Prod.fst).map
        (Segment.key s.name)).Nodup :=
      (sorted.mpr unique).map fun i j same => (Segment.key.inj same).2
    rw [List.map_map] at keys ⊢
    exact keys
  case h_5 => simp

end SlotDescriptor

namespace KindDescriptor

theorem slot?_eq_some_iff {d : KindDescriptor} (nodup : (d.slots.map SlotDescriptor.name).Nodup)
    {name : String} {s : SlotDescriptor} : d.slot? name = some s ↔ s ∈ d.slots ∧ s.name = name :=
  find?_eq_some_iff_of_nodup nodup

/-- The nodes that the slots of a node hold are those that segments address. -/
theorem mem_held_iff {d : KindDescriptor} (nodup : (d.slots.map SlotDescriptor.name).Nodup) {n : τ}
    (unique : ∀ name, (SyntaxTree.slot n name).UniqueKeys) {segment : Segment} {child : τ}
    {polymorphic : Bool} :
    (segment, child, polymorphic) ∈ d.held n ↔ d.child? n segment = some (child, polymorphic) := by
  simp only [held, List.mem_flatMap, List.mem_map, child?, Option.bind_eq_bind,
    Option.bind_eq_some_iff, slot?_eq_some_iff nodup]
  constructor
  · rintro ⟨s, mem, h, hheld, same⟩
    cases same
    obtain ⟨name, found⟩ := (SlotDescriptor.mem_held_iff (unique s.name)).mp hheld
    exact ⟨s.name, name, s, ⟨mem, rfl⟩, h.2, found, rfl⟩
  · rintro ⟨name, segmentName, s, ⟨mem, rfl⟩, child, found, same⟩
    cases same
    exact ⟨s, mem, (segment, child),
      (SlotDescriptor.mem_held_iff (unique s.name)).mpr ⟨segmentName, found⟩, rfl⟩

/-- Different nodes that the slots of a node hold have different segments. -/
theorem nodup_held {d : KindDescriptor} (nodup : (d.slots.map SlotDescriptor.name).Nodup) {n : τ}
    (unique : ∀ name, (SyntaxTree.slot n name).UniqueKeys) : ((d.held n).map Prod.fst).Nodup := by
  have segments : (d.held n).map Prod.fst =
      d.slots.flatMap fun s => (s.held (SyntaxTree.slot n s.name)).map Prod.fst := by
    simp [held, List.map_flatMap, Function.comp_def]
  rw [segments, List.nodup_flatMap]
  refine ⟨fun s _ => SlotDescriptor.nodup_held (unique s.name), ?_⟩
  apply (List.pairwise_map.mp nodup).imp
  -- a segment names its slot, so slots of different names have no segment in common
  intro s s' different segment mem mem'
  obtain ⟨h, hheld, rfl⟩ := List.mem_map.mp mem
  obtain ⟨h', hheld', same⟩ := List.mem_map.mp mem'
  have name := SlotDescriptor.slotName?_of_mem_held hheld
  rw [← same, SlotDescriptor.slotName?_of_mem_held hheld'] at name
  exact different (Option.some.inj name).symm

theorem uniqueKeys_of_mem_held {d : KindDescriptor} {n : τ} (unique : UniqueKeys n)
    {h : Segment × τ × Bool} (mem : h ∈ d.held n) : UniqueKeys h.2.1 := by
  obtain ⟨s, _, mem⟩ := List.mem_flatMap.mp mem
  obtain ⟨h', hheld, rfl⟩ := List.mem_map.mp mem
  exact unique.child (SlotDescriptor.mem_nodes_of_mem_held hheld)

end KindDescriptor

namespace Grammar

variable (g : Grammar)

theorem nodup_slots_of_lookup {kind : String} {d : KindDescriptor}
    (known : g.lookup kind = some d) : (d.slots.map SlotDescriptor.name).Nodup :=
  g.nodup_slots d (List.mem_of_find?_eq_some known)

/-- The segment that names the type of a node below a polymorphic slot. -/
def kindSegments (d : KindDescriptor) (polymorphic : Bool) : List Segment :=
  if polymorphic then [.kind d.typeName] else []

/-- From a node of kind `d`, segments lead on through one of the nodes that it holds. -/
theorem resolve_step {n : τ} {d : KindDescriptor}
    (known : g.lookup (SyntaxTree.kind n) = some d) (polymorphic : Bool) (segment : Segment)
    (rest : List Segment) :
    g.resolve (kindSegments d polymorphic ++ segment :: rest) n polymorphic =
      (d.child? n segment).bind fun child => g.resolve rest child.1 child.2 := by
  cases polymorphic with
  | false => simp [kindSegments, resolve, known]
  | true => simp [kindSegments, resolve, known]

theorem resolve_of_unknown {n : τ} (unknown : g.lookup (SyntaxTree.kind n) = none)
    (polymorphic : Bool) {segments : List Segment} (nonempty : segments ≠ []) :
    g.resolve segments n polymorphic = none := by
  fun_cases resolve g segments n polymorphic <;> simp_all

/-- Segments that do not begin with the type of the node, where it is due, lead nowhere. -/
theorem resolve_of_ne {n : τ} {d : KindDescriptor} (known : g.lookup (SyntaxTree.kind n) = some d)
    (polymorphic : Bool) {segments : List Segment} (nonempty : segments ≠ [])
    (other : ∀ segment rest, segments ≠ kindSegments d polymorphic ++ segment :: rest) :
    g.resolve segments n polymorphic = none := by
  fun_cases resolve g segments n polymorphic <;> simp_all [kindSegments]

end Grammar

end TreeSearch

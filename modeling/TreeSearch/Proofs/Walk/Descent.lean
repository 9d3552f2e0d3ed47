import TreeSearch.Proofs.Path.Rendering
import TreeSearch.Proofs.Walk.Addresses
import TreeSearch.Proofs.Walk.Schedule
import Mathlib.Logic.Relation

/-!
# Descent and rendered paths

The places below a place are reached from it through declared slots (`Grammar.Reaches`). A walk that
goes on below every node enters the places that are reached from the root
(`Walker.exists_visits`). Where no name, key or type contains a character that ends it too early,
and no key is repeated, the renderings of the segments tell how two places lie to each other: one is
reached from the other exactly if its path goes on from the other's
(`Grammar.reaches_of_prefix`).
-/

namespace TreeSearch

variable {σ τ : Type}

/-- No key contains the bracket that closes it in a path. -/
def SlotValue.PlainKeys : SlotValue τ → Prop
  | .keyed entries => ∀ entry ∈ entries, ']' ∉ entry.1.toList
  | _ => True

/-- The type of the kind does not contain the bracket that closes it in a path, and no slot has a
name with a separator or a bracket. -/
def KindDescriptor.Plain (d : KindDescriptor) : Prop :=
  ')' ∉ d.typeName.toList ∧ ∀ s ∈ d.slots, Segment.PlainName s.name

instance (d : KindDescriptor) : Decidable d.Plain :=
  inferInstanceAs (Decidable (_ ∧ ∀ s ∈ d.slots, Segment.PlainName s.name))

/-- Every kind of the grammar is plain. -/
def Grammar.Plain (g : Grammar) : Prop := ∀ d ∈ g.kinds, d.Plain

instance (g : Grammar) : Decidable g.Plain :=
  inferInstanceAs (Decidable (∀ d ∈ g.kinds, d.Plain))

theorem Grammar.plain_go : Grammar.go.Plain := by decide +kernel

namespace Segment

/-- The name of a slot is read from the rendering of a segment through it. -/
theorem takeWhile_render {s : Segment} {name : String} (plain : PlainName name)
    (slot : s.slotName? = some name) : s.render.toList.takeWhile isNameChar = name.toList := by
  cases s with
  | field _ =>
      cases slot
      exact List.takeWhile_eq_self_iff.mpr plain.isNameChar
  | index _ _ | key _ _ =>
      cases slot
      simp only [render, String.toList_append, List.append_assoc]
      exact plain.takeWhile_append (by rintro c ⟨⟩; rfl)
  | kind _ => cases slot

theorem slotName_eq_of_render_eq {s s' : Segment} {name name' : String} (plain : PlainName name)
    (plain' : PlainName name') (slot : s.slotName? = some name) (slot' : s'.slotName? = some name')
    (same : s.render = s'.render) : name = name' := by
  apply String.toList_inj.mp
  rw [← takeWhile_render plain slot, same, takeWhile_render plain' slot']

end Segment

namespace SlotDescriptor

/-- The segments through a slot are plain if its name and its keys are. -/
theorem plain_of_mem_held {s : SlotDescriptor} (name : Segment.PlainName s.name)
    {value : SlotValue τ} (keys : value.PlainKeys) {h : Segment × τ} (mem : h ∈ s.held value) :
    h.1.Plain := by
  unfold held at mem
  split at mem
  case h_1 | h_2 =>
    cases List.mem_singleton.mp mem
    exact name
  case h_3 =>
    obtain ⟨i, hi, rfl⟩ := List.mem_mapIdx.mp mem
    exact name
  case h_4 =>
    obtain ⟨entry, hentry, rfl⟩ := List.mem_map.mp mem
    exact ⟨name, keys entry (List.mem_mergeSort.mp hentry)⟩
  case h_5 => cases mem

/-- Segments through one slot are of one form, so they differ in their renderings. -/
theorem segment_eq_of_render_eq {s : SlotDescriptor} {value : SlotValue τ}
    {segment segment' : Segment} {child child' : τ} (mem : (segment, child) ∈ s.held value)
    (mem' : (segment', child') ∈ s.held value) (same : segment.render = segment'.render) :
    segment = segment' := by
  unfold held at mem mem'
  split at mem
  case h_1 child arity | h_2 child arity =>
    simp only [arity, List.mem_singleton] at mem'
    cases List.mem_singleton.mp mem
    cases mem'
    rfl
  case h_3 items arity =>
    simp only [arity] at mem'
    obtain ⟨i, _, found⟩ := List.mem_mapIdx.mp mem
    obtain ⟨j, _, found'⟩ := List.mem_mapIdx.mp mem'
    cases found
    cases found'
    rw [Segment.render_index_injective s.name same]
  case h_4 entries arity =>
    simp only [arity] at mem'
    obtain ⟨entry, -, found⟩ := List.mem_map.mp mem
    obtain ⟨entry', -, found'⟩ := List.mem_map.mp mem'
    cases found
    cases found'
    rw [Segment.render_key_injective s.name same]
  case h_5 => cases mem

end SlotDescriptor

variable [SyntaxTree τ]

/-- No key of the tree contains the bracket that closes it in a path. -/
def PlainKeys (root : τ) : Prop :=
  ∀ n, Within root n → ∀ name, (SyntaxTree.slot n name).PlainKeys

namespace KindDescriptor

variable {d : KindDescriptor} {n : τ}

/-- What a node holds is held by one of its slots. -/
theorem exists_slot_of_mem_held {h : Segment × τ × Bool} (mem : h ∈ d.held n) :
    ∃ s ∈ d.slots, (h.1, h.2.1) ∈ s.held (SyntaxTree.slot n s.name) := by
  obtain ⟨s, slot, inside⟩ := List.mem_flatMap.mp mem
  obtain ⟨held, within, rfl⟩ := List.mem_map.mp inside
  exact ⟨s, slot, within⟩

theorem plain_of_mem_held (names : ∀ s ∈ d.slots, Segment.PlainName s.name)
    (keys : ∀ name, (SyntaxTree.slot n name).PlainKeys) {h : Segment × τ × Bool}
    (mem : h ∈ d.held n) : h.1.Plain := by
  obtain ⟨s, slot, within⟩ := exists_slot_of_mem_held mem
  exact SlotDescriptor.plain_of_mem_held (names s slot) (keys s.name) within

/-- What the slots of a node hold is told apart by the renderings of the segments. -/
theorem held_eq_of_render_eq (nodup : (d.slots.map SlotDescriptor.name).Nodup)
    (names : ∀ s ∈ d.slots, Segment.PlainName s.name)
    (unique : ∀ name, (SyntaxTree.slot n name).UniqueKeys) {h h' : Segment × τ × Bool}
    (mem : h ∈ d.held n) (mem' : h' ∈ d.held n) (same : h.1.render = h'.1.render) : h = h' := by
  apply List.inj_on_of_nodup_map (nodup_held nodup unique) mem mem'
  obtain ⟨s, slot, within⟩ := exists_slot_of_mem_held mem
  obtain ⟨s', slot', within'⟩ := exists_slot_of_mem_held mem'
  have name : s.name = s'.name :=
    Segment.slotName_eq_of_render_eq (names s slot) (names s' slot')
      (SlotDescriptor.slotName?_of_mem_held within) (SlotDescriptor.slotName?_of_mem_held within')
      same
  cases List.inj_on_of_nodup_map nodup slot slot' name
  exact SlotDescriptor.segment_eq_of_render_eq within within' same

end KindDescriptor

namespace Grammar

variable {g : Grammar}

theorem within_of_mem_below {x y : Place τ} (mem : y ∈ g.below x) : Within x.node y.node := by
  obtain ⟨d, -, h, held, rfl⟩ := exists_held_of_mem_below mem
  obtain ⟨s, -, within⟩ := KindDescriptor.exists_slot_of_mem_held held
  exact .step .root s.name (SlotDescriptor.mem_nodes_of_mem_held within)

variable (g)

/-- The second place is reached from the first through declared slots. -/
def Reaches : Place τ → Place τ → Prop := Relation.ReflTransGen fun x y => y ∈ g.below x

/-- The second place is below the first, directly or further down. -/
def Descends : Place τ → Place τ → Prop := Relation.TransGen fun x y => y ∈ g.below x

variable {g}

theorem Reaches.eq_or_descends {x y : Place τ} (reaches : g.Reaches x y) :
    y = x ∨ g.Descends x y :=
  Relation.reflTransGen_iff_eq_or_transGen.mp reaches

/-- The path of a place below goes on from the path of the place. -/
theorem Descends.path {x y : Place τ} (descends : g.Descends x y) :
    ∃ tail, tail ≠ [] ∧ y.path = x.path.extend tail := by
  induction descends with
  | single mem =>
      obtain ⟨d, segment, -, path⟩ := path_of_mem_below mem
      exact ⟨_, List.append_ne_nil_of_right_ne_nil _ (List.cons_ne_nil _ _), path⟩
  | tail _ mem ih =>
      obtain ⟨tail, nonempty, before⟩ := ih
      obtain ⟨d, segment, -, path⟩ := path_of_mem_below mem
      rw [before, ← Path.extend_append] at path
      exact ⟨_, List.append_ne_nil_of_left_ne_nil nonempty _, path⟩

theorem Reaches.path {x y : Place τ} (reaches : g.Reaches x y) :
    ∃ tail, y.path = x.path.extend tail := by
  rcases reaches.eq_or_descends with rfl | descends
  · exact ⟨[], rfl⟩
  · obtain ⟨tail, -, path⟩ := descends.path
    exact ⟨tail, path⟩

theorem plain_of_mem_below (plain : g.Plain) {x y : Place τ} (keys : PlainKeys x.node)
    (segments : ∀ s ∈ x.path.segments, s.Plain) (mem : y ∈ g.below x) :
    ∀ s ∈ y.path.segments, s.Plain := by
  obtain ⟨d, known, h, held, rfl⟩ := exists_held_of_mem_below mem
  obtain ⟨typeName, names⟩ := plain d (List.mem_of_find?_eq_some known)
  have kind : ∀ s ∈ kindSegments d x.polymorphic, s.Plain := by
    intro s mem
    unfold kindSegments at mem
    split at mem
    · rw [List.mem_singleton.mp mem]
      exact typeName
    · cases mem
  have slot : h.1.Plain := KindDescriptor.plain_of_mem_held names (keys x.node .root) held
  rw [Place.path_child, Path.segments_extend]
  simp only [List.forall_mem_append, List.forall_mem_singleton]
  exact ⟨segments, kind, slot⟩

/-- Every segment on the way to a place is plain. -/
theorem Reaches.plain (plain : g.Plain) {x y : Place τ} (reaches : g.Reaches x y)
    (keys : PlainKeys x.node) (segments : ∀ s ∈ x.path.segments, s.Plain) :
    ∀ s ∈ y.path.segments, s.Plain := by
  induction reaches using Relation.ReflTransGen.head_induction_on with
  | refl => exact segments
  | head mem _ ih =>
      apply ih
      · exact fun m within => keys m ((within_of_mem_below mem).trans within)
      · exact plain_of_mem_below plain keys segments mem

/-- Of two places that are reached from one place, the second is reached from the first if its path
is rendered as one that goes on from the path of the first. -/
theorem reaches_of_prefix (plain : g.Plain) {x y z : Place τ} (unique : UniqueKeys x.node)
    (toY : g.Reaches x y) (toZ : g.Reaches x z)
    (rendered : y.path.segments.map Segment.render <+: z.path.segments.map Segment.render) :
    g.Reaches y z := by
  induction toY using Relation.ReflTransGen.head_induction_on with
  | refl => exact toZ
  | @head x x₁ mem toY ih =>
      obtain ⟨tail, pathY⟩ := Reaches.path toY
      obtain ⟨d, known, h, held, rfl⟩ := exists_held_of_mem_below mem
      rcases Relation.ReflTransGen.cases_head toZ with rfl | ⟨x₂, mem₂, toZ⟩
      · -- the path of `y` is longer than the path of `x`
        have longer := rendered.length_le
        rw [pathY, Place.path_child, Path.segments_extend, Path.segments_extend] at longer
        simp at longer
      · obtain ⟨tail', pathZ⟩ := Reaches.path toZ
        obtain ⟨d', known', h', held', rfl⟩ := exists_held_of_mem_below mem₂
        cases known.symm.trans known'
        have same : h.1.render = h'.1.render := by
          rw [pathY, pathZ, Place.path_child, Place.path_child] at rendered
          simp only [Path.segments_extend, List.map_append, List.append_assoc,
            List.prefix_append_right_inj, List.singleton_append, List.map_cons,
            List.cons_prefix_cons] at rendered
          exact rendered.1
        have names := (plain d (List.mem_of_find?_eq_some known)).2
        cases KindDescriptor.held_eq_of_render_eq (g.nodup_slots_of_lookup known) names
          (unique x.node .root) held held' same
        exact ih (unique.of_mem_below mem) toZ

theorem mem_below_iff {x y : Place τ} : y ∈ g.below x ↔ ∃ i j, g.Holds x i j y := by
  constructor
  · intro mem
    obtain ⟨d, known, h, held, rfl⟩ := exists_held_of_mem_below mem
    obtain ⟨s, slot, inside⟩ := List.mem_flatMap.mp held
    obtain ⟨item, within, rfl⟩ := List.mem_map.mp inside
    obtain ⟨i, numbered⟩ := List.mem_iff_getElem?.mp slot
    obtain ⟨j, found⟩ := List.mem_iff_getElem?.mp within
    exact ⟨i, j, .intro known numbered found⟩
  · rintro ⟨i, j, known, slot, found⟩
    rw [below_of_lookup known]
    apply List.mem_map_of_mem
    refine List.mem_flatMap.mpr ⟨_, List.mem_of_getElem? slot, ?_⟩
    exact List.mem_map_of_mem (List.mem_of_getElem? found)

end Grammar

namespace Walker

variable (w : Walker) {v : Visitor σ τ}

/-- The entries in the schedule of a place are those of the places that are reached from it. -/
theorem exists_scheduled_iff {x y : Place τ} (depth : Nat) :
    (∃ m, w.Scheduled x depth m (.enter y)) ↔ w.grammar.Reaches x y := by
  constructor
  · rintro ⟨m, scheduled⟩
    generalize same : Stop.enter y = stop at scheduled
    induction scheduled with
    | enter => cases same; exact .refl
    | tooDeep | unknownKind | slot => cases same
    | inside held _ ih => exact .head (Grammar.mem_below_iff.mpr ⟨_, _, held⟩) (ih same)
  · intro reaches
    induction reaches using Relation.ReflTransGen.head_induction_on generalizing depth with
    | refl => exact ⟨[], .enter y depth⟩
    | head mem _ ih =>
        obtain ⟨i, j, held⟩ := Grammar.mem_below_iff.mp mem
        obtain ⟨m, scheduled⟩ := ih (depth + 1)
        exact ⟨i :: j :: m, .inside held scheduled⟩

/-- A walk without fault that goes on below every node enters the places that are reached from the
root, and no others. -/
theorem exists_visits (descends : ∀ s n p, (v.enter s n p).2 = .descend) (s : σ) (root : τ)
    (ok : (w.walk v s root).result = .ok ()) :
    ∃ visits : List (Place τ),
      entered (w.log v s root).2 = visits.map (fun x => (x.node, x.path)) ∧
      ∀ x, x ∈ visits ↔ w.grammar.Reaches (.root root) x := by
  have keeps : w.Keeps v s [(Place.root root).visit 0] (w.Scheduled (.root root) 0) :=
    keeps_visit descends (.root root) 0 s
  have none := keeps.ok ok
  obtain ⟨visits, -, mem, told⟩ := keeps.enters
  refine ⟨visits.map Prod.fst, by rw [List.map_map]; exact told, fun x => ?_⟩
  rw [← w.exists_scheduled_iff 0, List.mem_map]
  constructor
  · rintro ⟨⟨y, m⟩, visit, rfl⟩
    exact ⟨m, ((mem y m).mp visit).1⟩
  · rintro ⟨m, scheduled⟩
    exact ⟨(x, m), (mem x m).mpr ⟨scheduled, fun m' e fault => absurd fault (none m' e)⟩, rfl⟩

end Walker

end TreeSearch

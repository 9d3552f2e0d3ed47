import TreeSearch.Proofs.Walk.Descent
import TreeSearch.Proofs.Walk.Lineage
import TreeSearch.Proofs.Walk.Simulation

/-!
# Types are annotations of paths

The types that paths name below polymorphic slots take no part in a walk. Grammars that declare the
same slots with the same arities (`Grammar.SameLayout`), whatever types and polymorphic slots they
have, give walks in step, with paths that differ only in the types (`Walker.inStep_of_sameLayout`).
Where the types stand is told by the ancestors of a node: each one in a polymorphic slot has its
type named directly behind the segment of the slot, and nothing else is named
(`Grammar.NamesTypes`).
-/

namespace TreeSearch

variable {σ τ : Type}

/-- Whether the segment names a type. -/
def Segment.isKind : Segment → Bool
  | .kind _ => true
  | _ => false

theorem Segment.isKind_eq_false {s : Segment} {name : String} (slot : s.slotName? = some name) :
    s.isKind = false := by
  cases s with
  | field | index | key => rfl
  | kind => cases slot

/-- The path without the types that it names. -/
def Path.withoutKinds (p : Path) : Path := .ofSegments (p.segments.filter fun s => !s.isKind)

theorem Path.withoutKinds_append (p : Path) (s : Segment) :
    (p.append s).withoutKinds = if s.isKind then p.withoutKinds else p.withoutKinds.append s := by
  rw [withoutKinds, segments_append, List.filter_append, ofSegments_append]
  cases kind : s.isKind with
  | false =>
      simp only [List.filter_cons, kind]
      rfl
  | true =>
      simp only [List.filter_cons, kind]
      rfl

theorem withoutKinds_basePath (d : KindDescriptor) (p : Path) (polymorphic : Bool) :
    (basePath d p polymorphic).withoutKinds = p.withoutKinds := by
  cases polymorphic with
  | false => rfl
  | true => exact p.withoutKinds_append (.kind d.typeName)

/-- The names and arities of the slots. -/
def KindDescriptor.outline (d : KindDescriptor) : List (String × Arity) :=
  d.slots.map fun s => (s.name, s.arity)

/-- The grammars describe the same kinds, with slots of the same names and arities in the same
order. -/
def Grammar.SameLayout (g g' : Grammar) : Prop :=
  ∀ kind, (g.lookup kind).map KindDescriptor.outline = (g'.lookup kind).map KindDescriptor.outline

variable [SyntaxTree τ]

/-- The places are of one node, at paths that differ only in the types that they name. -/
def Place.SameButKinds (x y : Place τ) : Prop :=
  x.node = y.node ∧ x.path.withoutKinds = y.path.withoutKinds

/-- The errors are the same up to the types that their paths name. -/
def WalkError.SameButKinds (e e' : WalkError) : Prop :=
  e.mapPath Path.withoutKinds = e'.mapPath Path.withoutKinds

/-- Slots of one name and arity, of nodes of one kind, correspond. -/
theorem slotsMatch_of_outline {x y : Place τ} (places : x.SameButKinds y) {d d' : KindDescriptor}
    (kinds : d.kind = d'.kind) {s s' : SlotDescriptor}
    (same : (s.name, s.arity) = (s'.name, s'.arity)) :
    SlotsMatch Place.SameButKinds WalkError.SameButKinds x y d d' s s' := by
  obtain ⟨n, p, b⟩ := x
  obtain ⟨_, q, c⟩ := y
  obtain ⟨rfl, paths⟩ := places
  obtain ⟨name, arity, polymorphic⟩ := s
  obtain ⟨_, _, polymorphic'⟩ := s'
  cases same
  have bases : (basePath d p b).withoutKinds = (basePath d' q c).withoutKinds := by
    rw [withoutKinds_basePath, withoutKinds_basePath]
    exact paths
  refine ⟨rfl, rfl, ?_, ?_⟩
  · rw [WalkError.SameButKinds, slotFault, slotFault, kinds]
    split
    · simp only [WalkError.mapPath, bases]
    · simp only [WalkError.mapPath, Path.withoutKinds_append, bases]
  · refine List.forall₂_same.mpr fun h _ => ⟨rfl, ?_⟩
    simp only [Place.child, Path.withoutKinds_append, bases]

namespace Walker

/-- Walks by grammars of one layout are in step. -/
theorem inStep_of_sameLayout {w w' : Walker} (layout : w.grammar.SameLayout w'.grammar)
    (depths : w.maxDepth = w'.maxDepth) :
    w.InStep w' (Place.SameButKinds (τ := τ)) WalkError.SameButKinds 0 where
  maxDepth := depths
  tooDeep := by
    rintro x y ⟨-, paths⟩
    simp only [WalkError.SameButKinds, WalkError.mapPath, depths, paths]
  expand := by
    intro x y depth places
    have outlines := layout (SyntaxTree.kind x.node)
    cases known : w.grammar.lookup (SyntaxTree.kind x.node) with
    | none =>
        rw [known, Option.map_none, eq_comm, Option.map_eq_none_iff] at outlines
        apply expand_matches_of_unknown known (places.1 ▸ outlines)
        simp only [WalkError.SameButKinds, WalkError.mapPath, places.1, places.2]
    | some d =>
        rw [known, Option.map_some, eq_comm, Option.map_eq_some_iff] at outlines
        obtain ⟨d', known', outline⟩ := outlines
        have kinds : d.kind = d'.kind :=
          (Grammar.kind_of_lookup known).trans (Grammar.kind_of_lookup known').symm
        apply expand_matches known (places.1 ▸ known')
        have slots : List.Forall₂ Eq d.outline d'.outline := outline ▸ List.forall₂_refl _
        rw [KindDescriptor.outline, KindDescriptor.outline, List.forall₂_map_left_iff,
          List.forall₂_map_right_iff] at slots
        exact slots.imp fun s s' same => slotsMatch_of_outline places kinds same

end Walker

namespace Grammar

/-- The segment of the slot that holds the node, and behind it the type of the node if the slot is
polymorphic. -/
def annotated (g : Grammar) (x : Place τ) : List Segment :=
  x.path.last?.toList ++
    match g.lookup (SyntaxTree.kind x.node) with
    | some d => kindSegments d x.polymorphic
    | none => []

/-- The path of a node with the given ancestors has the segments of the slots that hold them, with a
type directly behind those of polymorphic slots, and no other types. -/
structure NamesTypes (g : Grammar) (ancestors : List (Place τ)) (p : Path) : Prop where
  segments : p.segments = ancestors.flatMap g.annotated ++ p.last?.toList
  directly : ∀ x ∈ ancestors, x.polymorphic → ∃ segment d,
    segment.isKind = false ∧ g.lookup (SyntaxTree.kind x.node) = some d ∧
      x.path.last? = some segment ∧ g.annotated x = [segment, .kind d.typeName]
  count : p.segments.countP Segment.isKind = ancestors.countP Place.polymorphic

variable {g : Grammar}

/-- The path of a place directly below another one goes on with the segment of a slot. -/
theorem exists_slot_of_mem_below {x y : Place τ} (mem : y ∈ g.below x) :
    ∃ d segment, g.lookup (SyntaxTree.kind x.node) = some d ∧ segment.isKind = false ∧
      y.path.last? = some segment ∧
      y.path.segments = x.path.segments ++ kindSegments d x.polymorphic ++ [segment] := by
  obtain ⟨d, known, h, held, rfl⟩ := exists_held_of_mem_below mem
  obtain ⟨s, -, within⟩ := KindDescriptor.exists_slot_of_mem_held held
  have slot := Segment.isKind_eq_false (SlotDescriptor.slotName?_of_mem_held within)
  refine ⟨d, h.1, known, slot, rfl, ?_⟩
  rw [Place.path_child, Path.segments_extend, List.append_assoc]

namespace Lineage

variable {x y : Place τ} {ancestors : List (Place τ)} {earlier : List (Event τ)}

theorem segments_eq (lineage : g.Lineage x ancestors y earlier) (front : List Segment)
    (start : x.path.segments = front ++ x.path.last?.toList) :
    y.path.segments = front ++ ancestors.flatMap g.annotated ++ y.path.last?.toList := by
  induction lineage generalizing front with
  | start x => simpa using start
  | @under x y z ancestors earlier held done rest ih =>
      obtain ⟨d, segment, known, -, last, segments⟩ := exists_slot_of_mem_below held
      rw [ih (front ++ g.annotated x)]
      · simp
      · simp [segments, last, start, annotated, known]

/-- An ancestor is the start of the lineage, or a slot holds it. -/
theorem known_of_mem (lineage : g.Lineage x ancestors y earlier) {z : Place τ}
    (mem : z ∈ ancestors) :
    (z = x ∨ ∃ segment, segment.isKind = false ∧ z.path.last? = some segment) ∧
      ∃ d, g.lookup (SyntaxTree.kind z.node) = some d := by
  induction lineage with
  | start x => cases mem
  | under held done rest ih =>
      obtain ⟨d, segment, known, slot, last, -⟩ := exists_slot_of_mem_below held
      rcases List.mem_cons.mp mem with rfl | mem
      · exact ⟨.inl rfl, d, known⟩
      · obtain ⟨rfl | behind, described⟩ := ih mem
        · exact ⟨.inr ⟨segment, slot, last⟩, described⟩
        · exact ⟨.inr behind, described⟩

theorem countP_segments (lineage : g.Lineage x ancestors y earlier) :
    y.path.segments.countP Segment.isKind =
      x.path.segments.countP Segment.isKind + ancestors.countP Place.polymorphic := by
  induction lineage with
  | start x => simp
  | @under x y z ancestors earlier held done rest ih =>
      obtain ⟨d, segment, -, slot, -, segments⟩ := exists_slot_of_mem_below held
      have slots : [segment].countP Segment.isKind = 0 := by simp [slot]
      have kinds : (kindSegments d x.polymorphic).countP Segment.isKind =
          [x].countP Place.polymorphic := by
        cases flag : x.polymorphic <;> simp [kindSegments, Segment.isKind, flag]
      have all : (x :: ancestors).countP Place.polymorphic =
          [x].countP Place.polymorphic + ancestors.countP Place.polymorphic := by
        rw [← List.countP_append, List.singleton_append]
      rw [ih, segments, List.countP_append, List.countP_append, slots, kinds, all]
      omega

/-- In a walk from the root, paths name types of the ancestors in polymorphic slots. -/
theorem namesTypes {root : τ} (lineage : g.Lineage (.root root) ancestors y earlier) :
    g.NamesTypes ancestors y.path where
  segments := by
    have segments := lineage.segments_eq [] rfl
    rwa [List.nil_append] at segments
  directly := by
    intro x mem polymorphic
    obtain ⟨rfl | ⟨segment, slot, last⟩, d, known⟩ := lineage.known_of_mem mem
    · cases polymorphic
    · refine ⟨segment, d, slot, known, last, ?_⟩
      simp [annotated, known, last, kindSegments, polymorphic]
  count := by
    rw [lineage.countP_segments]
    simp [Place.root]

end Lineage

end Grammar

/-- Types are annotations of paths. Walks by two grammars of one layout, with a visitor that does
not decide by paths, tell of the same nodes in the same order, at paths that differ only in the
types, and end alike. In every walk, the path of a node names types exactly of those ancestors that
a polymorphic slot holds, directly behind the segments of these slots. -/
theorem Walker.types_are_annotations (w w' : Walker)
    (layout : w.grammar.SameLayout w'.grammar) (depths : w.maxDepth = w'.maxDepth)
    (v : Visitor σ τ) (s : σ) (choose : List (Event τ) → Event τ → Decision)
    (blind : v.DecidesFrom s (Event.map id fun _ => .empty) choose) (root : τ) :
    (w.log v s root).2.map (Event.map id Path.withoutKinds) =
      (w'.log v s root).2.map (Event.map id Path.withoutKinds) ∧
    EndsAlike WalkError.SameButKinds (w.walk v s root).result (w'.walk v s root).result ∧
    ∀ (u : Walker) (earlier : List (Event τ)) (n : τ) (p : Path) (later : List (Event τ)),
      (u.log v s root).2 = earlier ++ .enter n p :: later →
      ∃ ancestors b, u.grammar.Lineage (.root root) ancestors ⟨n, p, b⟩ earlier ∧
        u.grammar.NamesTypes ancestors p := by
  have same : Event.map id (fun _ => Path.empty) =
      Event.map id (fun _ => Path.empty) ∘ Event.map (id : τ → τ) Path.withoutKinds := by
    ext event
    cases event <;> rfl
  have decides := (same ▸ blind).comp
  have enters : ∀ {x y : Place τ}, x.SameButKinds y →
      Event.map id Path.withoutKinds (.enter x.node x.path) =
        Event.map id Path.withoutKinds (.enter y.node y.path) := by
    rintro x y ⟨nodes, paths⟩
    simp only [Event.map, nodes, paths]
  obtain ⟨views, ends⟩ := (inStep_of_sameLayout layout depths).logs decides decides enters rfl
    (x := .root root) (y := .root root) ⟨rfl, rfl⟩ 0
  refine ⟨views, ends, ?_⟩
  intro u earlier n p later told
  obtain ⟨ancestors, y, rfl, rfl, lineage, -⟩ := exists_lineage u v (.root root) 0 s told
  exact ⟨ancestors, y.polymorphic, lineage, lineage.namesTypes⟩

/-- The kind without a type and with no slot polymorphic. -/
def KindDescriptor.unannotated (d : KindDescriptor) : KindDescriptor :=
  { d with typeName := "", slots := d.slots.map fun s => { s with polymorphic := false } }

/-- The grammar without types and polymorphic slots. -/
def Grammar.unannotated (g : Grammar) : Grammar where
  kinds := g.kinds.map KindDescriptor.unannotated
  nodup_kinds := by
    rw [List.map_map]
    exact g.nodup_kinds
  nodup_slots := by
    intro d mem
    obtain ⟨d', mem', rfl⟩ := List.mem_map.mp mem
    rw [KindDescriptor.unannotated, List.map_map]
    exact g.nodup_slots d' mem'

theorem Grammar.sameLayout_unannotated (g : Grammar) : g.SameLayout g.unannotated := by
  intro kind
  have outline : KindDescriptor.outline ∘ KindDescriptor.unannotated = KindDescriptor.outline := by
    ext1 d
    simp [KindDescriptor.outline, KindDescriptor.unannotated]
  calc (g.lookup kind).map KindDescriptor.outline
      _ = (g.lookup kind).map (KindDescriptor.outline ∘ KindDescriptor.unannotated) := by
        rw [outline]
      _ = ((g.lookup kind).map KindDescriptor.unannotated).map KindDescriptor.outline :=
        (Option.map_map _ _ _).symm
      _ = (g.unannotated.lookup kind).map KindDescriptor.outline := by
        rw [lookup, lookup, unannotated, List.find?_map]
        rfl

/-- Goes on below parentheses. -/
def belowParens : Event Node → Decision
  | .enter n _ => if n.kind = "ParenExpr" then .descend else .skip
  | .exit => .skip

/-- The visitor that goes on below parentheses. -/
def Visitor.intoParens : Visitor Unit Node := ⟨fun s n p => (s, belowParens (.enter n p)), id⟩

/-- Two parentheses around an expression without its operand. -/
def twiceParen : Node :=
  (Node.ofKind "ParenExpr").withNode "X"
    ((Node.ofKind "ParenExpr").withNode "X" (Node.ofKind "StarExpr"))

theorem types_are_annotations_of_paren :
    Grammar.go.SameLayout Grammar.go.unannotated ∧
    (entered ((⟨Grammar.go, 2⟩ : Walker).log .intoParens () twiceParen).2).map
        (fun e => e.2.render ".") = ["", "X", "X.(*ast.ParenExpr).X"] ∧
    (entered ((⟨Grammar.go.unannotated, 2⟩ : Walker).log .intoParens () twiceParen).2).map
        (fun e => e.2.render ".") = ["", "X", "X.X"] ∧
    ((⟨Grammar.go, 2⟩ : Walker).log .intoParens () twiceParen).2.map
        (Event.map id Path.withoutKinds) =
      ((⟨Grammar.go.unannotated, 2⟩ : Walker).log .intoParens () twiceParen).2.map
        (Event.map id Path.withoutKinds) ∧
    EndsAlike WalkError.SameButKinds
      ((⟨Grammar.go, 2⟩ : Walker).walk .intoParens () twiceParen).result
      ((⟨Grammar.go.unannotated, 2⟩ : Walker).walk .intoParens () twiceParen).result ∧
    ∀ earlier n p later, ((⟨Grammar.go, 2⟩ : Walker).log .intoParens () twiceParen).2 =
        earlier ++ .enter n p :: later →
      ∃ ancestors b, Grammar.go.Lineage (.root twiceParen) ancestors ⟨n, p, b⟩ earlier ∧
        Grammar.go.NamesTypes ancestors p := by
  obtain ⟨views, ends, names⟩ := Walker.types_are_annotations ⟨Grammar.go, 2⟩
    ⟨Grammar.go.unannotated, 2⟩ Grammar.go.sameLayout_unannotated rfl .intoParens ()
    (fun _ => belowParens) (fun _ _ _ => rfl) twiceParen
  exact ⟨Grammar.go.sameLayout_unannotated, by cbv, by cbv, views, ends, names ⟨Grammar.go, 2⟩⟩

end TreeSearch

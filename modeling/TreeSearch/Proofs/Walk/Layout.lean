import TreeSearch.Proofs.Walk.Runs
import Mathlib.Data.List.Basic

/-!
# What the slots of a node hold

The nodes that a declared slot holds are addressed by segments (`SlotDescriptor.held`), and the
nodes held by all slots of a node, in visiting order, are the places directly below it
(`Grammar.below`). Where every slot has a shape that its arity admits, the tasks below a node are
the visits of these places (`Walker.expand_of_conforms`); otherwise there is a fault among them.
-/

namespace TreeSearch

variable {τ : Type}

/-- The shapes that a slot of the arity may have. -/
def Arity.admitted : Arity → List Shape
  | .required => [.node]
  | .optional => [.absent, .node]
  | .list => [.absent, .list]
  | .keyed => [.absent, .keyed]

namespace SlotDescriptor

/-- What the slot holds has a shape that its arity admits. -/
def Fits (s : SlotDescriptor) (value : SlotValue τ) : Prop := value.shape ∈ s.arity.admitted

instance (s : SlotDescriptor) (value : SlotValue τ) : Decidable (s.Fits value) :=
  inferInstanceAs (Decidable (value.shape ∈ s.arity.admitted))

/-- The nodes that the slot holds, in visiting order, with the segments that address them. A slot
of a shape that its arity does not admit holds none. -/
def held (s : SlotDescriptor) (value : SlotValue τ) : List (Segment × τ) :=
  match s.arity, value with
  | .required, .node child | .optional, .node child => [(.field s.name, child)]
  | .list, .list items => items.mapIdx fun i item => (.index s.name i, item)
  | .keyed, .keyed entries =>
    (entries.mergeSort fun a b => a.1 ≤ b.1).map fun (key, item) => (.key s.name key, item)
  | _, _ => []

/-- An admitted shape: nothing in a slot that is not required, or what the arity asks for. -/
theorem Fits.cases {s : SlotDescriptor} {value : SlotValue τ} (fits : s.Fits value) :
    (s.arity ≠ .required ∧ value = .absent) ∨
      ((s.arity = .required ∨ s.arity = .optional) ∧ ∃ child, value = .node child) ∨
      (s.arity = .list ∧ ∃ items, value = .list items) ∨
      (s.arity = .keyed ∧ ∃ entries, value = .keyed entries) := by
  unfold Fits at fits
  cases arity : s.arity <;> cases value <;> simp_all [Arity.admitted, SlotValue.shape]

theorem held_of_not_fits {s : SlotDescriptor} {value : SlotValue τ} (unfit : ¬ s.Fits value) :
    s.held value = [] := by
  unfold Fits at unfit
  unfold held
  cases arity : s.arity <;> cases value <;> simp_all [Arity.admitted, SlotValue.shape]

end SlotDescriptor

/-- The fault of a slot of a node of kind `d` that has a shape its arity does not admit. -/
def slotFault (d : KindDescriptor) (s : SlotDescriptor) (value : SlotValue τ) (base : Path) :
    WalkError :=
  if value.shape = .absent then .missingSlot d.kind s.name base
  else .malformedSlot d.kind s.name s.arity value.shape (base.append (.field s.name))

theorem slotTasks_of_fits {d : KindDescriptor} {s : SlotDescriptor} {value : SlotValue τ}
    (fits : s.Fits value) (base : Path) (depth : Nat) :
    slotTasks d s value base depth =
      (s.held value).map fun h => .visit h.2 (base.append h.1) s.polymorphic depth := by
  rcases fits.cases with ⟨arity, rfl⟩ | ⟨arity | arity, child, rfl⟩ | ⟨arity, items, rfl⟩ |
    ⟨arity, entries, rfl⟩
  · cases h : s.arity <;> simp_all [slotTasks, SlotDescriptor.held]
  · simp only [slotTasks, SlotDescriptor.held, arity]
    rfl
  · simp only [slotTasks, SlotDescriptor.held, arity]
    rfl
  · simp only [slotTasks, SlotDescriptor.held, arity, List.mapIdx_eq_iff]
    intro i
    simp only [List.getElem?_map, List.getElem?_mapIdx, Option.map_map]
    rfl
  · simp only [slotTasks, SlotDescriptor.held, arity, List.map_map]
    rfl

theorem slotTasks_of_not_fits {d : KindDescriptor} {s : SlotDescriptor} {value : SlotValue τ}
    (unfit : ¬ s.Fits value) (base : Path) (depth : Nat) :
    slotTasks d s value base depth = [.fault (slotFault d s value base)] := by
  unfold SlotDescriptor.Fits at unfit
  unfold slotTasks slotFault
  cases ha : s.arity <;> cases value <;> simp_all [Arity.admitted, SlotValue.shape] <;> rfl

/-- The root of a tree, which no slot holds. -/
def Place.root (n : τ) : Place τ := ⟨n, .empty, false⟩

variable [SyntaxTree τ]

/-- The nodes that the slots of a node of the kind hold, in visiting order, with the segments that
address them and whether their slots are polymorphic. -/
def KindDescriptor.held (d : KindDescriptor) (n : τ) : List (Segment × τ × Bool) :=
  d.slots.flatMap fun s =>
    (s.held (SyntaxTree.slot n s.name)).map fun h => (h.1, h.2, s.polymorphic)

/-- The place below `x` of a node that a slot of `x` holds, where `x` is of kind `d`. -/
def Place.child (x : Place τ) (d : KindDescriptor) (h : Segment × τ × Bool) : Place τ :=
  ⟨h.2.1, (basePath d x.path x.polymorphic).append h.1, h.2.2⟩

namespace Grammar

/-- The places directly below a place: the nodes that its declared slots hold, in visiting order. -/
def below (g : Grammar) (x : Place τ) : List (Place τ) :=
  match g.lookup (SyntaxTree.kind x.node) with
  | none => []
  | some d => (d.held x.node).map (x.child d)

theorem below_of_lookup {g : Grammar} {x : Place τ} {d : KindDescriptor}
    (known : g.lookup (SyntaxTree.kind x.node) = some d) :
    g.below x = (d.held x.node).map (x.child d) := by
  simp only [below, known]

theorem below_of_unknown {g : Grammar} {x : Place τ}
    (unknown : g.lookup (SyntaxTree.kind x.node) = none) : g.below x = [] := by
  simp only [below, unknown]

/-- A place directly below another one is held by the node there, which is of a known kind. -/
theorem exists_held_of_mem_below {g : Grammar} {x y : Place τ} (mem : y ∈ g.below x) :
    ∃ d, g.lookup (SyntaxTree.kind x.node) = some d ∧ ∃ h ∈ d.held x.node, y = x.child d h := by
  cases known : g.lookup (SyntaxTree.kind x.node) with
  | none => rw [below_of_unknown known] at mem; cases mem
  | some d =>
      rw [below_of_lookup known] at mem
      obtain ⟨h, held, rfl⟩ := List.mem_map.mp mem
      exact ⟨d, rfl, h, held, rfl⟩

/-- The node is of a known kind, and every slot declared for it has a shape that is admitted. -/
def Conforms (g : Grammar) (n : τ) : Prop :=
  ∃ d, g.lookup (SyntaxTree.kind n) = some d ∧ ∀ s ∈ d.slots, s.Fits (SyntaxTree.slot n s.name)

/-- The faults of the node itself. -/
def NodeFault (g : Grammar) (x : Place τ) (e : WalkError) : Prop :=
  match g.lookup (SyntaxTree.kind x.node) with
  | none => e = .unknownKind (SyntaxTree.kind x.node) x.path
  | some d => ∃ s ∈ d.slots, ¬ s.Fits (SyntaxTree.slot x.node s.name) ∧
      e = slotFault d s (SyntaxTree.slot x.node s.name) (basePath d x.path x.polymorphic)

end Grammar

namespace Walker

variable (w : Walker)

theorem expand_of_conforms {x : Place τ} (conforms : w.grammar.Conforms x.node) (depth : Nat) :
    w.expand x.node x.path x.polymorphic depth =
      (w.grammar.below x).map fun y => y.visit (depth + 1) := by
  obtain ⟨d, known, fits⟩ := conforms
  simp only [expand, Grammar.below_of_lookup known, known, KindDescriptor.held, List.map_flatMap]
  apply List.flatMap_congr
  intro s hs
  rw [slotTasks_of_fits (fits s hs), List.map_map, List.map_map]
  rfl

/-- The tasks below a node are visits of the places below it and faults of the node itself. -/
theorem mem_expand {x : Place τ} {depth : Nat} {task : Task τ}
    (mem : task ∈ w.expand x.node x.path x.polymorphic depth) :
    (∃ y ∈ w.grammar.below x, task = y.visit (depth + 1)) ∨
      ∃ e, task = .fault e ∧ w.grammar.NodeFault x e := by
  cases known : w.grammar.lookup (SyntaxTree.kind x.node) with
  | none =>
      simp only [expand, known, List.mem_singleton] at mem
      exact .inr ⟨_, mem, by simp [Grammar.NodeFault, known]⟩
  | some d =>
      simp only [expand, known, List.mem_flatMap] at mem
      obtain ⟨s, hs, mem⟩ := mem
      by_cases fits : s.Fits (SyntaxTree.slot x.node s.name)
      · rw [slotTasks_of_fits fits, List.mem_map] at mem
        obtain ⟨h, hh, rfl⟩ := mem
        refine .inl ⟨x.child d (h.1, h.2, s.polymorphic), ?_, rfl⟩
        rw [Grammar.below_of_lookup known]
        apply List.mem_map_of_mem
        exact List.mem_flatMap.mpr ⟨s, hs, List.mem_map.mpr ⟨h, hh, rfl⟩⟩
      · rw [slotTasks_of_not_fits fits, List.mem_singleton] at mem
        refine .inr ⟨_, mem, ?_⟩
        simp only [Grammar.NodeFault, known]
        exact ⟨s, hs, fits, rfl⟩

/-- Among the tasks below a node that does not conform there is a fault. -/
theorem exists_fault_mem_expand {x : Place τ} (nonconforming : ¬ w.grammar.Conforms x.node)
    (depth : Nat) : ∃ e, Task.fault e ∈ w.expand x.node x.path x.polymorphic depth := by
  cases known : w.grammar.lookup (SyntaxTree.kind x.node) with
  | none => exact ⟨_, by simp only [expand, known, List.mem_singleton]; rfl⟩
  | some d =>
      have unfit : ∃ s ∈ d.slots, ¬ s.Fits (SyntaxTree.slot x.node s.name) := by
        by_contra h
        push Not at h
        exact nonconforming ⟨d, known, h⟩
      obtain ⟨s, hs, unfit⟩ := unfit
      refine ⟨slotFault d s (SyntaxTree.slot x.node s.name) (basePath d x.path x.polymorphic), ?_⟩
      simp only [expand, known, List.mem_flatMap]
      exact ⟨s, hs, by rw [slotTasks_of_not_fits unfit]; exact List.mem_singleton_self _⟩

theorem conforms_of_run_ok {σ : Type} {v : Visitor σ τ} {s : σ} {x : Place τ} {depth : Nat}
    (ok : (w.run v s (w.expand x.node x.path x.polymorphic depth)).result = .ok ()) :
    w.grammar.Conforms x.node := by
  by_contra nonconforming
  obtain ⟨e, mem⟩ := exists_fault_mem_expand w nonconforming depth
  obtain ⟨s', ok⟩ := run_ok_of_mem w v ok mem
  simp at ok

end Walker

end TreeSearch

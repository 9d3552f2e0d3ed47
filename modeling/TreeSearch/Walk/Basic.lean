import TreeSearch.Grammar.Basic
import TreeSearch.Path
import TreeSearch.Tree.Basic

/-!
# Walks

A walk visits the nodes of a tree in the order of the slots that a grammar declares. It keeps an
agenda of tasks: nodes to visit, visited nodes to leave, and faults. To visit a node puts the tasks
for its slots in front of the agenda, in visiting order and with every fault of the node in its
place, so the walk fails with the first fault it comes to. The visitor has a state, is told of every
node that is entered and left, and decides whether the walk goes on below a node.

Nodes are counted by depth, and every visit lies within a depth limit. `Walker.effort` bounds the
tasks that a visit can lead to within the limit, which is why a walk of any type of tree ends.
-/

namespace TreeSearch

/-- Whether a walk goes on below a node. -/
inductive Decision where
  | descend
  | skip
deriving DecidableEq, Repr

/-- Why a walk fails, with the path of the place. -/
inductive WalkError where
  | unknownKind (kind : String) (path : Path)
  | missingSlot (kind slot : String) (path : Path)
  | malformedSlot (kind slot : String) (expected : Arity) (found : Shape) (path : Path)
  | depthExceeded (maxDepth : Nat) (path : Path)
deriving Repr

namespace WalkError

/-- The path of the place where the walk failed. -/
def path : WalkError → Path
  | .unknownKind _ path | .missingSlot _ _ path | .malformedSlot _ _ _ _ path
  | .depthExceeded _ path => path

/-- How a place is named in messages. -/
def place (p : Path) : String :=
  if p.isEmpty then "the root" else "`" ++ p.render Path.defaultSeparator ++ "`"

/-- The wording of an error. -/
def message : WalkError → String
  | .unknownKind kind path => "unexpected node kind `" ++ kind ++ "` at " ++ place path
  | .missingSlot kind slot path =>
    kind ++ " is missing required field `" ++ slot ++ "` at " ++ place path
  | .malformedSlot kind slot expected found path =>
    kind ++ "." ++ slot ++ " holds a " ++ found.name ++ " where a " ++ expected.name ++
      " is declared, at " ++ place path
  | .depthExceeded maxDepth path =>
    "tree is deeper than the maximum depth of " ++ maxDepth.repr ++ ", at " ++ place path

end WalkError

/-- What is told of the nodes of a walk. `enter` is given each node with its path and answers
whether the walk goes on below it; `exit` follows when the walk is through with the node. -/
structure Visitor (σ τ : Type) where
  enter : σ → τ → Path → σ × Decision
  exit : σ → σ

/-- A visitor that is told only of the nodes entered, and answers whether the walk goes on below. -/
def Visitor.inspector {σ τ : Type} (inspect : σ → τ → Path → σ × Bool) : Visitor σ τ where
  enter s n p :=
    let (s, descends) := inspect s n p
    (s, if descends then .descend else .skip)
  exit s := s

/-- A grammar to walk by, and the greatest depth of a node below the root of a walk. -/
structure Walker where
  grammar : Grammar
  maxDepth : Nat := 4096

/-- A task on the agenda of a walk. -/
inductive Task (τ : Type) where
  | visit (node : τ) (path : Path) (polymorphic : Bool) (depth : Nat)
  | leave
  | fault (error : WalkError)

/-- The final state of the visitor, and how the walk ended. -/
structure Outcome (σ : Type) where
  state : σ
  result : Except WalkError Unit

section Tasks

variable {τ : Type}

/-- The tasks for a slot of a node of kind `d`, whose slots have paths that extend `base`. -/
def slotTasks (d : KindDescriptor) (s : SlotDescriptor) (value : SlotValue τ) (base : Path)
    (depth : Nat) : List (Task τ) :=
  match s.arity, value with
  | .required, .node child | .optional, .node child =>
    [.visit child (base.appendField s.name) s.polymorphic depth]
  | .optional, .absent | .list, .absent | .keyed, .absent => []
  | .required, .absent => [.fault (.missingSlot d.kind s.name base)]
  | .list, .list items =>
    items.mapIdx fun i item => .visit item (base.appendIndexed s.name i) s.polymorphic depth
  | .keyed, .keyed entries =>
    (entries.mergeSort fun a b => a.1 ≤ b.1).map fun (key, item) =>
      .visit item (base.appendKeyed s.name key) s.polymorphic depth
  | expected, found =>
    [.fault (.malformedSlot d.kind s.name expected found.shape (base.appendField s.name))]

theorem depth_of_mem_slotTasks {d : KindDescriptor} {s : SlotDescriptor} {value : SlotValue τ}
    {base : Path} {depth : Nat} {node : τ} {path : Path} {polymorphic : Bool} {depth' : Nat}
    (h : Task.visit node path polymorphic depth' ∈ slotTasks d s value base depth) :
    depth' = depth := by
  unfold slotTasks at h
  split at h <;> simp [List.mem_mapIdx] at h <;> grind

/-- The path that the slots of a node extend: below a polymorphic slot it names the node's type. -/
def basePath (d : KindDescriptor) (path : Path) (polymorphic : Bool) : Path :=
  if polymorphic then path.appendKind d.typeName else path

/-- The effort for a task, given the effort for each visit. -/
def Task.effort (visiting : τ → Path → Bool → Nat → Nat) : Task τ → Nat
  | .visit node path polymorphic depth => visiting node path polymorphic depth
  | .leave | .fault _ => 1

/-- The effort for tasks taken together, given the effort for each visit. -/
def Task.totalEffort (visiting : τ → Path → Bool → Nat → Nat) (tasks : List (Task τ)) : Nat :=
  @List.sum Nat _ Zero.ofOfNat0 (tasks.map (effort visiting))

theorem Task.totalEffort_cons (visiting : τ → Path → Bool → Nat → Nat) (task : Task τ)
    (rest : List (Task τ)) :
    totalEffort visiting (task :: rest) = task.effort visiting + totalEffort visiting rest := by
  simp only [totalEffort, List.map_cons, List.sum_cons]

theorem Task.totalEffort_append (visiting : τ → Path → Bool → Nat → Nat)
    (first second : List (Task τ)) :
    totalEffort visiting (first ++ second) =
      totalEffort visiting first + totalEffort visiting second := by
  simp only [totalEffort, List.map_append, List.sum_append]

variable [SyntaxTree τ]

/-- The tasks below a node that has been entered. -/
def Walker.expand (w : Walker) (node : τ) (path : Path) (polymorphic : Bool) (depth : Nat) :
    List (Task τ) :=
  match w.grammar.lookup (SyntaxTree.kind node) with
  | none => [.fault (.unknownKind (SyntaxTree.kind node) path)]
  | some d =>
    d.slots.flatMap fun s =>
      slotTasks d s (SyntaxTree.slot node s.name) (basePath d path polymorphic) (depth + 1)

/-- More than the number of tasks that a visit leads to within the given number of levels. -/
def Walker.effort (w : Walker) : Nat → τ → Path → Bool → Nat → Nat
  | 0, _, _, _, _ => 1
  | levels + 1, node, path, polymorphic, depth =>
    Task.totalEffort (w.effort levels) (w.expand node path polymorphic depth) + 2

/-- More than the number of tasks that an agenda leads to. -/
def Walker.agendaEffort (w : Walker) (agenda : List (Task τ)) : Nat :=
  Task.totalEffort (fun node path polymorphic depth =>
    w.effort (w.maxDepth + 1 - depth) node path polymorphic depth) agenda

theorem effort_pos (w : Walker) (levels : Nat) (node : τ) (path : Path) (polymorphic : Bool)
    (depth : Nat) : 0 < w.effort levels node path polymorphic depth := by
  cases levels <;> simp [Walker.effort]

theorem depth_of_mem_expand {w : Walker} {n : τ} {p : Path} {b : Bool} {depth : Nat}
    {node : τ} {path : Path} {polymorphic : Bool} {depth' : Nat}
    (h : Task.visit node path polymorphic depth' ∈ w.expand n p b depth) : depth' = depth + 1 := by
  unfold Walker.expand at h
  split at h
  · simp at h
  · obtain ⟨s, _, hs⟩ := List.mem_flatMap.mp h
    exact depth_of_mem_slotTasks hs

/-- The tasks below a node take less effort than the visit of the node. -/
theorem agendaEffort_expand_lt (w : Walker) (node : τ) (path : Path) (polymorphic : Bool)
    (depth : Nat) (h : depth ≤ w.maxDepth) :
    w.agendaEffort (w.expand node path polymorphic depth) + 1 <
      w.effort (w.maxDepth + 1 - depth) node path polymorphic depth := by
  obtain ⟨levels, hl⟩ : ∃ levels, w.maxDepth + 1 - depth = levels + 1 :=
    ⟨w.maxDepth - depth, by omega⟩
  have same : w.agendaEffort (w.expand node path polymorphic depth) =
      Task.totalEffort (w.effort levels) (w.expand node path polymorphic depth) := by
    refine congrArg List.sum (List.map_congr_left ?_)
    intro task ht
    cases task with
    | visit node' path' polymorphic' depth' =>
      have := depth_of_mem_expand ht
      have : w.maxDepth + 1 - depth' = levels := by omega
      simp [Task.effort, this]
    | leave => rfl
    | fault _ => rfl
  rw [hl, Walker.effort, same]
  omega

end Tasks

namespace Walker

variable {σ τ : Type} [SyntaxTree τ]

/-- Works off an agenda. -/
def run (w : Walker) (v : Visitor σ τ) (s : σ) (agenda : List (Task τ)) : Outcome σ :=
  match agenda with
  | [] => ⟨s, .ok ()⟩
  | .leave :: rest => w.run v (v.exit s) rest
  | .fault error :: _ => ⟨s, .error error⟩
  | .visit node path polymorphic depth :: rest =>
    if w.maxDepth < depth then ⟨s, .error (.depthExceeded w.maxDepth path)⟩
    else
      match v.enter s node path with
      | (s, .skip) => w.run v (v.exit s) rest
      | (s, .descend) => w.run v s (w.expand node path polymorphic depth ++ .leave :: rest)
termination_by w.agendaEffort agenda
decreasing_by
  · simp [agendaEffort, Task.totalEffort_cons, Task.effort]
  · have := effort_pos w (w.maxDepth + 1 - depth) node path polymorphic depth
    simp only [agendaEffort, Task.totalEffort_cons, Task.effort]
    omega
  · have := agendaEffort_expand_lt w node path polymorphic depth (by omega)
    simp only [agendaEffort, Task.totalEffort_cons, Task.totalEffort_append,
      Task.effort] at this ⊢
    omega

/-- Walks the tree below a node that has the given path. `polymorphic` tells whether the node is
held by a polymorphic slot. Depth counts from the node. -/
def walkFrom (w : Walker) (v : Visitor σ τ) (s : σ) (node : τ) (path : Path) (polymorphic : Bool) :
    Outcome σ :=
  w.run v s [.visit node path polymorphic 0]

/-- Walks a tree from its root. No slot holds the root, so its type does not occur in paths. -/
def walk (w : Walker) (v : Visitor σ τ) (s : σ) (root : τ) : Outcome σ :=
  w.walkFrom v s root .empty false

end Walker

end TreeSearch

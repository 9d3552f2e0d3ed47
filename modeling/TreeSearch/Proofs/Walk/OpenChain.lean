import TreeSearch.Proofs.Walk.VisitTree

/-!
# What a failed walk leaves open

A walk that fails has entered some nodes without leaving them. They are a chain from the root down
in which each node is held by a declared slot of the one before, and all other visits are complete
(`LeftOpen`). The error is about the last node of the chain (`Walker.Concerns`). Both hold for every
visitor, whatever it decides: the walk stops at one task (`Walker.exists_failing_task`), the tasks
before it are visits without fault, and the task itself is a fault of the node or a visit that fails
one level further down.
-/

namespace TreeSearch

variable {σ τ α : Type}

/-- `LeftOpen chain log`: the nodes of the chain are entered and not left, each below the one
before, and all other visits of the log are complete. -/
inductive LeftOpen : List (Place τ) → List (Event τ) → Prop
  | last (x : Place τ) (done : List (VisitTree τ)) :
      LeftOpen [x] (.enter x.node x.path :: VisitTree.eventsAll done)
  | cons (x : Place τ) (done : List (VisitTree τ)) {chain log} (rest : LeftOpen chain log) :
      LeftOpen (x :: chain) (.enter x.node x.path :: (VisitTree.eventsAll done ++ log))

/-- The stack machine is left with the nodes of the chain, the last one on top. -/
theorem LeftOpen.run_stackMachine {chain : List (Place τ)} {log : List (Event τ)}
    (leftOpen : LeftOpen chain log) (f : τ → List α → α) (m : StackMachine τ α) :
    ∃ stack, StackMachine.run f m log = some ⟨stack, m.result⟩ ∧
      stack.map Prod.fst = (chain.map Place.node).reverse ++ m.stack.map Prod.fst := by
  induction leftOpen generalizing m with
  | last x done =>
      rw [StackMachine.run_enter_cons, StackMachine.run_eventsAll_below]
      exact ⟨_, rfl, by simp⟩
  | cons x done rest ih =>
      rw [StackMachine.run_enter_cons, StackMachine.run_append, StackMachine.run_eventsAll_below,
        Option.bind_some]
      obtain ⟨stack, ran, nodes⟩ :=
        ih ⟨(x.node, [] ++ VisitTree.foldAll f done) :: m.stack, m.result⟩
      exact ⟨stack, ran, by simp [nodes]⟩

variable [SyntaxTree τ]

theorem Grammar.kind_of_lookup {g : Grammar} {kind : String} {d : KindDescriptor}
    (known : g.lookup kind = some d) : d.kind = kind := by
  simpa using List.find?_some known

namespace Walker

/-- The error is about the node at a place of the given depth: its kind is unknown, a required slot
of it is absent, a declared slot of it has a shape that is not admitted, or the node is at the depth
limit and holds another one. -/
def Concerns (w : Walker) (x : Place τ) (depth : Nat) : WalkError → Prop
  | .unknownKind kind path =>
    kind = SyntaxTree.kind x.node ∧ w.grammar.lookup kind = none ∧ path = x.path
  | .missingSlot kind slot path =>
    ∃ d s, w.grammar.lookup (SyntaxTree.kind x.node) = some d ∧ s ∈ d.slots ∧
      kind = SyntaxTree.kind x.node ∧ slot = s.name ∧ s.arity = .required ∧
      SyntaxTree.slot x.node slot = .absent ∧ path = basePath d x.path x.polymorphic
  | .malformedSlot kind slot expected found path =>
    ∃ d s, w.grammar.lookup (SyntaxTree.kind x.node) = some d ∧ s ∈ d.slots ∧
      kind = SyntaxTree.kind x.node ∧ slot = s.name ∧ expected = s.arity ∧
      found = (SyntaxTree.slot x.node slot).shape ∧ found ∉ expected.admitted ∧ found ≠ .absent ∧
      path = (basePath d x.path x.polymorphic).append (.field slot)
  | .depthExceeded maxDepth path =>
    maxDepth = w.maxDepth ∧ depth = w.maxDepth ∧
      ∃ d h, w.grammar.lookup (SyntaxTree.kind x.node) = some d ∧ h ∈ d.held x.node ∧
        path = (basePath d x.path x.polymorphic).append h.1

variable (w : Walker) (v : Visitor σ τ)

theorem concerns_of_nodeFault {x : Place τ} {e : WalkError} (fault : w.grammar.NodeFault x e)
    (depth : Nat) : w.Concerns x depth e := by
  cases known : w.grammar.lookup (SyntaxTree.kind x.node) with
  | none =>
      simp only [Grammar.NodeFault, known] at fault
      subst fault
      exact ⟨rfl, known, rfl⟩
  | some d =>
      simp only [Grammar.NodeFault, known] at fault
      obtain ⟨s, mem, unfit, rfl⟩ := fault
      have kind := Grammar.kind_of_lookup known
      unfold SlotDescriptor.Fits at unfit
      by_cases shape : (SyntaxTree.slot x.node s.name).shape = .absent
      · rw [slotFault, if_pos shape]
        have absent : SyntaxTree.slot x.node s.name = .absent := by
          cases value : SyntaxTree.slot x.node s.name <;> rw [value] at shape <;> cases shape
        have required : s.arity = .required := by
          rw [shape] at unfit
          cases arity : s.arity <;> simp [arity, Arity.admitted] at unfit
          rfl
        exact ⟨d, s, known, mem, kind, rfl, required, absent, rfl⟩
      · rw [slotFault, if_neg shape]
        exact ⟨d, s, known, mem, kind, rfl, rfl, rfl, unfit, shape, rfl⟩

/-- A run that fails does so at one of its tasks, and the tasks before it are worked off without
fault. -/
theorem exists_failing_task {s : σ} {agenda : List (Task τ)} {e : WalkError}
    (error : (w.run v s agenda).result = .error e) :
    ∃ before task after, agenda = before ++ task :: after ∧
      (w.run v s before).result = .ok () ∧
      (w.run v (w.run v s before).state [task]).result = .error e ∧
      w.events v s agenda =
        w.events v s before ++ w.events v (w.run v s before).state [task] := by
  induction agenda generalizing s with
  | nil => simp at error
  | cons task rest ih =>
      rw [run_cons, Outcome.andThen_error_iff] at error
      rcases error with here | ⟨ok, later⟩
      · refine ⟨[], task, rest, rfl, by rw [run_nil], by rw [run_nil]; exact here, ?_⟩
        rw [events_nil, run_nil, List.nil_append]
        exact events_append_of_error w v here rest
      · obtain ⟨before, other, after, rfl, okBefore, error, told⟩ := ih later
        have state : (w.run v s (task :: before)).state =
            (w.run v (w.run v s [task]).state before).state := by
          rw [run_cons, Outcome.andThen_of_ok ok]
        refine ⟨task :: before, other, after, rfl, ?_, ?_, ?_⟩
        · rw [run_cons, Outcome.andThen_of_ok ok, okBefore]
        · rw [state, error]
        · rw [state, events_cons_of_ok w v ok, told, events_cons_of_ok w v ok before,
            List.append_assoc]

/-- Visits without fault, one after the other, are complete. -/
theorem exists_eventsAll {depth : Nat} {tasks : List (Task τ)}
    (visits : ∀ task ∈ tasks, (∃ y : Place τ, task = y.visit depth) ∨ ∃ e, task = .fault e)
    (s : σ) (ok : (w.run v s tasks).result = .ok ()) :
    ∃ done, w.events v s tasks = VisitTree.eventsAll done := by
  induction tasks generalizing s with
  | nil => exact ⟨[], events_nil w v s⟩
  | cons task rest ih =>
      rw [run_cons, Outcome.andThen_ok_iff] at ok
      rcases visits task List.mem_cons_self with ⟨y, rfl⟩ | ⟨e, rfl⟩
      · obtain ⟨t, -, told⟩ := exists_visited w v y depth s ok.1
        obtain ⟨done, toldRest⟩ :=
          ih (fun other mem => visits other (List.mem_cons_of_mem _ mem)) _ ok.2
        refine ⟨t :: done, ?_⟩
        rw [events_cons_of_ok w v ok.1, told, toldRest, VisitTree.eventsAll]
      · rw [run_fault_cons] at ok
        cases ok.1

/-- Tasks below a node that are worked off without fault are complete visits. -/
theorem exists_eventsAll_of_expand {x : Place τ} {depth : Nat} {before after : List (Task τ)}
    (tasks : w.expand x.node x.path x.polymorphic depth = before ++ after) (s : σ)
    (ok : (w.run v s before).result = .ok ()) :
    ∃ done, w.events v s before = VisitTree.eventsAll done := by
  have visits : ∀ task ∈ before,
      (∃ y : Place τ, task = y.visit (depth + 1)) ∨ ∃ e, task = .fault e := by
    intro task mem
    rcases mem_expand w (tasks ▸ List.mem_append_left _ mem) with ⟨y, -, same⟩ | ⟨e, same, -⟩
    · exact .inl ⟨y, same⟩
    · exact .inr ⟨e, same⟩
  exact exists_eventsAll w v visits s ok

/-- What fails below a node is the node itself or one of the visits of the places below it, and the
visits before it are complete. -/
theorem exists_failure_below {x : Place τ} {depth : Nat} {s : σ} {e : WalkError}
    (error : (w.run v s (w.expand x.node x.path x.polymorphic depth)).result = .error e) :
    ∃ done,
      w.grammar.NodeFault x e ∧
        w.events v s (w.expand x.node x.path x.polymorphic depth) = VisitTree.eventsAll done ∨
      ∃ y ∈ w.grammar.below x, ∃ s', (w.run v s' [y.visit (depth + 1)]).result = .error e ∧
        w.events v s (w.expand x.node x.path x.polymorphic depth) =
          VisitTree.eventsAll done ++ w.events v s' [y.visit (depth + 1)] := by
  obtain ⟨before, task, after, tasks, ok, failed, told⟩ := exists_failing_task w v error
  obtain ⟨done, complete⟩ := exists_eventsAll_of_expand w v tasks s ok
  rw [told, complete]
  refine ⟨done, ?_⟩
  have mem : task ∈ w.expand x.node x.path x.polymorphic depth := by rw [tasks]; simp
  rcases mem_expand w mem with ⟨y, below, rfl⟩ | ⟨e', rfl, fault⟩
  · exact .inr ⟨y, below, _, failed, rfl⟩
  · rw [run_fault_cons] at failed
    cases failed
    exact .inl ⟨fault, by rw [events_fault, List.append_nil]⟩

/-- A place below a node at the depth limit is too deep. -/
theorem concerns_of_mem_below {x y : Place τ} (below : y ∈ w.grammar.below x) :
    w.Concerns x w.maxDepth (.depthExceeded w.maxDepth y.path) := by
  obtain ⟨d, known, h, held, rfl⟩ := Grammar.exists_held_of_mem_below below
  exact ⟨rfl, rfl, d, h, known, held, rfl⟩

/-- A visit within the depth limit that fails leaves a chain open from its place down. -/
theorem exists_leftOpen (x : Place τ) (depth : Nat) (s : σ) {e : WalkError}
    (within : depth ≤ w.maxDepth) (error : (w.run v s [x.visit depth]).result = .error e) :
    ∃ rest, (x :: rest).IsChain (fun above y => y ∈ w.grammar.below above) ∧
      LeftOpen (x :: rest) (w.events v s [x.visit depth]) ∧
      w.Concerns ((x :: rest).getLast (List.cons_ne_nil x rest)) (depth + rest.length) e := by
  induction depth using w.depth_induction generalizing x s with
  | deep depth deep => omega
  | step depth shallow ih =>
      unfold Place.visit at error ⊢
      rcases enter : v.enter s x.node x.path with ⟨next, decision⟩
      cases decision with
      | skip =>
          rw [run_visit_skip w v _ shallow enter] at error
          cases error
      | descend =>
          rw [run_visit_descend w v _ shallow enter, Outcome.andThen_error_iff] at error
          rcases error with error | ⟨-, error⟩
          · rw [events_visit_descend w v _ shallow enter, error, List.append_nil]
            obtain ⟨done, ⟨fault, told⟩ | ⟨y, below, s', failed, told⟩⟩ :=
              exists_failure_below w v error
            · rw [told]
              exact ⟨[], .singleton x, .last x done, concerns_of_nodeFault w fault _⟩
            · rw [told]
              by_cases deep : w.maxDepth < depth + 1
              · -- the place below is never entered, so the chain ends here
                obtain rfl : depth = w.maxDepth := by omega
                rw [Place.visit, run_visit_deep w v _ _ _ _ deep] at failed
                cases failed
                rw [Place.visit, events_visit_deep w v _ _ _ _ deep, List.append_nil]
                exact ⟨[], .singleton x, .last x done, concerns_of_mem_below w below⟩
              · obtain ⟨rest, chain, leftOpen, concerns⟩ := ih y s' (by omega) failed
                refine ⟨y :: rest, List.isChain_cons_cons.mpr ⟨below, chain⟩,
                  .cons x done leftOpen, ?_⟩
                rw [List.getLast_cons_cons, List.length_cons, ← Nat.add_assoc, Nat.add_right_comm]
                exact concerns
          · cases error

/-- A walk that fails leaves a chain of nodes open from the root down, in which each node is held by
a declared slot of the one before. All other visits are complete, and the error is about the last
node of the chain. The stack machine, which is told only of the events, ends with this chain. -/
theorem failed_walk_leaves_chain_open (s : σ) (root : τ) (e : WalkError)
    (failed : (w.walk v s root).result = .error e) :
    ∃ rest : List (Place τ),
      (.root root :: rest).IsChain (fun above y => y ∈ w.grammar.below above) ∧
      LeftOpen (.root root :: rest) (w.log v s root).2 ∧
      (∀ (α : Type) (f : τ → List α → α),
        (StackMachine.run f ⟨[], none⟩ (w.log v s root).2).map (fun m => m.stack.map Prod.fst) =
          some ((.root root :: rest).map Place.node).reverse) ∧
      w.Concerns ((.root root :: rest).getLast (List.cons_ne_nil _ rest)) rest.length e := by
  obtain ⟨rest, chain, leftOpen, concerns⟩ :=
    exists_leftOpen w v (.root root) 0 s (Nat.zero_le _) failed
  refine ⟨rest, chain, leftOpen, ?_, by rwa [Nat.zero_add] at concerns⟩
  intro α f
  obtain ⟨stack, ran, nodes⟩ := leftOpen.run_stackMachine f ⟨[], none⟩
  change Option.map _ (StackMachine.run f ⟨[], none⟩ (w.events v s [(Place.root root).visit 0])) = _
  rw [ran, Option.map_some, nodes, List.map_nil, List.append_nil]

end Walker

/-- An expression in parentheses whose inner expression has no operand. -/
def brokenParen : Node := (Node.ofKind "ParenExpr").withNode "X" (Node.ofKind "StarExpr")

theorem failed_walk_leaves_chain_open_of_paren :
    ((⟨Grammar.go, 4096⟩ : Walker).walk .firstTwo 0 brokenParen).result =
      .error (.missingSlot "StarExpr" "X" (.ofSegments [.field "X", .kind "*ast.StarExpr"])) ∧
    ∃ rest : List (Place Node),
      (.root brokenParen :: rest).IsChain (fun above y => y ∈ Grammar.go.below above) ∧
      LeftOpen (.root brokenParen :: rest)
        ((⟨Grammar.go, 4096⟩ : Walker).log .firstTwo 0 brokenParen).2 ∧
      (∀ (α : Type) (f : Node → List α → α),
        (StackMachine.run f ⟨[], none⟩
            ((⟨Grammar.go, 4096⟩ : Walker).log .firstTwo 0 brokenParen).2).map
          (fun m => m.stack.map Prod.fst) =
        some ((.root brokenParen :: rest).map Place.node).reverse) ∧
      (⟨Grammar.go, 4096⟩ : Walker).Concerns
        ((.root brokenParen :: rest).getLast (List.cons_ne_nil _ rest)) rest.length
        (.missingSlot "StarExpr" "X" (.ofSegments [.field "X", .kind "*ast.StarExpr"])) := by
  have failed : ((⟨Grammar.go, 4096⟩ : Walker).walk .firstTwo 0 brokenParen).result =
      .error (.missingSlot "StarExpr" "X"
        (.ofSegments [.field "X", .kind "*ast.StarExpr"])) := by
    cbv
  exact ⟨failed, Walker.failed_walk_leaves_chain_open _ _ _ _ _ failed⟩

end TreeSearch

import TreeSearch.Proofs.Walk.VisitTree

/-!
# Walks and conformance

A visitor that decides by the node and its path alone reaches the same places in every walk
(`Reached`). The walk succeeds exactly if every place reached lies within the depth limit and every
node that the visitor goes on below conforms to the grammar. What a failed walk reports is a fault
of a place reached: the visitor never hears of what is wrong with a node it skips, or below it.
-/

namespace TreeSearch

variable {σ τ : Type}

namespace Visitor

/-- The visitor goes on below a node exactly if the predicate holds of the node and its path. -/
def DecidedBy (v : Visitor σ τ) (descends : τ → Path → Bool) : Prop :=
  ∀ s node path, (v.enter s node path).2 = if descends node path then .descend else .skip

theorem inspector_decidedBy (descends : τ → Path → Bool) (update : σ → τ → Path → σ) :
    (Visitor.inspector fun s node path => (update s node path, descends node path)).DecidedBy
      descends :=
  fun _ _ _ => rfl

variable {v : Visitor σ τ} {descends : τ → Path → Bool}

theorem DecidedBy.enter_descend (decided : v.DecidedBy descends) {node : τ} {path : Path}
    (h : descends node path = true) (s : σ) :
    v.enter s node path = ((v.enter s node path).1, .descend) :=
  Prod.ext rfl (by rw [decided s node path, if_pos h])

theorem DecidedBy.enter_skip (decided : v.DecidedBy descends) {node : τ} {path : Path}
    (h : ¬ descends node path = true) (s : σ) :
    v.enter s node path = ((v.enter s node path).1, .skip) :=
  Prod.ext rfl (by rw [decided s node path, if_neg h])

end Visitor

variable [SyntaxTree τ]

/-- The places that are reached from a start through declared slots of nodes that the predicate
goes on below, with their depth. -/
inductive Reached (g : Grammar) (descends : τ → Path → Bool) (start : Place τ) :
    Place τ → Nat → Prop
  | start : Reached g descends start start 0
  | step {x y depth} (above : Reached g descends start x depth)
      (goesOn : descends x.node x.path = true) (mem : y ∈ g.below x) :
      Reached g descends start y (depth + 1)

theorem Grammar.NodeFault.not_conforms {g : Grammar} {x : Place τ} {e : WalkError}
    (fault : g.NodeFault x e) : ¬ g.Conforms x.node := by
  rintro ⟨d, known, fits⟩
  simp only [NodeFault, known] at fault
  obtain ⟨s, hs, unfit, -⟩ := fault
  exact unfit (fits s hs)

namespace Walker

variable (w : Walker) {v : Visitor σ τ} {descends : τ → Path → Bool}

/-- A visit without fault lies within the depth limit, and if it goes on below the node, the node
conforms and the visits directly below it are without fault too. -/
theorem visit_ok_inv (decided : v.DecidedBy descends) {s : σ} {x : Place τ} {depth : Nat}
    (ok : (w.run v s [x.visit depth]).result = .ok ()) :
    depth ≤ w.maxDepth ∧
      (descends x.node x.path = true → w.grammar.Conforms x.node ∧
        ∀ y ∈ w.grammar.below x, ∃ s', (w.run v s' [y.visit (depth + 1)]).result = .ok ()) := by
  by_cases deep : w.maxDepth < depth
  · simp [Place.visit, run_visit_deep w v s _ _ _ deep] at ok
  · refine ⟨by omega, fun goesOn => ?_⟩
    rw [Place.visit, run_visit_descend w v _ (by omega) (decided.enter_descend goesOn s),
      Outcome.andThen_ok_iff] at ok
    have conforms := conforms_of_run_ok w ok.1
    refine ⟨conforms, fun y mem => ?_⟩
    apply run_ok_of_mem w v ok.1
    rw [expand_of_conforms w conforms]
    exact List.mem_map.mpr ⟨y, mem, rfl⟩

/-- Below a walk without fault every visit is without fault. -/
theorem visit_ok_of_reached (decided : v.DecidedBy descends) {s : σ} {start x : Place τ}
    {depth : Nat} (ok : (w.run v s [start.visit 0]).result = .ok ())
    (reached : Reached w.grammar descends start x depth) :
    ∃ s', (w.run v s' [x.visit depth]).result = .ok () := by
  induction reached with
  | start => exact ⟨s, ok⟩
  | step _ goesOn mem ih =>
      obtain ⟨s', ok'⟩ := ih
      exact ((visit_ok_inv w decided ok').2 goesOn).2 _ mem

/-- A visit that fails reports that a place reached is too deep, or a fault of a node that was
reached and gone on below. -/
theorem fault_of_visit_error (decided : v.DecidedBy descends) {start : Place τ} {e : WalkError}
    (x : Place τ) (depth : Nat) (reached : Reached w.grammar descends start x depth) (s : σ)
    (error : (w.run v s [x.visit depth]).result = .error e) :
    ∃ y k, Reached w.grammar descends start y k ∧
      (w.maxDepth < k ∧ e = .depthExceeded w.maxDepth y.path ∨
        descends y.node y.path = true ∧ w.grammar.NodeFault y e) := by
  induction depth using w.depth_induction generalizing x s with
  | deep depth deep =>
      rw [Place.visit, run_visit_deep w v s _ _ _ deep] at error
      exact ⟨x, depth, reached, .inl ⟨deep, (Except.error.inj error).symm⟩⟩
  | step depth shallow ih =>
      by_cases goesOn : descends x.node x.path = true
      · rw [Place.visit, run_visit_descend w v _ shallow (decided.enter_descend goesOn s),
          Outcome.andThen_error_iff] at error
        rcases error with error | ⟨_, error⟩
        · obtain ⟨task, mem, s', error⟩ := exists_run_error w v error
          rcases mem_expand w mem with ⟨y, below, rfl⟩ | ⟨e', rfl, fault⟩
          · exact ih y (.step reached goesOn below) s' error
          · rw [run_fault_cons] at error
            cases error
            exact ⟨x, depth, reached, .inr ⟨goesOn, fault⟩⟩
        · cases error
      · rw [Place.visit, run_visit_skip w v _ shallow (decided.enter_skip goesOn s)] at error
        cases error

/-- A walk succeeds exactly if every place reached lies within the depth limit and every node that
is reached and gone on below conforms. A failed walk reports a fault of such a place. -/
theorem walk_ok_iff_conforms (decided : v.DecidedBy descends) (s : σ) (root : τ) :
    ((w.walk v s root).result = .ok () ↔
      ∀ x depth, Reached w.grammar descends (.root root) x depth →
        depth ≤ w.maxDepth ∧ (descends x.node x.path = true → w.grammar.Conforms x.node)) ∧
    ∀ e, (w.walk v s root).result = .error e →
      ∃ x depth, Reached w.grammar descends (.root root) x depth ∧
        (w.maxDepth < depth ∧ e = .depthExceeded w.maxDepth x.path ∨
          descends x.node x.path = true ∧ w.grammar.NodeFault x e) := by
  have faults : ∀ e, (w.walk v s root).result = .error e → _ :=
    fun e error => fault_of_visit_error w decided (.root root) 0 .start s error
  refine ⟨⟨?_, ?_⟩, faults⟩
  · intro ok x depth reached
    change (w.run v s [(Place.root root).visit 0]).result = .ok () at ok
    obtain ⟨s', ok'⟩ := visit_ok_of_reached w decided ok reached
    obtain ⟨within, below⟩ := visit_ok_inv w decided ok'
    exact ⟨within, fun goesOn => (below goesOn).1⟩
  · intro sound
    cases result : (w.walk v s root).result with
    | ok _ => rfl
    | error e =>
        obtain ⟨x, depth, reached, ⟨deep, -⟩ | ⟨goesOn, fault⟩⟩ := faults e result
        · exact absurd (sound x depth reached).1 (by omega)
        · exact absurd ((sound x depth reached).2 goesOn) fault.not_conforms

end Walker

/-- A package whose only file has no name. -/
def brokenPackage : Node :=
  (Node.ofKind "Package").withKeyed "Files" [("a.go", Node.ofKind "File")]

/-- A visitor that skips files. -/
def Visitor.packages : Visitor Unit Node := .inspector fun s n _ => (s, n.kind ≠ "File")

theorem walk_ok_iff_conforms_of_package :
    (Visitor.packages).DecidedBy (fun n _ => n.kind ≠ "File") ∧
    ((⟨Grammar.go, 1⟩ : Walker).walk .packages () brokenPackage).result = .ok () ∧
    ((⟨Grammar.go, 1⟩ : Walker).walk .descending () brokenPackage).result =
      .error (.missingSlot "File" "Name" (.ofSegments [.key "Files" "a.go"])) ∧
    (((⟨Grammar.go, 1⟩ : Walker).walk .packages () brokenPackage).result = .ok () ↔
      ∀ x depth, Reached Grammar.go (fun n _ => n.kind ≠ "File") (.root brokenPackage) x depth →
        depth ≤ 1 ∧ (decide (x.node.kind ≠ "File") = true → Grammar.go.Conforms x.node)) ∧
    ∀ e, ((⟨Grammar.go, 1⟩ : Walker).walk .packages () brokenPackage).result = .error e →
      ∃ x depth, Reached Grammar.go (fun n _ => n.kind ≠ "File") (.root brokenPackage) x depth ∧
        (1 < depth ∧ e = .depthExceeded 1 x.path ∨
          decide (x.node.kind ≠ "File") = true ∧ Grammar.go.NodeFault x e) := by
  have decided := Visitor.inspector_decidedBy (σ := Unit) (fun n _ => decide (Node.kind n ≠ "File"))
    fun s _ _ => s
  -- The file is reached by both visitors; only the second one goes on to its missing name.
  have skipping : ((⟨Grammar.go, 1⟩ : Walker).walk .packages () brokenPackage).result = .ok () := by
    cbv
  have goingOn : ((⟨Grammar.go, 1⟩ : Walker).walk .descending () brokenPackage).result =
      .error (.missingSlot "File" "Name" (.ofSegments [.key "Files" "a.go"])) := by
    cbv
  exact ⟨decided, skipping, goingOn,
    Walker.walk_ok_iff_conforms ⟨Grammar.go, 1⟩ decided () brokenPackage⟩

end TreeSearch

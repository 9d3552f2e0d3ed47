import TreeSearch.Proofs.Walk.Composition

/-!
# The depth limit

A larger limit changes nothing of a walk that ends before its limit stops it, and otherwise the walk
only goes on from where the smaller limit stopped it. Both are told by what a run leaves behind
(`Walker.CutShort`): a run that was stopped had a node in front of it that lies one level beyond the
limit, and the run under a larger limit comes to the same agenda in the same state
(`Walker.run_cutShort`). That the node lies no deeper is kept by all tasks of a run (`Task.Within`).
-/

namespace TreeSearch

variable {σ τ : Type}

/-- The depth limit is what a walk was stopped by. -/
def WalkError.IsTooDeep (e : WalkError) : Prop := ∃ limit path, e = .depthExceeded limit path

/-- What can be on the agenda of a run under the limit: the places to visit lie at most one level
beyond it, and no fault says that a node is too deep, since this is found out at its visit. -/
def Task.Within (limit : Nat) : Task τ → Prop
  | .visit _ _ _ depth => depth ≤ limit + 1
  | .leave => True
  | .fault e => ¬ e.IsTooDeep

theorem slotFault_not_tooDeep (d : KindDescriptor) (s : SlotDescriptor) (value : SlotValue τ)
    (base : Path) : ¬ (slotFault d s value base).IsTooDeep := by
  rintro ⟨limit, path, same⟩
  unfold slotFault at same
  split at same <;> cases same

variable [SyntaxTree τ]

theorem Grammar.NodeFault.not_tooDeep {g : Grammar} {x : Place τ} {e : WalkError}
    (fault : g.NodeFault x e) : ¬ e.IsTooDeep := by
  unfold NodeFault at fault
  split at fault
  · rw [fault]
    rintro ⟨limit, path, ⟨⟩⟩
  · obtain ⟨s, -, -, rfl⟩ := fault
    exact slotFault_not_tooDeep _ s _ _

namespace Walker

/-- The tasks below a node that may be entered can be on the agenda. -/
theorem within_of_mem_expand (w : Walker) {n : τ} {p : Path} {b : Bool} {depth limit : Nat}
    (shallow : depth ≤ limit) {task : Task τ} (mem : task ∈ w.expand n p b depth) :
    task.Within limit := by
  rcases mem_expand w (x := ⟨n, p, b⟩) mem with ⟨y, -, rfl⟩ | ⟨e, rfl, fault⟩
  · exact Nat.succ_le_succ shallow
  · exact fault.not_tooDeep

/-- What a run under a limit leaves of the run `full` under a larger one: nothing, if it was not
stopped by its limit, or else the visit of a node one level beyond the limit and what is behind it
on the agenda, to be worked off by the walker `w'`. -/
inductive CutShort (w' : Walker) (v : Visitor σ τ) (limit : Nat) (full : Outcome σ) :
    Outcome σ → Prop
  | whole (ends : ∀ e, full.result = .error e → ¬ e.IsTooDeep) : CutShort w' v limit full full
  | stopped (s : σ) (x : Place τ) (rest : List (Task τ))
      (goesOn : full = w'.run v s (x.visit (limit + 1) :: rest)) :
      CutShort w' v limit full ⟨s, .error (.depthExceeded limit x.path)⟩

namespace CutShort

variable {w' : Walker} {v : Visitor σ τ} {limit : Nat} {full outcome : Outcome σ}

theorem eq_of_not_tooDeep (cut : CutShort w' v limit full outcome)
    (ends : ∀ e, outcome.result = .error e → ¬ e.IsTooDeep) : full = outcome := by
  cases cut with
  | whole _ => rfl
  | stopped s x rest _ => exact absurd ⟨limit, x.path, rfl⟩ (ends _ rfl)

theorem goesOn_of_tooDeep (cut : CutShort w' v limit full outcome) {e : WalkError}
    (error : outcome.result = .error e) (deep : e.IsTooDeep) :
    ∃ (x : Place τ) (rest : List (Task τ)), e = .depthExceeded limit x.path ∧
      full = w'.run v outcome.state (x.visit (limit + 1) :: rest) := by
  cases cut with
  | whole ends => exact absurd deep (ends e error)
  | stopped s x rest goesOn =>
      cases error
      exact ⟨x, rest, rfl, goesOn⟩

end CutShort

/-- A run under a limit is the run under a larger limit, cut short where a node lies beyond it. -/
theorem run_cutShort {w w' : Walker} (same : w.grammar = w'.grammar)
    (le : w.maxDepth ≤ w'.maxDepth) (v : Visitor σ τ) (s : σ) (agenda : List (Task τ))
    (within : ∀ task ∈ agenda, task.Within w.maxDepth) :
    CutShort w' v w.maxDepth (w'.run v s agenda) (w.run v s agenda) := by
  fun_induction w.run v s agenda with
  | case1 s =>
      rw [run_nil]
      exact .whole (by rintro e ⟨⟩)
  | case2 s rest ih =>
      rw [run_leave_cons]
      exact ih fun task mem => within task (List.mem_cons_of_mem _ mem)
  | case3 s e rest =>
      rw [run_fault_cons]
      apply CutShort.whole
      rintro _ ⟨⟩
      exact within _ List.mem_cons_self
  | case4 s node path polymorphic depth rest deep =>
      -- Here the two runs part; what is left of the agenda is worked off under the larger limit.
      have level : depth = w.maxDepth + 1 := by
        have limited : depth ≤ w.maxDepth + 1 := within _ List.mem_cons_self
        omega
      subst level
      exact .stopped s ⟨node, path, polymorphic⟩ rest rfl
  | case5 s node path polymorphic depth rest shallow next enter ih =>
      rw [run, if_neg (by omega), enter]
      exact ih fun task mem => within task (List.mem_cons_of_mem _ mem)
  | case6 s node path polymorphic depth rest shallow next enter ih =>
      have tasks :
          w'.expand node path polymorphic depth = w.expand node path polymorphic depth := by
        simp only [expand, same]
      rw [run, if_neg (by omega), enter]
      simp only [tasks]
      apply ih
      simp only [List.forall_mem_append, List.forall_mem_cons]
      refine ⟨?_, trivial, fun task mem => within task (List.mem_cons_of_mem _ mem)⟩
      intro task mem
      exact within_of_mem_expand w (by omega) mem

/-- What is told of the first part of an agenda is told first. -/
theorem events_prefix_append (w : Walker) (v : Visitor σ τ) (s : σ) (first second : List (Task τ)) :
    w.events v s first <+: w.events v s (first ++ second) := by
  cases ends : (w.run v s first).result with
  | ok _ =>
      rw [events_append_of_ok w v ends]
      exact List.prefix_append _ _
  | error e =>
      refine ⟨[], ?_⟩
      rw [events_append_of_error w v ends, List.append_nil]

variable (w w' : Walker) (same : w.grammar = w'.grammar) (le : w.maxDepth ≤ w'.maxDepth)
  (v : Visitor σ τ) (s : σ) (start : Place τ)

include same le

/-- The walk from a place, with its log, is cut short by the smaller limit. -/
theorem logged_cutShort :
    CutShort w' v.logged w.maxDepth (w'.run v.logged (s, []) [start.visit 0])
      (w.run v.logged (s, []) [start.visit 0]) := by
  apply run_cutShort same le
  exact List.forall_mem_singleton.mpr (Nat.zero_le _)

/-- A larger limit changes nothing of a walk that was not stopped by its limit. -/
theorem runLogged_eq_of_not_tooDeep
    (ends : ∀ e, (w.run v s [start.visit 0]).result = .error e → ¬ e.IsTooDeep) :
    w'.runLogged v s [start.visit 0] = w.runLogged v s [start.visit 0] := by
  have cut := logged_cutShort w w' same le v s start
  have whole :
      w'.run v.logged (s, []) [start.visit 0] = w.run v.logged (s, []) [start.visit 0] := by
    apply cut.eq_of_not_tooDeep
    rwa [run_logged]
  rw [runLogged, whole]
  rfl

/-- Under a larger limit, a walk that was stopped by its limit goes on with the visit of a node at
the path of the error. -/
theorem events_of_tooDeep {e : WalkError}
    (error : (w.run v s [start.visit 0]).result = .error e) (deep : e.IsTooDeep) :
    ∃ (x : Place τ) (rest : List (Task τ)), e = .depthExceeded w.maxDepth x.path ∧
      w'.events v s [start.visit 0] = w.events v s [start.visit 0] ++
        w'.events v (w.run v s [start.visit 0]).state (x.visit (w.maxDepth + 1) :: rest) := by
  have cut := logged_cutShort w w' same le v s start
  have stopped : (w.run v.logged (s, []) [start.visit 0]).result = .error e := by
    rwa [run_logged]
  obtain ⟨x, rest, found, goesOn⟩ := cut.goesOn_of_tooDeep stopped deep
  refine ⟨x, rest, found, ?_⟩
  have logs := congrArg (fun o => o.state.2.reverse) goesOn
  simp only [run_logged, List.append_nil, List.reverse_append, List.reverse_reverse] at logs
  exact logs

omit same le

/-- The depth limit only truncates. Under a larger limit, a walk that was not stopped by its limit
tells the visitor the same, leaves it in the same state and ends alike. A walk that was stopped at a
path has told the beginning of what is told under the larger limit, where next a node is entered at
that path. -/
theorem depth_limit_truncates (g : Grammar) (d d' : Nat) (le : d ≤ d') (v : Visitor σ τ) (s : σ)
    (n : τ) (p : Path) (b : Bool) :
    ((∀ limit q,
        ((⟨g, d⟩ : Walker).walkFrom v s n p b).result ≠ .error (.depthExceeded limit q)) →
      ((⟨g, d'⟩ : Walker).logFrom v s n p b).2 = ((⟨g, d⟩ : Walker).logFrom v s n p b).2 ∧
      ((⟨g, d'⟩ : Walker).walkFrom v s n p b).state =
        ((⟨g, d⟩ : Walker).walkFrom v s n p b).state ∧
      ((⟨g, d'⟩ : Walker).walkFrom v s n p b).result =
        ((⟨g, d⟩ : Walker).walkFrom v s n p b).result) ∧
    ∀ limit q, ((⟨g, d⟩ : Walker).walkFrom v s n p b).result = .error (.depthExceeded limit q) →
      limit = d ∧
      ((⟨g, d⟩ : Walker).logFrom v s n p b).2 <+: ((⟨g, d'⟩ : Walker).logFrom v s n p b).2 ∧
      (d < d' → ∃ m, ((⟨g, d⟩ : Walker).logFrom v s n p b).2 ++ [.enter m q] <+:
        ((⟨g, d'⟩ : Walker).logFrom v s n p b).2) := by
  let w : Walker := ⟨g, d⟩
  let w' : Walker := ⟨g, d'⟩
  let start : Place τ := ⟨n, p, b⟩
  constructor
  · intro ends
    have whole : w'.logFrom v s n p b = w.logFrom v s n p b := by
      apply runLogged_eq_of_not_tooDeep w w' rfl le v s start
      rintro e error ⟨limit, q, rfl⟩
      exact ends limit q error
    have outcomes : w'.walkFrom v s n p b = w.walkFrom v s n p b := by
      simp only [logFrom, runLogged_eq, Prod.mk.injEq] at whole
      exact whole.1
    exact ⟨congrArg Prod.snd whole, congrArg Outcome.state outcomes,
      congrArg Outcome.result outcomes⟩
  · intro limit q stopped
    obtain ⟨x, rest, found, told⟩ :=
      events_of_tooDeep w w' rfl le v s start stopped ⟨limit, q, rfl⟩
    cases found
    refine ⟨rfl, ⟨_, told.symm⟩, fun lt => ⟨x.node, ?_⟩⟩
    have shallow : d + 1 ≤ w'.maxDepth := lt
    obtain ⟨more, first⟩ :=
      events_visit_of_shallow w' v x shallow (w.run v s [start.visit 0]).state
    have begins : [.enter x.node x.path] <+:
        w'.events v (w.run v s [start.visit 0]).state (x.visit (d + 1) :: rest) := by
      refine List.IsPrefix.trans ?_ (events_prefix_append w' v _ [x.visit (d + 1)] rest)
      rw [first]
      exact List.prefix_append [_] more
    change w.events v s [start.visit 0] ++ _ <+: w'.events v s [start.visit 0]
    rw [told]
    exact (List.prefix_append_right_inj _).mpr begins

end Walker

theorem depth_limit_truncates_of_paren :
    ((⟨Grammar.go, 1⟩ : Walker).walkFrom .descending () outerParen .empty false).result =
      .error (.depthExceeded 1 (.ofSegments [.field "X", .kind "*ast.ParenExpr", .field "X"])) ∧
    (∃ m, ((⟨Grammar.go, 1⟩ : Walker).logFrom .descending () outerParen .empty false).2 ++
        [.enter m (.ofSegments [.field "X", .kind "*ast.ParenExpr", .field "X"])] <+:
      ((⟨Grammar.go, 2⟩ : Walker).logFrom .descending () outerParen .empty false).2) ∧
    ((⟨Grammar.go, 1⟩ : Walker).walkFrom .firstTwo 0 brokenParen .empty true).result =
      .error (.missingSlot "StarExpr" "X"
        (.ofSegments [.kind "*ast.ParenExpr", .field "X", .kind "*ast.StarExpr"])) ∧
    ((⟨Grammar.go, 2⟩ : Walker).logFrom .firstTwo 0 brokenParen .empty true).2 =
      ((⟨Grammar.go, 1⟩ : Walker).logFrom .firstTwo 0 brokenParen .empty true).2 := by
  have stopped :
      ((⟨Grammar.go, 1⟩ : Walker).walkFrom .descending () outerParen .empty false).result =
      .error (.depthExceeded 1 (.ofSegments [.field "X", .kind "*ast.ParenExpr", .field "X"])) := by
    cbv
  have failed : ((⟨Grammar.go, 1⟩ : Walker).walkFrom .firstTwo 0 brokenParen .empty true).result =
      .error (.missingSlot "StarExpr" "X"
        (.ofSegments [.kind "*ast.ParenExpr", .field "X", .kind "*ast.StarExpr"])) := by
    cbv
  have cut := Walker.depth_limit_truncates Grammar.go 1 2 (by decide) .descending () outerParen
    .empty false
  have kept := Walker.depth_limit_truncates Grammar.go 1 2 (by decide) .firstTwo 0 brokenParen
    .empty true
  refine ⟨stopped, (cut.2 _ _ stopped).2.2 (by decide), failed, (kept.1 ?_).1⟩
  intro limit q tooDeep
  rw [failed] at tooDeep
  cases tooDeep

end TreeSearch

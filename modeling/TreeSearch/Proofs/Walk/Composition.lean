import TreeSearch.Proofs.Walk.Addresses
import TreeSearch.Proofs.Walk.Lineage
import TreeSearch.Proofs.Walk.Simulation
import Mathlib.Data.List.Permutation

/-!
# Walks are composed of walks

Nothing of the ancestors of a node takes part in what is told below it. A walk that starts with
another path is in step with the one that starts with the empty path, and every path of it goes on
from there (`Walker.inStep_under`). A walk that counts depth from another start is in step as well,
if its limit is moved along (`Walker.inStep_shift`). So what a walk tells of a node, from its entry
to the exit that belongs to it, is the log of a walk of its own.
-/

namespace TreeSearch

variable {σ τ : Type}

/-- The path that goes on from `p` as `q` goes on from the root. -/
def Path.under (p q : Path) : Path := p.extend q.segments

theorem Path.under_append (p q : Path) (s : Segment) :
    p.under (q.append s) = (p.under q).append s := by
  rw [under, segments_append, extend_append]
  rfl

theorem basePath_under (d : KindDescriptor) (p q : Path) (polymorphic : Bool) :
    basePath d (p.under q) polymorphic = p.under (basePath d q polymorphic) := by
  cases polymorphic with
  | false => rfl
  | true => exact (p.under_append q (.kind d.typeName)).symm

/-- The events up to the exit of the node that was entered last, if `opened` more nodes have been
entered since and not left. -/
def uptoExit (opened : Nat) : List (Event τ) → List (Event τ)
  | [] => []
  | .enter node path :: rest => .enter node path :: uptoExit (opened + 1) rest
  | .exit :: rest => .exit :: if opened = 0 then [] else uptoExit (opened - 1) rest

mutual

/-- Visits that are complete do not contain the exit. -/
theorem uptoExit_events (opened : Nat) (t : VisitTree τ) (rest : List (Event τ)) :
    uptoExit opened (t.events ++ rest) = t.events ++ uptoExit opened rest := by
  match t with
  | .mk node path below =>
      rw [VisitTree.events, List.cons_append, uptoExit, List.append_assoc,
        uptoExit_eventsAll (opened + 1) below, List.singleton_append, uptoExit,
        if_neg (Nat.succ_ne_zero opened), Nat.add_sub_cancel]
      simp

theorem uptoExit_eventsAll (opened : Nat) (ts : List (VisitTree τ)) (rest : List (Event τ)) :
    uptoExit opened (VisitTree.eventsAll ts ++ rest) =
      VisitTree.eventsAll ts ++ uptoExit opened rest := by
  match ts with
  | [] => simp [VisitTree.eventsAll]
  | t :: others =>
      rw [VisitTree.eventsAll, List.append_assoc, uptoExit_events opened t,
        uptoExit_eventsAll opened others, List.append_assoc]

end

/-- The events of a complete visit reach from its entry to the exit that belongs to it. -/
theorem enter_cons_uptoExit {t : VisitTree τ} {node : τ} {path : Path} {later : List (Event τ)}
    (begins : t.events <+: .enter node path :: later) :
    .enter node path :: uptoExit 0 later = t.events := by
  obtain ⟨rest, told⟩ := begins
  cases t with
  | mk node' path' below =>
      rw [VisitTree.events, List.cons_append, List.append_assoc, List.cons.injEq] at told
      rw [VisitTree.events, ← told.1, ← told.2, uptoExit_eventsAll]
      simp [uptoExit]

variable [SyntaxTree τ]

namespace Walker

open Visitor (decidesFrom_of_descends)

/-- A walk that starts with the path `p` is in step with the one that starts with the empty path. -/
theorem inStep_under (w : Walker) (p : Path) :
    w.InStep w (fun x y : Place τ => x = ⟨y.node, p.under y.path, y.polymorphic⟩)
      (fun e e' => e = e'.mapPath p.under) 0 where
  maxDepth := rfl
  tooDeep := by
    rintro _ y rfl
    rfl
  expand := by
    rintro x y depth rfl
    cases known : w.grammar.lookup (SyntaxTree.kind y.node) with
    | none =>
        apply expand_matches_of_unknown (x := ⟨y.node, p.under y.path, y.polymorphic⟩) known known
        rfl
    | some d =>
        apply expand_matches (x := ⟨y.node, p.under y.path, y.polymorphic⟩) known known
        refine List.forall₂_same.mpr fun s _ => ⟨rfl, rfl, ?_, List.forall₂_same.mpr fun h _ => ?_⟩
        · simp only [basePath_under, slotFault]
          split
          · rfl
          · rw [WalkError.mapPath, Path.under_append]
        · simp only [Place.child, basePath_under, Path.under_append]

/-- A walk that starts further down is in step, if it may go as far down. -/
theorem inStep_shift (g : Grammar) (levels shift : Nat) :
    (⟨g, levels + shift⟩ : Walker).InStep ⟨g, levels⟩ (Eq (α := Place τ)) (fun _ _ => True)
      shift where
  maxDepth := rfl
  tooDeep _ := trivial
  expand := by
    rintro x _ depth rfl
    cases known : g.lookup (SyntaxTree.kind x.node) with
    | none => exact expand_matches_of_unknown known known trivial depth shift
    | some d =>
        refine expand_matches known known (List.forall₂_same.mpr fun s _ => ?_) depth shift
        exact ⟨rfl, rfl, trivial, List.forall₂_same.mpr fun h _ => rfl⟩

/-- The walker for nodes that are so many levels below the root of a walk. -/
def startingAt (w : Walker) (depth : Nat) : Walker := ⟨w.grammar, w.maxDepth - depth⟩

variable {v : Visitor σ τ} (descends : ∀ s n p, (v.enter s n p).2 = .descend)

include descends

/-- What is told of a walk that starts with the path `p` is told of the one that starts with the
empty path, at paths that go on from `p`. -/
theorem logFrom_under (w : Walker) (s : σ) (n : τ) (p : Path) (b : Bool) :
    (w.logFrom v s n p b).2 = (w.logFrom v s n .empty b).2.map (Event.map id p.under) ∧
      EndsAlike (fun e e' => e = e'.mapPath p.under) (w.walkFrom v s n p b).result
        (w.walkFrom v s n .empty b).result := by
  have enters : ∀ {x y : Place τ}, x = ⟨y.node, p.under y.path, y.polymorphic⟩ →
      id (.enter x.node x.path) = Event.map id p.under (.enter y.node y.path) := by
    rintro _ y rfl
    rfl
  obtain ⟨views, ends⟩ := (inStep_under w p).logs (decidesFrom_of_descends descends s id)
    (decidesFrom_of_descends descends s _) enters rfl (x := ⟨n, p, b⟩) (y := ⟨n, .empty, b⟩) rfl 0
  rw [List.map_id] at views
  exact ⟨views, ends⟩

/-- What is told of a node is told of a walk that starts there. -/
theorem events_startingAt (w : Walker) {depth : Nat} (within : depth ≤ w.maxDepth) (s r : σ)
    (x : Place τ) :
    w.events v s [x.visit depth] =
        ((w.startingAt depth).logFrom v r x.node x.path x.polymorphic).2 ∧
      EndsAlike (fun _ _ => True) (w.run v s [x.visit depth]).result
        ((w.startingAt depth).walkFrom v r x.node x.path x.polymorphic).result := by
  obtain ⟨g, maxDepth⟩ := w
  obtain ⟨levels, rfl⟩ : ∃ levels, maxDepth = levels + depth :=
    ⟨maxDepth - depth, (Nat.sub_add_cancel within).symm⟩
  obtain ⟨views, ends⟩ := (inStep_shift g levels depth).logs
    (decidesFrom_of_descends descends s id) (decidesFrom_of_descends descends r id)
    (fun same => by rw [same]) rfl (x := x) rfl 0
  rw [List.map_id, List.map_id, Nat.zero_add] at views
  rw [Nat.zero_add] at ends
  rw [startingAt, Nat.add_sub_cancel]
  exact ⟨views, ends⟩

omit descends

/-- Walks are composed of walks. In a walk without fault that goes on below every node, the events
of a node from its entry to the exit that belongs to it are the log of a walk from the node, with
its path and flag and as many levels as are left, and this is the log of a walk from the empty path
with the path of the node in front of every path. The latter holds for all walks, also if they
fail. -/
theorem walks_compose (w : Walker) (v : Visitor σ τ)
    (descends : ∀ s n p, (v.enter s n p).2 = .descend) (s : σ) :
    (∀ root, (w.walk v s root).result = .ok () →
      ∀ earlier n q later, (w.log v s root).2 = earlier ++ .enter n q :: later →
        ∃ ancestors b, w.grammar.Lineage (.root root) ancestors ⟨n, q, b⟩ earlier ∧
          ancestors.length ≤ w.maxDepth ∧
          ((w.startingAt ancestors.length).walkFrom v s n q b).result = .ok () ∧
          .enter n q :: uptoExit 0 later =
            ((w.startingAt ancestors.length).logFrom v s n q b).2 ∧
          ((w.startingAt ancestors.length).logFrom v s n q b).2 =
            ((w.startingAt ancestors.length).logFrom v s n .empty b).2.map
              (Event.map id q.under)) ∧
    ∀ n p b,
      (w.logFrom v s n p b).2 = (w.logFrom v s n .empty b).2.map (Event.map id p.under) ∧
      EndsAlike (fun e e' => e = e'.mapPath p.under) (w.walkFrom v s n p b).result
        (w.walkFrom v s n .empty b).result := by
  refine ⟨?_, logFrom_under descends w s⟩
  intro root ok earlier n q later told
  obtain ⟨ancestors, y, rfl, rfl, lineage, within, s', begins, okHere⟩ :=
    exists_lineage w v (.root root) 0 s told
  rw [Nat.zero_add] at within begins okHere
  obtain ⟨t, -, complete⟩ := exists_visited w v y _ s' (okHere ok)
  obtain ⟨same, ends⟩ := events_startingAt descends w within s' s y
  refine ⟨ancestors, y.polymorphic, lineage, within, ends.ok_iff.mp (okHere ok), ?_,
    (logFrom_under descends _ s _ _ _).1⟩
  rw [← same, complete]
  exact enter_cons_uptoExit (complete ▸ begins)

end Walker

/-- An expression in parentheses. -/
def innerParen : Node := (Node.ofKind "ParenExpr").withNode "X" (Node.ofKind "BadExpr")

/-- The expression in parentheses once more. -/
def outerParen : Node := (Node.ofKind "ParenExpr").withNode "X" innerParen

theorem walks_compose_of_paren :
    ((⟨Grammar.go, 2⟩ : Walker).walk .descending () outerParen).result = .ok () ∧
    ((⟨Grammar.go, 2⟩ : Walker).log .descending () outerParen).2 =
      [.enter outerParen .empty] ++ .enter innerParen (.ofSegments [.field "X"]) ::
        [.enter (Node.ofKind "BadExpr")
          (.ofSegments [.field "X", .kind "*ast.ParenExpr", .field "X"]), .exit, .exit, .exit] ∧
    (∃ ancestors b, Grammar.go.Lineage (.root outerParen) ancestors
        ⟨innerParen, .ofSegments [.field "X"], b⟩ [.enter outerParen .empty] ∧
      [.enter innerParen (.ofSegments [.field "X"]), .enter (Node.ofKind "BadExpr")
          (.ofSegments [.field "X", .kind "*ast.ParenExpr", .field "X"]), .exit, .exit] =
        (((⟨Grammar.go, 2⟩ : Walker).startingAt ancestors.length).logFrom .descending ()
          innerParen (.ofSegments [.field "X"]) b).2) ∧
    ((⟨Grammar.go, 2⟩ : Walker).walkFrom .descending () brokenParen (.ofSegments [.field "X"])
      true).result = .error (.missingSlot "StarExpr" "X" (.ofSegments
        [.field "X", .kind "*ast.ParenExpr", .field "X", .kind "*ast.StarExpr"])) ∧
    EndsAlike (fun e e' => e = e'.mapPath (Path.ofSegments [.field "X"]).under)
      ((⟨Grammar.go, 2⟩ : Walker).walkFrom .descending () brokenParen (.ofSegments [.field "X"])
        true).result
      ((⟨Grammar.go, 2⟩ : Walker).walkFrom .descending () brokenParen .empty true).result := by
  have ok : ((⟨Grammar.go, 2⟩ : Walker).walk .descending () outerParen).result = .ok () := by cbv
  have told : ((⟨Grammar.go, 2⟩ : Walker).log .descending () outerParen).2 =
      [.enter outerParen .empty] ++ .enter innerParen (.ofSegments [.field "X"]) ::
        [.enter (Node.ofKind "BadExpr")
          (.ofSegments [.field "X", .kind "*ast.ParenExpr", .field "X"]), .exit, .exit, .exit] := by
    cbv
  obtain ⟨parts, starts⟩ :=
    Walker.walks_compose (τ := Node) ⟨Grammar.go, 2⟩ .descending (fun _ _ _ => rfl) ()
  obtain ⟨ancestors, b, lineage, -, -, block, -⟩ := parts _ ok _ _ _ _ told
  exact ⟨ok, told, ⟨ancestors, b, lineage, block⟩, by cbv, (starts brokenParen _ true).2⟩

end TreeSearch

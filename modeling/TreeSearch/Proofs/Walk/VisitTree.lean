import TreeSearch.Grammar.Go
import TreeSearch.Node.Basic
import TreeSearch.Proofs.Walk.Events
import TreeSearch.Proofs.Walk.Layout

/-!
# The tree that a walk visits

The visits of a walk form a tree: below a node are the visits of the places directly below it, in
visiting order, or nothing if the visitor skipped the node (`Visited`). A walk without fault tells
the visitor exactly the events of this tree (`Walker.exists_visited`), and a stack machine that is
told these events computes the fold of any function over it (`StackMachine.run_events`).
-/

namespace TreeSearch

variable {σ τ α : Type}

/-- The visit of a node with the given path, and the visits below it in order. -/
inductive VisitTree (τ : Type) where
  | mk (node : τ) (path : Path) (below : List (VisitTree τ))

namespace VisitTree

mutual

/-- What a visitor is told of the visits. -/
def events : VisitTree τ → List (Event τ)
  | .mk node path below => .enter node path :: (eventsAll below ++ [.exit])

/-- What a visitor is told of several visits, one after the other. -/
def eventsAll : List (VisitTree τ) → List (Event τ)
  | [] => []
  | t :: rest => t.events ++ eventsAll rest

end

mutual

/-- The value of a tree of visits, where `f` gives the value of a node from those below it. -/
def fold (f : τ → List α → α) : VisitTree τ → α
  | .mk node _ below => f node (foldAll f below)

/-- The values of several trees of visits. -/
def foldAll (f : τ → List α → α) : List (VisitTree τ) → List α
  | [] => []
  | t :: rest => t.fold f :: foldAll f rest

end

end VisitTree

mutual

/-- `Visited g v s x t s'`: a visit of the place `x` that starts in the state `s` of the visitor
makes the visits `t` and ends in the state `s'`. Below a skipped node there are none. -/
inductive Visited [SyntaxTree τ] (g : Grammar) (v : Visitor σ τ) :
    σ → Place τ → VisitTree τ → σ → Prop
  | skip {s next x} (enter : v.enter s x.node x.path = (next, .skip)) :
      Visited g v s x (.mk x.node x.path []) (v.exit next)
  | descend {s next last x below} (enter : v.enter s x.node x.path = (next, .descend))
      (all : VisitedAll g v next (g.below x) below last) :
      Visited g v s x (.mk x.node x.path below) (v.exit last)

/-- Visits of several places, one after the other. -/
inductive VisitedAll [SyntaxTree τ] (g : Grammar) (v : Visitor σ τ) :
    σ → List (Place τ) → List (VisitTree τ) → σ → Prop
  | nil {s} : VisitedAll g v s [] [] s
  | cons {s next last x rest t ts} (first : Visited g v s x t next)
      (others : VisitedAll g v next rest ts last) : VisitedAll g v s (x :: rest) (t :: ts) last

end

section Visits

variable [SyntaxTree τ] {g : Grammar} {v : Visitor σ τ}

mutual

/-- The visitor's state determines the visits and the state after them. -/
theorem Visited.unique {s s₁ s₂ : σ} {x : Place τ} {t₁ t₂ : VisitTree τ} :
    Visited g v s x t₁ s₁ → Visited g v s x t₂ s₂ → t₁ = t₂ ∧ s₁ = s₂
  | .skip enter₁, .skip enter₂ => by
      cases enter₁.symm.trans enter₂
      exact ⟨rfl, rfl⟩
  | .skip enter₁, .descend enter₂ _ => by cases enter₁.symm.trans enter₂
  | .descend enter₁ _, .skip enter₂ => by cases enter₁.symm.trans enter₂
  | .descend enter₁ all₁, .descend enter₂ all₂ => by
      cases enter₁.symm.trans enter₂
      obtain ⟨rfl, rfl⟩ := VisitedAll.unique all₁ all₂
      exact ⟨rfl, rfl⟩

theorem VisitedAll.unique {s s₁ s₂ : σ} {xs : List (Place τ)} {ts₁ ts₂ : List (VisitTree τ)} :
    VisitedAll g v s xs ts₁ s₁ → VisitedAll g v s xs ts₂ s₂ → ts₁ = ts₂ ∧ s₁ = s₂
  | .nil, .nil => ⟨rfl, rfl⟩
  | .cons first₁ others₁, .cons first₂ others₂ => by
      obtain ⟨rfl, rfl⟩ := Visited.unique first₁ first₂
      obtain ⟨rfl, rfl⟩ := VisitedAll.unique others₁ others₂
      exact ⟨rfl, rfl⟩

end

end Visits

namespace Walker

variable [SyntaxTree τ] (w : Walker) (v : Visitor σ τ)

/-- Runs of visits, one after the other, make the visits that each of them makes. -/
theorem exists_visitedAll {depth : Nat} {places : List (Place τ)}
    (single : ∀ x ∈ places, ∀ s, (w.run v s [x.visit depth]).result = .ok () →
      ∃ t, Visited w.grammar v s x t (w.run v s [x.visit depth]).state ∧
        w.events v s [x.visit depth] = t.events)
    (s : σ) (ok : (w.run v s (places.map fun x => x.visit depth)).result = .ok ()) :
    ∃ ts, VisitedAll w.grammar v s places ts
        (w.run v s (places.map fun x => x.visit depth)).state ∧
      w.events v s (places.map fun x => x.visit depth) = VisitTree.eventsAll ts := by
  induction places generalizing s with
  | nil => exact ⟨[], by rw [List.map_nil, run_nil]; exact .nil, events_nil w v s⟩
  | cons x rest ih =>
      rw [List.map_cons, run_cons, Outcome.andThen_ok_iff] at ok
      obtain ⟨t, visited, told⟩ := single x List.mem_cons_self s ok.1
      obtain ⟨ts, others, toldOthers⟩ :=
        ih (fun y hy => single y (List.mem_cons_of_mem _ hy)) _ ok.2
      refine ⟨t :: ts, ?_, ?_⟩
      · rw [List.map_cons, run_cons, Outcome.andThen_of_ok ok.1]
        exact .cons visited others
      · rw [List.map_cons, events_cons_of_ok w v ok.1, told, toldOthers, VisitTree.eventsAll]

/-- A visit without fault tells the visitor the events of the tree that it visits. -/
theorem exists_visited (x : Place τ) (depth : Nat) (s : σ)
    (ok : (w.run v s [x.visit depth]).result = .ok ()) :
    ∃ t, Visited w.grammar v s x t (w.run v s [x.visit depth]).state ∧
      w.events v s [x.visit depth] = t.events := by
  induction depth using w.depth_induction generalizing x s with
  | deep depth deep => simp [Place.visit, run_visit_deep w v s _ _ _ deep] at ok
  | step depth shallow ih =>
      unfold Place.visit at ok ⊢
      rcases enter : v.enter s x.node x.path with ⟨next, decision⟩
      cases decision with
      | skip =>
          refine ⟨.mk x.node x.path [], ?_, events_visit_skip w v _ shallow enter⟩
          rw [run_visit_skip w v _ shallow enter]
          exact .skip enter
      | descend =>
          rw [run_visit_descend w v _ shallow enter, Outcome.andThen_ok_iff] at ok
          have expand := expand_of_conforms w (conforms_of_run_ok w ok.1) depth
          have okBelow := ok.1
          rw [expand] at okBelow
          obtain ⟨ts, all, told⟩ := exists_visitedAll w v (fun y _ => ih y) next okBelow
          refine ⟨.mk x.node x.path ts, ?_, ?_⟩
          · rw [run_visit_descend w v _ shallow enter, Outcome.andThen_of_ok ok.1, expand]
            exact .descend enter all
          · rw [events_visit_descend w v _ shallow enter, ok.1, expand, told]
            rfl

end Walker

/-- A machine that is told of a walk. Its stack has the nodes that were entered and not left, the
last one first, each with the values of the nodes below it that were left. -/
structure StackMachine (τ α : Type) where
  stack : List (τ × List α)
  result : Option α

namespace StackMachine

/-- What an event does. To leave a node applies `f` to it and its values, and gives the result to
the node above it or, if there is none, keeps it. With nothing on the stack no node can be left. -/
def step (f : τ → List α → α) (m : StackMachine τ α) : Event τ → Option (StackMachine τ α)
  | .enter node _ => some { m with stack := (node, []) :: m.stack }
  | .exit =>
    match m.stack with
    | [] => none
    | [(node, values)] => some ⟨[], some (f node values)⟩
    | (node, values) :: (above, earlier) :: rest =>
      some { m with stack := (above, earlier ++ [f node values]) :: rest }

/-- Tells the machine of events in order. -/
def run (f : τ → List α → α) (m : StackMachine τ α) (events : List (Event τ)) :
    Option (StackMachine τ α) :=
  events.foldlM (step f) m

theorem run_enter_cons (f : τ → List α → α) (m : StackMachine τ α) (node : τ) (path : Path)
    (events : List (Event τ)) :
    run f m (.enter node path :: events) = run f ⟨(node, []) :: m.stack, m.result⟩ events :=
  rfl

theorem run_append (f : τ → List α → α) (m : StackMachine τ α) (first second : List (Event τ)) :
    run f m (first ++ second) = (run f m first).bind fun m => run f m second :=
  List.foldlM_append

mutual

/-- The events of a tree below a node leave its value with the node. -/
theorem run_events_below (f : τ → List α → α) (t : VisitTree τ) (above : τ) (earlier : List α)
    (rest : List (τ × List α)) (result : Option α) :
    run f ⟨(above, earlier) :: rest, result⟩ t.events =
      some ⟨(above, earlier ++ [t.fold f]) :: rest, result⟩ := by
  match t with
  | .mk node path below =>
      rw [VisitTree.events, run_enter_cons, run_append, run_eventsAll_below f below]
      rfl

theorem run_eventsAll_below (f : τ → List α → α) (ts : List (VisitTree τ)) (above : τ)
    (earlier : List α) (rest : List (τ × List α)) (result : Option α) :
    run f ⟨(above, earlier) :: rest, result⟩ (VisitTree.eventsAll ts) =
      some ⟨(above, earlier ++ VisitTree.foldAll f ts) :: rest, result⟩ := by
  match ts with
  | [] => simp [VisitTree.eventsAll, VisitTree.foldAll, run]
  | t :: others =>
      rw [VisitTree.eventsAll, run_append, run_events_below f t, Option.bind_some,
        run_eventsAll_below f others, VisitTree.foldAll, List.append_assoc, List.singleton_append]

end

/-- The events of a tree leave its value as the result. -/
theorem run_events (f : τ → List α → α) (t : VisitTree τ) (result : Option α) :
    run f ⟨[], result⟩ t.events = some ⟨[], some (t.fold f)⟩ := by
  obtain ⟨node, path, below⟩ := t
  rw [VisitTree.events, run_enter_cons, run_append, run_eventsAll_below f below]
  rfl

end StackMachine

/-- A walk without fault visits a tree, and only that one, and what it tells the visitor lets the
stack machine compute the fold of every function over that tree, with an empty stack at the end. -/
theorem Walker.callbacks_compute_fold [SyntaxTree τ] (w : Walker) (v : Visitor σ τ) (s : σ)
    (node : τ) (path : Path) (polymorphic : Bool)
    (ok : (w.walkFrom v s node path polymorphic).result = .ok ()) :
    ∃ t, Visited w.grammar v s ⟨node, path, polymorphic⟩ t
        (w.walkFrom v s node path polymorphic).state ∧
      (∀ t' s', Visited w.grammar v s ⟨node, path, polymorphic⟩ t' s' → t' = t) ∧
      ∀ (α : Type) (f : τ → List α → α),
        StackMachine.run f ⟨[], none⟩ (w.logFrom v s node path polymorphic).2 =
          some ⟨[], some (t.fold f)⟩ := by
  obtain ⟨t, visited, told⟩ := w.exists_visited v ⟨node, path, polymorphic⟩ 0 s ok
  refine ⟨t, visited, ?_, ?_⟩
  · intro t' s' visited'
    exact (visited'.unique visited).1
  · intro α f
    change StackMachine.run f ⟨[], none⟩ (w.events v s [.visit node path polymorphic 0]) = _
    rw [show w.events v s [.visit node path polymorphic 0] = t.events from told]
    exact StackMachine.run_events f t none

/-- A package of one file with one declaration. -/
def samplePackage : Node :=
  (Node.ofKind "Package").withKeyed "Files"
    [("a.go", ((Node.ofKind "File").withNode "Name" (Node.ident "main")).withList "Decls"
      [Node.ofKind "BadDecl"])]

/-- A visitor that counts the nodes it enters and goes on below the first two of them. -/
def Visitor.firstTwo : Visitor Nat τ := .inspector fun count _ _ => (count + 1, count < 2)

theorem callbacks_compute_fold_of_package :
    ((⟨Grammar.go, 2⟩ : Walker).walkFrom .firstTwo 0 samplePackage .empty true).result = .ok () ∧
    ∃ t, Visited Grammar.go .firstTwo 0 ⟨samplePackage, .empty, true⟩ t
        ((⟨Grammar.go, 2⟩ : Walker).walkFrom .firstTwo 0 samplePackage .empty true).state ∧
      (∀ t' s', Visited Grammar.go .firstTwo 0 ⟨samplePackage, .empty, true⟩ t' s' → t' = t) ∧
      ∀ (α : Type) (f : Node → List α → α),
        StackMachine.run f ⟨[], none⟩
            ((⟨Grammar.go, 2⟩ : Walker).logFrom .firstTwo 0 samplePackage .empty true).2 =
          some ⟨[], some (t.fold f)⟩ := by
  have ok : ((⟨Grammar.go, 2⟩ : Walker).walkFrom .firstTwo 0 samplePackage .empty true).result =
      .ok () := by cbv
  exact ⟨ok, Walker.callbacks_compute_fold _ _ _ _ _ _ ok⟩

end TreeSearch

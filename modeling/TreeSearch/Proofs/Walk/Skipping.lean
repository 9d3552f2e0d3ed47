import TreeSearch.Proofs.Walk.Addresses
import TreeSearch.Proofs.Walk.Conformance
import Mathlib.Data.List.Permutation

/-!
# Skipping is filtering

A visitor that decides by the node and its path where to skip sees the tree of visits of a visitor
that skips nothing, without what lies below the skipped visits (`Visited.eq_prune`). In the order of
the visits this is a filter: a visit stays exactly if none of the visits above it is skipped
(`VisitTree.entered_prune`). Skipping only takes places away from a walk, so a walk without fault
stays one (`Walker.run_ok_of_skipping`).
-/

namespace TreeSearch

variable {σ ρ τ : Type}

/-- The visit of a node, with the visits that it lies below, the nearest one first. -/
structure Visit (τ : Type) where
  node : τ
  path : Path
  above : List (τ × Path)

namespace Visit

/-- What the visitor is told when the visit begins. -/
def entry (x : Visit τ) : τ × Path := (x.node, x.path)

/-- Whether the visit lies below one where the predicate holds. -/
def isBelow (skips : τ → Path → Bool) (x : Visit τ) : Bool := x.above.any fun a => skips a.1 a.2

end Visit

/-- Whether the event ends a visit. -/
def Event.isExit : Event τ → Bool
  | .enter _ _ => false
  | .exit => true

namespace VisitTree

mutual

/-- The visits of a tree in order, where the tree lies below the given visits. -/
def visits (above : List (τ × Path)) : VisitTree τ → List (Visit τ)
  | .mk node path below => ⟨node, path, above⟩ :: visitsAll ((node, path) :: above) below

/-- The visits of several trees in order, where the trees lie below the given visits. -/
def visitsAll (above : List (τ × Path)) : List (VisitTree τ) → List (Visit τ)
  | [] => []
  | t :: rest => t.visits above ++ visitsAll above rest

end

mutual

/-- The tree without what lies below visits where the predicate holds. -/
def prune (skips : τ → Path → Bool) : VisitTree τ → VisitTree τ
  | .mk node path below => .mk node path (if skips node path then [] else pruneAll skips below)

/-- Several trees without what lies below visits where the predicate holds. -/
def pruneAll (skips : τ → Path → Bool) : List (VisitTree τ) → List (VisitTree τ)
  | [] => []
  | t :: rest => t.prune skips :: pruneAll skips rest

end

mutual

/-- What is entered in the order of the events is what is visited. -/
theorem entered_eq_visits (t : VisitTree τ) (above : List (τ × Path)) :
    entered t.events = (t.visits above).map Visit.entry := by
  match t with
  | .mk node path below =>
      rw [entered_events, visits, List.map_cons, enteredAll_eq_visitsAll below]
      rfl

theorem enteredAll_eq_visitsAll (ts : List (VisitTree τ)) (above : List (τ × Path)) :
    entered (eventsAll ts) = (visitsAll above ts).map Visit.entry := by
  match ts with
  | [] => rfl
  | t :: rest =>
      rw [eventsAll, entered_append, visitsAll, List.map_append, entered_eq_visits t above,
        enteredAll_eq_visitsAll rest above]

end

mutual

/-- The visits of a tree lie below all visits that the tree lies below. -/
theorem suffix_of_mem_visits (t : VisitTree τ) (above : List (τ × Path)) :
    ∀ x ∈ t.visits above, above <:+ x.above := by
  match t with
  | .mk node path below =>
      intro x mem
      rw [visits, List.mem_cons] at mem
      rcases mem with rfl | mem
      · exact List.suffix_refl above
      · have further := suffix_of_mem_visitsAll below ((node, path) :: above) x mem
        exact (List.suffix_cons (node, path) above).trans further

theorem suffix_of_mem_visitsAll (ts : List (VisitTree τ)) (above : List (τ × Path)) :
    ∀ x ∈ visitsAll above ts, above <:+ x.above := by
  match ts with
  | [] =>
      intro x mem
      cases mem
  | t :: rest =>
      intro x mem
      rw [visitsAll, List.mem_append] at mem
      rcases mem with mem | mem
      · exact suffix_of_mem_visits t above x mem
      · exact suffix_of_mem_visitsAll rest above x mem

end

/-- Below a skipped visit nothing stays. -/
theorem filter_visitsAll_of_skipped {skips : τ → Path → Bool} {node : τ} {path : Path}
    (skipped : skips node path = true) (above : List (τ × Path)) (ts : List (VisitTree τ)) :
    (visitsAll ((node, path) :: above) ts).filter (fun x => !x.isBelow skips) = [] := by
  rw [List.filter_eq_nil_iff]
  intro x mem
  have under : (node, path) ∈ x.above :=
    (suffix_of_mem_visitsAll ts _ x mem).subset List.mem_cons_self
  have below : x.isBelow skips = true := List.any_eq_true.mpr ⟨_, under, skipped⟩
  simp [below]

mutual

/-- The visits that stay in a pruned tree are those without a skipped one above them. -/
theorem entered_prune (skips : τ → Path → Bool) (t : VisitTree τ) (above : List (τ × Path))
    (kept : ∀ a ∈ above, skips a.1 a.2 = false) :
    entered (t.prune skips).events =
      ((t.visits above).filter fun x => !x.isBelow skips).map Visit.entry := by
  match t with
  | .mk node path below =>
      have here : Visit.isBelow skips ⟨node, path, above⟩ = false := by
        simpa [Visit.isBelow] using kept
      rw [prune, entered_events, visits, List.filter_cons_of_pos (by rw [here]; rfl), List.map_cons]
      cases skipped : skips node path with
      | true =>
          rw [filter_visitsAll_of_skipped skipped]
          rfl
      | false =>
          rw [← entered_pruneAll skips below ((node, path) :: above)
            (List.forall_mem_cons.mpr ⟨skipped, kept⟩)]
          rfl

theorem entered_pruneAll (skips : τ → Path → Bool) (ts : List (VisitTree τ))
    (above : List (τ × Path)) (kept : ∀ a ∈ above, skips a.1 a.2 = false) :
    entered (eventsAll (pruneAll skips ts)) =
      ((visitsAll above ts).filter fun x => !x.isBelow skips).map Visit.entry := by
  match ts with
  | [] => rfl
  | t :: rest =>
      rw [pruneAll, eventsAll, entered_append, visitsAll, List.filter_append, List.map_append,
        entered_prune skips t above kept, entered_pruneAll skips rest above kept]

end

mutual

/-- Every visit of a tree ends once. -/
theorem countP_isExit_events (t : VisitTree τ) :
    t.events.countP Event.isExit = (entered t.events).length := by
  match t with
  | .mk node path below =>
      rw [entered_events, List.length_cons, ← countP_isExit_eventsAll below]
      simp [events, Event.isExit]

theorem countP_isExit_eventsAll (ts : List (VisitTree τ)) :
    (eventsAll ts).countP Event.isExit = (entered (eventsAll ts)).length := by
  match ts with
  | [] => rfl
  | t :: rest =>
      rw [eventsAll, List.countP_append, entered_append, List.length_append,
        countP_isExit_events t, countP_isExit_eventsAll rest]

end

end VisitTree

variable [SyntaxTree τ]

section Visits

variable {g : Grammar} {v : Visitor σ τ} {u : Visitor ρ τ} {skips : τ → Path → Bool}

mutual

/-- A visitor that skips sees the tree of a visitor that skips nothing, pruned. -/
theorem Visited.eq_prune (descends : ∀ s n p, (v.enter s n p).2 = .descend)
    (decided : u.DecidedBy fun n p => !skips n p) {s s' : σ} {r r' : ρ} {x : Place τ}
    {t t' : VisitTree τ} : Visited g v s x t s' → Visited g u r x t' r' → t' = t.prune skips
  | .skip enter, _ => by
      have decision := descends s x.node x.path
      rw [enter] at decision
      cases decision
  | .descend _ _, .skip enter => by
      have decision := decided r x.node x.path
      rw [enter] at decision
      cases skipped : skips x.node x.path with
      | true => simp [VisitTree.prune, skipped]
      | false => simp [skipped] at decision
  | .descend _ all, .descend enter all' => by
      have decision := decided r x.node x.path
      rw [enter] at decision
      cases skipped : skips x.node x.path with
      | true => simp [skipped] at decision
      | false =>
          rw [VisitedAll.eq_pruneAll descends decided all all']
          simp [VisitTree.prune, skipped]

theorem VisitedAll.eq_pruneAll (descends : ∀ s n p, (v.enter s n p).2 = .descend)
    (decided : u.DecidedBy fun n p => !skips n p) {s s' : σ} {r r' : ρ} {xs : List (Place τ)}
    {ts ts' : List (VisitTree τ)} :
    VisitedAll g v s xs ts s' → VisitedAll g u r xs ts' r' → ts' = VisitTree.pruneAll skips ts
  | .nil, .nil => by rw [VisitTree.pruneAll]
  | .cons first others, .cons first' others' => by
      rw [VisitTree.pruneAll, Visited.eq_prune descends decided first first',
        VisitedAll.eq_pruneAll descends decided others others']

end

end Visits

/-- A visitor that goes on below more nodes reaches more places. -/
theorem Reached.mono {g : Grammar} {goesOn goesOn' : τ → Path → Bool}
    (more : ∀ n p, goesOn n p = true → goesOn' n p = true) {start x : Place τ} {depth : Nat}
    (reached : Reached g goesOn start x depth) : Reached g goesOn' start x depth := by
  induction reached with
  | start => exact .start
  | step _ here mem ih => exact .step ih (more _ _ here) mem

namespace Walker

variable (w : Walker) {v : Visitor σ τ} {u : Visitor ρ τ}

/-- Skipping does not make a walk fail: every place that is reached with skipping is reached without
it, where it has no fault. -/
theorem run_ok_of_skipping (descends : ∀ s n p, (v.enter s n p).2 = .descend)
    {goesOn : τ → Path → Bool} (decided : u.DecidedBy goesOn) {s : σ} (r : ρ) (start : Place τ)
    (ok : (w.run v s [start.visit 0]).result = .ok ()) :
    (w.run u r [start.visit 0]).result = .ok () := by
  have always : v.DecidedBy fun _ _ => true := descends
  cases ends : (w.run u r [start.visit 0]).result with
  | ok _ => rfl
  | error e =>
      exfalso
      -- The place of the fault is reached without skipping, too, and there it has none.
      obtain ⟨y, depth, reached, fault⟩ := fault_of_visit_error w decided start 0 .start r ends
      obtain ⟨s', okHere⟩ := visit_ok_of_reached w always ok (reached.mono fun _ _ _ => rfl)
      obtain ⟨shallow, below⟩ := visit_ok_inv w always okHere
      rcases fault with ⟨deep, -⟩ | ⟨-, fault⟩
      · omega
      · exact fault.not_conforms (below rfl).1

/-- Skipping is filtering. If a walk that goes on below every node is without fault, so is the walk
of a visitor that skips exactly where a predicate of the node and its path holds. What it enters are
the visits of the former walk without those that lie below one where the predicate holds, in the
same order and at the same paths, and it leaves as many nodes as it enters. -/
theorem skipping_filters_visits (descends : ∀ s n p, (v.enter s n p).2 = .descend)
    (skips : τ → Path → Bool) (decided : u.DecidedBy fun n p => !skips n p) (s : σ) (r : ρ)
    (root : τ) (ok : (w.walk v s root).result = .ok ()) :
    (w.walk u r root).result = .ok () ∧
    ∃ t : VisitTree τ, Visited w.grammar v s (.root root) t (w.walk v s root).state ∧
      (w.log v s root).2 = t.events ∧
      entered (w.log v s root).2 = (t.visits []).map Visit.entry ∧
      entered (w.log u r root).2 =
        ((t.visits []).filter fun x => !x.isBelow skips).map Visit.entry ∧
      (w.log u r root).2.countP Event.isExit = (entered (w.log u r root).2).length := by
  have okSkipping : (w.walk u r root).result = .ok () :=
    run_ok_of_skipping w descends decided r (.root root) ok
  obtain ⟨t, visited, told⟩ := w.exists_visited v (.root root) 0 s ok
  obtain ⟨t', visited', told'⟩ := w.exists_visited u (.root root) 0 r okSkipping
  have log : (w.log v s root).2 = t.events := told
  have log' : (w.log u r root).2 = (t.prune skips).events := by
    rw [← visited.eq_prune descends decided visited']
    exact told'
  refine ⟨okSkipping, t, visited, log, ?_, ?_, ?_⟩
  · rw [log]
    exact t.entered_eq_visits []
  · rw [log']
    exact t.entered_prune skips [] (by simp)
  · rw [log']
    exact VisitTree.countP_isExit_events _

end Walker

/-- A visitor that skips all but packages, so also nodes below a node that it skips. -/
def Visitor.outermost : Visitor Unit Node :=
  .inspector fun s n _ => (s, !decide (n.kind ≠ "Package"))

theorem skipping_filters_visits_of_package :
    ((⟨Grammar.go, 2⟩ : Walker).walk .descending () samplePackage).result = .ok () ∧
    Visitor.outermost.DecidedBy (fun n _ => !decide (n.kind ≠ "Package")) ∧
    (entered ((⟨Grammar.go, 2⟩ : Walker).log .descending () samplePackage).2).map
      (fun e => e.2.render ".") =
        ["", "Files[a.go]", "Files[a.go].Name", "Files[a.go].Decls[0]"] ∧
    (entered ((⟨Grammar.go, 2⟩ : Walker).log .outermost () samplePackage).2).map
      (fun e => e.2.render ".") = ["", "Files[a.go]"] ∧
    ((⟨Grammar.go, 2⟩ : Walker).walk .outermost () samplePackage).result = .ok () ∧
    ∃ t : VisitTree Node,
      Visited Grammar.go .descending () (.root samplePackage) t () ∧
      ((⟨Grammar.go, 2⟩ : Walker).log .descending () samplePackage).2 = t.events ∧
      entered ((⟨Grammar.go, 2⟩ : Walker).log .outermost () samplePackage).2 =
        ((t.visits []).filter fun x => !x.isBelow fun n _ => decide (n.kind ≠ "Package")).map
          Visit.entry := by
  have ok : ((⟨Grammar.go, 2⟩ : Walker).walk .descending () samplePackage).result = .ok () := by cbv
  have decided : Visitor.outermost.DecidedBy (fun n _ => !decide (n.kind ≠ "Package")) :=
    fun _ _ _ => rfl
  obtain ⟨okSkipping, t, visited, told, -, stays, -⟩ := Walker.skipping_filters_visits
    ⟨Grammar.go, 2⟩ (fun _ _ _ => rfl) (fun n _ => decide (n.kind ≠ "Package")) decided () ()
    samplePackage ok
  exact ⟨ok, decided, by cbv, by cbv, okSkipping, t, visited, told, stays⟩

end TreeSearch
